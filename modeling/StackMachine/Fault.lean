import StackMachine.Instruction
import StackMachine.Text.Utf8

/-!
Faults: everything that can go wrong, one constructor for each cause. A fault belongs to a class, by
which the debuggers decide what they report and what ends them, and it has a message.
-/

set_option autoImplicit false

namespace StackMachine

inductive FaultClass where
  | stop
  | assertion
  | index
  | key
  | type
  | value
  | division
  | overflow
  | member
  | unsupported
  | name
  | endOfInput
  | interrupt
  | recursion
  | json
  | file
  | system
  | encoding
  | general
  deriving Repr, DecidableEq

inductive Fault where
  /-- A breakpoint was carried out. -/
  | breakpoint
  /-- An instruction has too many or too few arguments. -/
  | wrongArity (op : Opcode) (args : List Value)
  /-- A variable is read that has not been stored. -/
  | undefinedVariable (name : Value)
  /-- Two operands are not numbers of one kind. -/
  | operandKinds (first second : Kind)
  /-- An operand is no number. -/
  | operandKind (kind : Kind)
  /-- What was read is no text. -/
  | inputNotText (kind : Kind)
  /-- What was read is no number. -/
  | inputNotNumber (kind : Kind)
  /-- The target of a jump is no text. -/
  | targetNotText (op : Opcode) (kind : Kind)
  /-- An instruction has no known operation code. -/
  | unknownOperation (instruction : Instruction)
  /-- Something is taken from an empty list. -/
  | emptyPop
  /-- A dictionary has no entry under a key. -/
  | missingKey (key : Value)
  /-- A list has no item at an index. -/
  | indexOutOfRange
  /-- An argument that is not there is asked for. -/
  | argumentOutOfRange
  /-- A value of this kind cannot be a dictionary key. -/
  | unhashable (kind : Kind)
  | integerDivisionByZero
  | floatDivisionByZero
  | floatFloorDivisionByZero
  /-- A function is not defined at its operand. -/
  | mathDomain
  /-- The result of a function is too large. -/
  | mathRange
  /-- An integer is too large for a floating-point number. -/
  | integerTooLarge
  /-- An integer is too long to be written. -/
  | writtenTooLong
  /-- A numeral of an integer is too long to be read. -/
  | readTooLong (digits : Nat)
  /-- A text is read as a floating-point number and denotes none. -/
  | notAFloat (text : String)
  /-- A text is read as an integer and denotes none. -/
  | notAnInteger (text : String)
  /-- Nothing is left to be read. -/
  | endOfInput
  /-- Reading was interrupted. -/
  | interrupted
  /-- An instruction was carried out without labels. -/
  | missingLabels
  /-- An operation with one argument was given the machine that it was called on as well. -/
  | unexpectedArgument (method : String)
  /-- An input feed that takes no prompt was given one or more. -/
  | feedTakesNoPrompt (given : Nat)
  /-- An input feed that takes one prompt was given none. -/
  | feedNeedsPrompt
  /-- An input feed that takes one prompt was given more. -/
  | feedTakesOnePrompt (given : Nat)
  /-- A value of this kind has no such member. -/
  | noMember (kind : Kind) (member : String)
  /-- The first word of a line is no operation code. -/
  | invalidOpcode (word : Value)
  /-- A line has more arguments than any instruction takes. -/
  | tooManyArguments (count : Nat)
  /-- Values of these kinds cannot be combined by an operator. -/
  | unsupportedOperands (operator : String) (left right : Kind)
  /-- Something of another kind is appended to a sequence. -/
  | cannotConcatenate (sequence other : Kind)
  /-- A sequence is repeated by something that is no integer. -/
  | cannotRepeat (kind : Kind)
  /-- A value of this kind has no length. -/
  | noLength (kind : Kind)
  /-- A value of this kind has no items. -/
  | notSubscriptable (kind : Kind)
  /-- A list is asked for an item by something that is no integer. -/
  | listIndexKind (kind : Kind)
  /-- A text is asked for a character by something that is no integer. -/
  | textIndexKind (kind : Kind)
  /-- A value of this kind cannot be searched. -/
  | notSearchable (kind : Kind)
  /-- A text is searched for something that is no text. -/
  | textSearchKind (kind : Kind)
  /-- Items of a value of this kind cannot be replaced. -/
  | noItemAssignment (kind : Kind)
  /-- An item is replaced that a list does not have. -/
  | assignmentOutOfRange
  /-- An index is larger than any list. -/
  | indexTooLarge
  /-- A dictionary is asked to give up an entry without being told which. -/
  | popNeedsKey
  /-- A name is used that nothing is bound to. -/
  | unboundName (name : String)
  /-- A file does not exist. -/
  | fileNotFound (path : String)
  /-- A name in a path is longer than any file's. -/
  | nameTooLong (path : String)
  /-- The bytes of a file are no text. -/
  | encoding (fault : Text.Utf8Fault)
  /-- The text of a file is no JSON. -/
  | json (reason : String) (line column position : Nat)
  /-- Saved frames and saved return points do not pair up. -/
  | framesMismatch
  /-- A function is called with more arguments than it takes. -/
  | tooManyPositional (function : String) (least most given : Nat)
  /-- A function is called with a keyword that it does not have. -/
  | unexpectedKeyword (function keyword : String)
  /-- A parameter is given a value twice. -/
  | multipleValues (function parameter : String)
  /-- Parameters are left without a value. -/
  | missingArguments (function : String) (parameters : List String)
  /-- An expectation of a check is not met; the text tells what was found. -/
  | failedCheck (found : String)
  /-- A recursion does not end. -/
  | endlessRecursion

namespace Fault

def classOf : Fault → FaultClass
  | .breakpoint => .stop
  | .wrongArity .. | .undefinedVariable .. | .operandKinds .. | .operandKind .. | .inputNotText ..
  | .inputNotNumber .. | .targetNotText .. | .invalidOpcode .. | .tooManyArguments ..
  | .failedCheck .. => .assertion
  | .unknownOperation .. => .unsupported
  | .emptyPop | .indexOutOfRange | .argumentOutOfRange | .assignmentOutOfRange | .indexTooLarge => .index
  | .missingKey .. => .key
  | .integerDivisionByZero | .floatDivisionByZero | .floatFloorDivisionByZero => .division
  | .mathDomain | .writtenTooLong | .readTooLong .. | .notAFloat .. | .notAnInteger .. => .value
  | .mathRange | .integerTooLarge => .overflow
  | .endOfInput => .endOfInput
  | .interrupted => .interrupt
  | .noMember .. => .member
  | .unboundName .. => .name
  | .fileNotFound .. => .file
  | .nameTooLong .. => .system
  | .encoding .. => .encoding
  | .json .. => .json
  | .framesMismatch => .general
  | .endlessRecursion => .recursion
  | .unhashable .. | .missingLabels | .unexpectedArgument .. | .feedTakesNoPrompt .. | .feedNeedsPrompt
  | .feedTakesOnePrompt .. | .unsupportedOperands .. | .cannotConcatenate .. | .cannotRepeat ..
  | .noLength .. | .notSubscriptable .. | .listIndexKind .. | .textIndexKind .. | .notSearchable ..
  | .textSearchKind .. | .noItemAssignment .. | .popNeedsKey | .tooManyPositional ..
  | .unexpectedKeyword .. | .multipleValues .. | .missingArguments .. => .type

/-- How many arguments the message of a wrong arity says an operation takes. -/
def arityPhrase : Opcode → String
  | .loadConst | .jump | .branch => "one argument"
  | .loadVar | .storeVar => "one arguments"
  | _ => "no arguments"

/-- The tail of the messages about the digit limit. -/
def limitAdvice : String := "; use sys.set_int_max_str_digits() to increase the limit"

/-- The head of the messages about the digit limit. -/
def limitNotice : String :=
  "Exceeds the limit (" ++ toString Numeral.digitLimit ++ " digits) for integer string conversion"

/-- Quoted names joined for a sentence: two by a word, more with commas as well. -/
def joinNames : List String → String
  | [] => ""
  | [a] => "'" ++ a ++ "'"
  | [a, b] => "'" ++ a ++ "' and '" ++ b ++ "'"
  | [a, b, c] => "'" ++ a ++ "', '" ++ b ++ "', and '" ++ c ++ "'"
  | a :: rest => "'" ++ a ++ "', " ++ joinNames rest

def message : Fault → String
  | .breakpoint => "Breakpoint hit"
  | .wrongArity op args =>
    op.name ++ " takes " ++ arityPhrase op ++ ". Got: " ++ String.ofList (tupleLiteral args)
  | .undefinedVariable name => "Variable " ++ String.ofList name.literal ++ " not defined."
  | .operandKinds first second =>
    "Operands must be same type and either int or float. Got: " ++ first.name ++ " and " ++ second.name
  | .operandKind kind => "Operand must be either int or float. Got: " ++ kind.name
  | .inputNotText kind => "Operand must be str. Got: " ++ kind.name
  | .inputNotNumber kind => "Operand must be float/int. Got: " ++ kind.name
  | .targetNotText op kind => op.name ++ " takes str as input. Got: " ++ kind.name
  | .unknownOperation instruction => "Unknown op: " ++ String.ofList instruction.literal
  | .emptyPop => "pop from empty list"
  | .missingKey key => String.ofList key.literal
  | .indexOutOfRange => "list index out of range"
  | .argumentOutOfRange => "tuple index out of range"
  | .unhashable kind => "unhashable type: '" ++ kind.name ++ "'"
  | .integerDivisionByZero => "integer division or modulo by zero"
  | .floatDivisionByZero => "float division by zero"
  | .floatFloorDivisionByZero => "float floor division by zero"
  | .mathDomain => "math domain error"
  | .mathRange => "math range error"
  | .integerTooLarge => "int too large to convert to float"
  | .writtenTooLong => limitNotice ++ limitAdvice
  | .readTooLong digits => limitNotice ++ ": value has " ++ toString digits ++ " digits" ++ limitAdvice
  | .notAFloat text =>
    "could not convert string to float: " ++ String.ofList (Text.quoted text.toList)
  | .notAnInteger text =>
    "invalid literal for int() with base 10: " ++ String.ofList ((Text.quoted text.toList).take 200)
  | .endOfInput => "EOF when reading a line"
  | .interrupted => ""
  | .missingLabels => "VM.run_op() missing 1 required positional argument: 'labels'"
  | .unexpectedArgument method => "VM." ++ method ++ "() takes 1 positional argument but 2 were given"
  | .feedTakesNoPrompt given =>
    "MyIO.input_fn() takes 1 positional argument but " ++ toString (given + 1) ++ " were given"
  | .feedNeedsPrompt => "MyIO.input_fn() missing 1 required positional argument: 'obj'"
  | .feedTakesOnePrompt given =>
    "MyIO.input_fn() takes 2 positional arguments but " ++ toString (given + 1) ++ " were given"
  | .noMember kind member => "'" ++ kind.name ++ "' object has no attribute '" ++ member ++ "'"
  | .invalidOpcode word => "Invalid OpCode input: " ++ String.ofList word.display
  | .tooManyArguments count => "Too many arguments (max: 2). Got: " ++ toString count
  | .unsupportedOperands operator left right =>
    "unsupported operand type(s) for " ++ operator ++ ": '" ++ left.name ++ "' and '" ++ right.name ++ "'"
  | .cannotConcatenate sequence other =>
    "can only concatenate " ++ sequence.name ++ " (not \"" ++ other.name ++ "\") to " ++ sequence.name
  | .cannotRepeat kind => "can't multiply sequence by non-int of type '" ++ kind.name ++ "'"
  | .noLength kind => "object of type '" ++ kind.name ++ "' has no len()"
  | .notSubscriptable kind => "'" ++ kind.name ++ "' object is not subscriptable"
  | .listIndexKind kind => "list indices must be integers or slices, not " ++ kind.name
  | .textIndexKind kind => "string indices must be integers, not '" ++ kind.name ++ "'"
  | .notSearchable kind => "argument of type '" ++ kind.name ++ "' is not iterable"
  | .textSearchKind kind => "'in <string>' requires string as left operand, not " ++ kind.name
  | .noItemAssignment kind => "'" ++ kind.name ++ "' object does not support item assignment"
  | .assignmentOutOfRange => "list assignment index out of range"
  | .indexTooLarge => "cannot fit 'int' into an index-sized integer"
  | .popNeedsKey => "pop expected at least 1 argument, got 0"
  | .unboundName name => "name '" ++ name ++ "' is not defined"
  | .fileNotFound path => "[Errno 2] No such file or directory: '" ++ path ++ "'"
  | .nameTooLong path =>
    "[Errno 36] File name too long: " ++ String.ofList (Text.quoted path.toList)
  | .encoding fault => fault.message
  | .json reason line column position =>
    reason ++ ": line " ++ toString line ++ " column " ++ toString column ++
      " (char " ++ toString position ++ ")"
  | .framesMismatch => "\nFrames are handled incorrectly!"
  | .tooManyPositional function least most given =>
    let taken :=
      if least = most then toString most ++ " positional argument" ++ (if most = 1 then "" else "s")
      else "from " ++ toString least ++ " to " ++ toString most ++ " positional arguments"
    function ++ "() takes " ++ taken ++ " but " ++ toString given ++
      (if given = 1 then " was given" else " were given")
  | .unexpectedKeyword function keyword =>
    function ++ "() got an unexpected keyword argument '" ++ keyword ++ "'"
  | .multipleValues function parameter =>
    function ++ "() got multiple values for argument '" ++ parameter ++ "'"
  | .missingArguments function parameters =>
    function ++ "() missing " ++ toString parameters.length ++ " required positional argument" ++
      (if parameters.length = 1 then "" else "s") ++ ": " ++ joinNames parameters
  | .failedCheck found => found
  | .endlessRecursion => "maximum recursion depth exceeded"

/-- The fault of a wrong arity. Its message shows the arguments, so one that is too long to be written
takes its place. -/
def arity (op : Opcode) (args : List Value) : Fault :=
  if args.all Value.printable then .wrongArity op args else .writtenTooLong

def undefined (name : Value) : Fault :=
  if name.printable then .undefinedVariable name else .writtenTooLong

/-- The fault of carrying out an instruction without a known operation code. -/
def unknown (instruction : Instruction) : Fault :=
  if instruction.printable then .unknownOperation instruction else .writtenTooLong

end Fault

/-- The literal of a value, unless it is too long to be written. -/
def Value.write (value : Value) : Except Fault (List Char) :=
  if value.printable then .ok value.literal else .error .writtenTooLong

/-- The display of a value, unless it is too long to be written. -/
def Value.show (value : Value) : Except Fault (List Char) :=
  if value.printable then .ok value.display else .error .writtenTooLong

/-- The literal of an instruction, unless it is too long to be written. -/
def Instruction.write (instruction : Instruction) : Except Fault (List Char) :=
  if instruction.printable then .ok instruction.literal else .error .writtenTooLong

/-- The line of a listing for an instruction. A word that names no operation code cannot be listed. -/
def Instruction.list (instruction : Instruction) : Except Fault (List Char) :=
  if instruction.printable then
    match instruction.mnemonic with
    | .known op => .ok (Instruction.line op instruction.args)
    | .unknown _ => .error (.noMember .text "name")
  else .error .writtenTooLong

end StackMachine

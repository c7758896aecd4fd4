import StackMachine.Pocket

/-!
Listings of the pocket machine: one instruction a line, its words one space apart and nothing quoted. A
word of digits is an integer and any other word is itself, an empty one included.
-/

set_option autoImplicit false

namespace StackMachine

namespace Text

/-- Characters that end a line on their own. -/
def isLineBreak (c : Char) : Bool :=
  let n := c.toNat
  (0xa ≤ n && n ≤ 0xd) || (0x1c ≤ n && n ≤ 0x1e) || n == 0x85 || n == 0x2028 || n == 0x2029

/-- The lines of a text, broken at every line break. A carriage return with the newline after it is
one break, and a break at the very end opens no further line. -/
def lines : List Char → List (List Char)
  | [] => []
  | '\r' :: '\n' :: rest => [] :: lines rest
  | c :: rest =>
    if isLineBreak c then [] :: lines rest
    else
      match lines rest with
      | [] => [[c]]
      | line :: others => (c :: line) :: others

end Text

namespace Pocket

open Text

def opcodes : List Opcode := [
  .loadConst, .storeVar, .loadVar, .arithmetic .add, .arithmetic .sub]

def opcode? (name : String) : Option Opcode :=
  opcodes.find? fun op => op.name = name

/-- The instruction with a name, which need not be that of an operation. -/
def instruction (name : String) (args : List Value) : Instruction :=
  match opcode? name with
  | some op => ⟨.known op, args⟩
  | none => ⟨.unknown name, args⟩

/-- The value that a word denotes. Some words of digit forms are no integers and are refused. -/
def readWord (word : List Char) : Except Fault Value :=
  if allDigitForms word then
    match Numeral.readInteger word with
    | .value n => .ok (.int n)
    | .tooLong digits => .error (.readTooLong digits)
    | .malformed => .error (.notAnInteger (String.ofList word))
  else .ok (.text (String.ofList word))

/-- Reads one line; the arguments are read before the operation is looked up. -/
def readLine (line : List Char) : Except Fault Instruction :=
  match cut (· == ' ') line with
  | [] => .error (.missingKey (.text ""))
  | name :: words => do
    let args ← words.mapM readWord
    match opcode? (String.ofList name) with
    | some op => return ⟨.known op, args⟩
    | none => throw (.missingKey (.text (String.ofList name)))

def read (text : List Char) : Except Fault (List Instruction) :=
  (lines text).mapM readLine

def write (code : List Instruction) : Except Fault (List Char) := do
  let lines ← code.mapM Instruction.list
  return ['\n'].intercalate lines

/-- A program that computes a difference of two variables. -/
def sample : List Instruction := [
  .of .loadConst [.int 10], .of .storeVar [.text "a"],
  .of .loadConst [.int 20], .of .storeVar [.text "b"],
  .of .loadVar [.text "a"], .of .loadVar [.text "b"],
  .of (.arithmetic .sub) [], .of .storeVar [.text "c"]]

/-- Writes and reads the sample, runs it, and shows stack and variables. -/
def demonstrate (terminal : Terminal) : Terminal × Option Fault :=
  match write sample >>= read with
  | .error fault => (terminal, some fault)
  | .ok code =>
    match Pocket.run {} terminal code with
    | (_, terminal, some fault) => (terminal, some fault)
    | (pocket, terminal, none) =>
      let shown := pocket.stack.literal ++ ' ' :: pocket.bindings.literal
      (terminal.writeLine (String.ofList shown), none)

end Pocket

end StackMachine

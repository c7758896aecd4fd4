import StackMachine.Value.Arithmetic

/-!
Calls of functions with positional and named arguments.
-/

set_option autoImplicit false

namespace StackMachine.Analysis

/-- A parameter of a function. It may be left out of a call if it has a default. -/
structure Parameter where
  name : String
  default? : Option Value := none

/-- The values that a call gives to parameters so far. -/
abbrev Given := List (String × Value)

/-- Adds a named argument. It must name a parameter that has no value yet. -/
def addNamed (function : String) (parameters : List Parameter) (given : Given) (argument : String × Value) :
    Except Fault Given :=
  if !parameters.any (·.name = argument.1) then .error (.unexpectedKeyword function argument.1)
  else if given.any (·.1 = argument.1) then .error (.multipleValues function argument.1)
  else .ok (given ++ [argument])

/-- The value of a parameter: the one given, else its default. -/
def Parameter.value? (parameter : Parameter) (given : Given) : Option Value :=
  match given.find? (·.1 = parameter.name) with
  | some (_, value) => some value
  | none => parameter.default?

/-- Gives every parameter its value. Named arguments are looked at first, then surplus positional ones,
then parameters without a value. -/
def bind (function : String) (parameters : List Parameter) (positional : List Value)
    (named : List (String × Value)) : Except Fault (List Value) := do
  let first : Given := (parameters.map Parameter.name).zip positional
  let given ← named.foldlM (addNamed function parameters) first
  if parameters.length < positional.length then
    let least := (parameters.filter (·.default?.isNone)).length
    throw (.tooManyPositional function least parameters.length positional.length)
  let missing := parameters.filter fun parameter => (parameter.value? given).isNone
  if !missing.isEmpty then throw (.missingArguments function (missing.map Parameter.name))
  return parameters.filterMap fun parameter => parameter.value? given

inductive Subject where
  | add
  | sub
  | div
  deriving Repr, DecidableEq

namespace Subject

def name : Subject → String
  | .add => "add"
  | .sub => "sub"
  | .div => "div"

def ofName? (name : String) : Option Subject :=
  [add, sub, div].find? fun subject => subject.name = name

/-- The parameters of a function; a subtraction takes away one unless told otherwise. -/
def parameters : Subject → List Parameter
  | .sub => [⟨"a", none⟩, ⟨"b", some (.int 1)⟩]
  | _ => [⟨"a", none⟩, ⟨"b", none⟩]

def apply : Subject → Value → Value → Except Fault Value
  | .add => Value.plus
  | .sub => Value.minus
  | .div => Value.floorDivide

def call (subject : Subject) (positional : List Value) (named : List (String × Value)) :
    Except Fault Value := do
  match ← bind subject.name subject.parameters positional named with
  | [first, second] => subject.apply first second
  | _ => throw (.missingArguments subject.name [])

end Subject

end StackMachine.Analysis

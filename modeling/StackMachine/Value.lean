/-!
Values of the machine: what its operand stack, variables, arguments and input feeds hold.
-/

set_option autoImplicit false

namespace StackMachine

/-- A value. A dictionary keeps its entries in the order in which their keys were first stored. -/
inductive Value where
  | null
  | bool (b : Bool)
  | int (n : Int)
  | float (x : Float)
  | text (s : String)
  | list (items : List Value)
  | dict (entries : List (Value × Value))
  deriving Inhabited

inductive Kind where
  | null
  | bool
  | int
  | float
  | text
  | list
  | dict
  deriving Repr, DecidableEq, Inhabited

/-- The name of a kind, as messages give it. -/
def Kind.name : Kind → String
  | .null => "NoneType"
  | .bool => "bool"
  | .int => "int"
  | .float => "float"
  | .text => "str"
  | .list => "list"
  | .dict => "dict"

def Value.kind : Value → Kind
  | .null => .null
  | .bool _ => .bool
  | .int _ => .int
  | .float _ => .float
  | .text _ => .text
  | .list _ => .list
  | .dict _ => .dict

/-- A number: what arithmetic works on. Truth values take part in it as 1 and 0. -/
inductive Number where
  | int (n : Int)
  | float (x : Float)

def Value.number? : Value → Option Number
  | .bool b => some (.int (if b then 1 else 0))
  | .int n => some (.int n)
  | .float x => some (.float x)
  | _ => none

def Value.text? : Value → Option String
  | .text s => some s
  | _ => none

end StackMachine

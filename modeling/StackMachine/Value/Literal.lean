import StackMachine.Numeral.Integer
import StackMachine.Numeral.Shortest
import StackMachine.Text.Quoted
import StackMachine.Value

/-!
Values as text. The *literal* of a value quotes texts; its *display* shows a text as it is and any
other value as its literal. Both are defined for all values, but an integer whose numeral exceeds the
digit limit makes a value unprintable, and whoever writes values has to refuse those.
-/

set_option autoImplicit false

namespace StackMachine

open Numeral

def commaJoin (pieces : List (List Char)) : List Char :=
  [',', ' '].intercalate pieces

mutual

def Value.literal : Value → List Char
  | .null => "None".toList
  | .bool true => "True".toList
  | .bool false => "False".toList
  | .int n => decimal n
  | .float x => floatText x
  | .text s => Text.quoted s.toList
  | .list items => '[' :: commaJoin (Value.literals items) ++ [']']
  | .dict entries => '\x7b' :: commaJoin (Value.entryLiterals entries) ++ ['\x7d']

def Value.literals : List Value → List (List Char)
  | [] => []
  | value :: rest => value.literal :: Value.literals rest

def Value.entryLiterals : List (Value × Value) → List (List Char)
  | [] => []
  | (key, value) :: rest => (key.literal ++ ':' :: ' ' :: value.literal) :: Value.entryLiterals rest

end

def Value.display : Value → List Char
  | .text s => s.toList
  | value => value.literal

/-- The literal of several values in parentheses; a single one is followed by a comma. -/
def tupleLiteral : List Value → List Char
  | [value] => '(' :: value.literal ++ [',', ')']
  | values => '(' :: commaJoin (Value.literals values) ++ [')']

mutual

/-- Whether every integer in a value is within the digit limit. -/
def Value.printable : Value → Bool
  | .int n => fitsDecimal n
  | .list items => Value.allPrintable items
  | .dict entries => Value.entriesPrintable entries
  | _ => true

def Value.allPrintable : List Value → Bool
  | [] => true
  | value :: rest => value.printable && Value.allPrintable rest

/-- Whether all keys and values of dictionary entries are printable. -/
def Value.entriesPrintable : List (Value × Value) → Bool
  | [] => true
  | (key, value) :: rest => key.printable && value.printable && Value.entriesPrintable rest

end

@[simp] theorem Value.literals_eq_map (values : List Value) :
    Value.literals values = values.map Value.literal := by
  induction values with
  | nil => rfl
  | cons value rest ih => simp [Value.literals, ih]

@[simp] theorem Value.allPrintable_eq_all (values : List Value) :
    Value.allPrintable values = values.all Value.printable := by
  induction values with
  | nil => rfl
  | cons value rest ih => simp [Value.allPrintable, ih]

end StackMachine

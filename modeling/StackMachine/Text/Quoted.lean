import StackMachine.Text.Printable

/-!
Quoted literals: a text between quote marks, on one line, with every character that is not shown as
itself written as an escape.
-/

set_option autoImplicit false

namespace StackMachine.Text

/-- The text filled up on the left to a width. -/
def padLeft (width : Nat) (fill : Char) (text : List Char) : List Char :=
  List.replicate (width - text.length) fill ++ text

/-- A number in base sixteen, at least as wide as asked for. -/
def hexadecimal (width n : Nat) : List Char :=
  padLeft width '0' (Nat.toDigits 16 n)

/-- Single quote marks, unless the text holds one and no double quote mark. -/
def quoteMark (text : List Char) : Char :=
  if text.contains '\'' && !text.contains '"' then '"' else '\''

/-- One character of a literal between the given quote marks. -/
def escape (mark c : Char) : List Char :=
  if c = mark ∨ c = '\\' then ['\\', c]
  else if c = '\n' then ['\\', 'n']
  else if c = '\r' then ['\\', 'r']
  else if c = '\t' then ['\\', 't']
  else if isPrintable c then [c]
  else if c.toNat < 0x100 then '\\' :: 'x' :: hexadecimal 2 c.toNat
  else if c.toNat < 0x10000 then '\\' :: 'u' :: hexadecimal 4 c.toNat
  else '\\' :: 'U' :: hexadecimal 8 c.toNat

def quoted (text : List Char) : List Char :=
  let mark := quoteMark text
  mark :: text.flatMap (escape mark) ++ [mark]

end StackMachine.Text

import StackMachine.Text.Blank
import StackMachine.Text.Digit
import StackMachine.Text.Quoted

/-!
Integers as decimal text. Reading takes pads around the numeral, a sign, digits of any script and single
underscores between digits. Numerals longer than `digitLimit` digits are neither read nor written.
-/

set_option autoImplicit false

namespace StackMachine.Numeral

open Text

/-- The longest decimal numeral of an integer that is read or written, in digits. -/
def digitLimit : Nat := 4300

/-- The least magnitude whose decimal numeral is too long. -/
def decimalBound : Nat := Nat.pow 10 digitLimit

/-- Whether an integer has a decimal numeral within the limit. -/
def fitsDecimal (n : Int) : Bool :=
  n.natAbs < decimalBound

/-- The decimal numeral of an integer, whatever its length. -/
def decimal : Int → List Char
  | .ofNat n => Nat.toDigits 10 n
  | .negSucc n => '-' :: Nat.toDigits 10 (n + 1)

/-- The decimal numeral filled up with zeros between its sign and its digits. -/
def zeroPadded (width : Nat) : Int → List Char
  | .ofNat n => padLeft width '0' (Nat.toDigits 10 n)
  | .negSucc n => '-' :: padLeft (width - 1) '0' (Nat.toDigits 10 (n + 1))

/-- The number that a list of digits denotes, the most significant first. -/
def ofDigits (digits : List Nat) : Nat :=
  digits.foldl (fun value digit => 10 * value + digit) 0

/-- Characters that a run of digits is made of. -/
def isRunCharacter (c : Char) : Bool :=
  (digitValue? c).isSome || c == '_'

/-- The digits of a run. Every underscore must stand between two digits. -/
def runDigits? : List Char → Option (List Nat)
  | [] => none
  | c :: rest =>
    match digitValue? c, rest with
    | none, _ => none
    | some digit, [] => some [digit]
    | some digit, '_' :: rest => (digit :: ·) <$> runDigits? rest
    | some digit, rest => (digit :: ·) <$> runDigits? rest

/-- A sign in front of a numeral, and what follows it. -/
def takeSign : List Char → Bool × List Char
  | '-' :: rest => (true, rest)
  | '+' :: rest => (false, rest)
  | text => (false, text)

/-- What reading a text as an integer gives. -/
inductive IntegerReading where
  | malformed
  | tooLong (digits : Nat)
  | value (n : Int)
  deriving Repr, DecidableEq

/-- Reads an integer. The length of the numeral is looked at before what follows it. -/
def readInteger (text : List Char) : IntegerReading :=
  let (negative, body) := takeSign (text.dropWhile isPad)
  match runDigits? (body.takeWhile isRunCharacter) with
  | none => .malformed
  | some digits =>
    if digits.length > digitLimit then .tooLong digits.length
    else if (body.dropWhile isRunCharacter).all isPad then
      .value (if negative then -(ofDigits digits : Int) else ofDigits digits)
    else .malformed

/-- The integer that a text denotes, if it is read at all. -/
def integer? (text : List Char) : Option Int :=
  match readInteger text with
  | .value n => some n
  | _ => none

example : integer? " -1_0\n".toList = some (-10) := by decide
example : integer? "1__0".toList = none ∧ integer? "²".toList = none := by decide

end StackMachine.Numeral

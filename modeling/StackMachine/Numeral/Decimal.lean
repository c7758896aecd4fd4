import StackMachine.Numeral.Binary64
import StackMachine.Numeral.Integer

/-!
Floating-point numbers read from decimal text: pads around the numeral, a sign, digits of any script
with single underscores between digits, a point, an exponent, or one of the words for infinity and for
the value that is no number.
-/

set_option autoImplicit false

namespace StackMachine.Numeral

open Text

/-- A digit of any script as the digit of the same value between 0 and 9. -/
def plainDigit (c : Char) : Char :=
  match digitValue? c with
  | some value => Char.ofNat (48 + value)
  | none => c

/-- Leaves out underscores, each of which must stand between two digits. -/
def withoutSeparators? (afterDigit : Bool) : List Char → Option (List Char)
  | [] => some []
  | '_' :: rest =>
    match rest with
    | c :: _ => if afterDigit && c.isDigit then withoutSeparators? false rest else none
    | [] => none
  | c :: rest => (c :: ·) <$> withoutSeparators? c.isDigit rest

/-- A decimal numeral taken apart: the digits on the two sides of the point, and the exponent. -/
structure DecimalParts where
  whole : List Char
  fraction : List Char
  exponent : Int
  deriving Repr, DecidableEq

/-- The exponent at the end of a numeral; nothing stands for zero. -/
def exponentPart? : List Char → Option Int
  | [] => some 0
  | mark :: rest =>
    if mark = 'e' ∨ mark = 'E' then
      let (negative, digits) := takeSign rest
      if digits.isEmpty || !digits.all Char.isDigit then none
      else
        let magnitude := ofDigits (digits.map fun c => c.toNat - 48)
        some (if negative then -(magnitude : Int) else magnitude)
    else none

/-- Takes a numeral without sign apart. It needs a digit before or after the point. -/
def decimalParts? (text : List Char) : Option DecimalParts :=
  let whole := text.takeWhile Char.isDigit
  let (fraction, rest) :=
    match text.dropWhile Char.isDigit with
    | '.' :: rest => (rest.takeWhile Char.isDigit, rest.dropWhile Char.isDigit)
    | rest => ([], rest)
  if whole.isEmpty && fraction.isEmpty then none
  else (exponentPart? rest).map fun exponent => { whole, fraction, exponent }

/-- Leading digits at this place or above it exceed every number; at the opposite place or below it
they are nearer to zero than to any other number. -/
def magnitudeBound : Int := 400

def DecimalParts.toFloat (parts : DecimalParts) (negative : Bool) : Float :=
  let digits := ((parts.whole ++ parts.fraction).map fun c => c.toNat - 48).dropWhile (· == 0)
  let place : Int := parts.exponent - parts.fraction.length
  if digits.isEmpty then nearest negative 0 1
  else if magnitudeBound < place + digits.length then infinity negative
  else if place + digits.length < -magnitudeBound then nearest negative 0 1
  else nearest negative (ofDigits digits * Nat.pow 10 place.toNat) (Nat.pow 10 (-place).toNat)

/-- The floating-point number that a text denotes, if it denotes one. -/
def float? (text : List Char) : Option Float :=
  match withoutSeparators? false ((trimBy isPad text).map plainDigit) with
  | none => none
  | some plain =>
    let (negative, body) := takeSign plain
    let word := body.map Char.toLower
    if word = "inf".toList ∨ word = "infinity".toList then some (infinity negative)
    else if word = "nan".toList then some notANumber
    else (decimalParts? body).map fun parts => parts.toFloat negative

end StackMachine.Numeral

/-!
Floating-point numbers taken apart into sign, mantissa and exponent, and put together again from exact
fractions. Every conversion rounds once, to the nearest number, a tie to the even mantissa.
-/

set_option autoImplicit false

namespace StackMachine.Numeral

/-- A floating-point number as an exact value: plus or minus `mantissa * 2 ^ exponent`. -/
inductive FloatForm where
  | finite (negative : Bool) (mantissa : Nat) (exponent : Int)
  | infinite (negative : Bool)
  | notANumber
  deriving Repr, DecidableEq

/-- The least mantissa of a number that is not subnormal. -/
def hiddenBit : Nat := Nat.pow 2 52

/-- The exponent of the subnormal numbers. -/
def leastExponent : Int := -1074

def formOf (x : Float) : FloatForm :=
  let bits := x.toBits.toNat
  let negative := decide (Nat.pow 2 63 ≤ bits)
  let biased := bits / hiddenBit % 2048
  let fraction := bits % hiddenBit
  if biased = 2047 then if fraction = 0 then .infinite negative else .notANumber
  else if biased = 0 then .finite negative fraction leastExponent
  else .finite negative (fraction + hiddenBit) ((biased : Int) - 1075)

/-- Bits of plus infinity; all finite positive numbers have smaller ones. -/
def infinityBits : Nat := 2047 * hiddenBit

/-- Numerator and denominator of `numerator / denominator * 2 ^ -exponent`. -/
def scaled (numerator denominator : Nat) (exponent : Int) : Nat × Nat :=
  if exponent < 0 then (numerator * Nat.pow 2 (-exponent).toNat, denominator)
  else (numerator, denominator * Nat.pow 2 exponent.toNat)

/-- The nearest integer to a fraction, a half to the even neighbour. -/
def roundToEven (numerator denominator : Nat) : Nat :=
  let quotient := numerator / denominator
  let rest := numerator % denominator
  if 2 * rest > denominator ∨ (2 * rest = denominator ∧ quotient % 2 = 1) then quotient + 1 else quotient

/-- The bits of the floating-point number nearest to a positive fraction. A fraction past the largest
number has the bits of infinity. -/
def nearestBits (numerator denominator : Nat) : Nat :=
  let guess : Int := (numerator.log2 : Int) - denominator.log2 - 52
  let (num, den) := scaled numerator denominator guess
  let exponent := max (if num / den < hiddenBit then guess - 1 else guess) leastExponent
  let (num, den) := scaled numerator denominator exponent
  min ((exponent - leastExponent).toNat * hiddenBit + roundToEven num den) infinityBits

/-- The floating-point number nearest to a fraction with a sign of its own. -/
def nearest (negative : Bool) (numerator denominator : Nat) : Float :=
  let bits := if numerator = 0 then 0 else nearestBits numerator denominator
  Float.ofBits (bits + if negative then Nat.pow 2 63 else 0).toUInt64

def infinity (negative : Bool) : Float :=
  Float.ofBits (infinityBits + if negative then Nat.pow 2 63 else 0).toUInt64

/-- The value that is no number. -/
def notANumber : Float :=
  Float.ofBits (infinityBits + Nat.pow 2 51).toUInt64

/-- The floating-point number nearest to an integer; none if that is infinite. -/
def ofInteger? (n : Int) : Option Float :=
  if n = 0 then some (nearest false 0 1)
  else if nearestBits n.natAbs 1 = infinityBits then none
  else some (nearest (n < 0) n.natAbs 1)

/-- The integer that a floating-point number equals exactly. -/
def integral? (x : Float) : Option Int :=
  match formOf x with
  | .finite negative mantissa exponent =>
    let signed (n : Nat) : Int := if negative then -(n : Int) else n
    if 0 ≤ exponent then some (signed (mantissa * Nat.pow 2 exponent.toNat))
    else
      let unit := Nat.pow 2 (-exponent).toNat
      if mantissa % unit = 0 then some (signed (mantissa / unit)) else none
  | _ => none

/-- The rest of the division of two numbers toward zero, exact, with the sign of the first. -/
def remainder (x y : Float) : Float :=
  match formOf x, formOf y with
  | .finite negative m e, .finite _ n f =>
    if n = 0 then notANumber
    else
      let least := min e f
      let rest := (m * Nat.pow 2 (e - least).toNat) % (n * Nat.pow 2 (f - least).toNat)
      let (num, den) := scaled rest 1 (-least)
      nearest negative num den
  | .finite _ _ _, .infinite _ => x
  | _, _ => notANumber

/-- The quotient of two floating-point numbers rounded down; the divisor is not zero. -/
def floorQuotient (x y : Float) : Float :=
  let rest := remainder x y
  let quotient := (x - rest) / y
  let quotient := if rest != 0 && (decide (y < 0) != decide (rest < 0)) then quotient - 1 else quotient
  if quotient == 0 then
    match formOf (x / y) with
    | .finite negative _ _ => nearest negative 0 1
    | .infinite negative => nearest negative 0 1
    | .notANumber => nearest false 0 1
  else
    let down := quotient.floor
    if quotient - down > 0.5 then down + 1 else down

end StackMachine.Numeral

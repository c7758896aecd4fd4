import StackMachine.Numeral.Binary64

/-!
Shortest decimal text of floating-point numbers: the fewest digits that read back as the same number,
and among those the digits nearest to it.

A number `m * 2 ^ q` is read back from every decimal in the interval that reaches half way to its two
neighbours. For one digit, two digits and so on, the two decimals around the number on the grid of that
many digits are tried; the first grid with a decimal inside the interval gives the digits.
-/

set_option autoImplicit false

namespace StackMachine.Numeral

/-- A number between its neighbours, as integers over one common scale: `low`, `value` and `high` count
the same unit, and `grid` is the distance of two decimals in that unit. -/
structure Interval where
  low : Nat
  value : Nat
  high : Nat
  grid : Nat
  closed : Bool
  deriving Repr, DecidableEq

/-- The interval of `mantissa * 2 ^ exponent` on the grid of multiples of `10 ^ place`. Below a power
of two the neighbour is half as far away. -/
def Interval.of (mantissa : Nat) (exponent place : Int) : Interval :=
  let unit := Nat.pow 2 (exponent - 2).toNat * Nat.pow 10 (-place).toNat
  let grid := Nat.pow 10 place.toNat * Nat.pow 2 (2 - exponent).toNat
  let below := if mantissa = hiddenBit ∧ leastExponent < exponent then 1 else 2
  { low := (4 * mantissa - below) * unit
    value := 4 * mantissa * unit
    high := (4 * mantissa + 2) * unit
    grid
    closed := mantissa % 2 = 0 }

/-- Whether a point of the grid lies in the interval. -/
def Interval.holds (interval : Interval) (digits : Nat) : Bool :=
  let point := digits * interval.grid
  if interval.closed then interval.low ≤ point && point ≤ interval.high
  else interval.low < point && point < interval.high

/-- The point of the grid that stands for the number: one of the two around it that lies in the
interval, the nearer if both do, and the even one if both are as near. -/
def Interval.digits? (interval : Interval) : Option Nat :=
  let down := interval.value / interval.grid
  match interval.holds down, interval.holds (down + 1) with
  | false, false => none
  | true, false => some down
  | false, true => some (down + 1)
  | true, true =>
    let toDown := interval.value - down * interval.grid
    let toUp := (down + 1) * interval.grid - interval.value
    some (if toDown < toUp ∨ (toDown = toUp ∧ down % 2 = 0) then down else down + 1)

/-- Whether `mantissa * 2 ^ exponent` is at least `10 ^ place`. -/
def reaches (mantissa : Nat) (exponent place : Int) : Bool :=
  Nat.pow 10 place.toNat * Nat.pow 2 (-exponent).toNat ≤
    mantissa * Nat.pow 2 exponent.toNat * Nat.pow 10 (-place).toNat

/-- The place of the leading decimal digit of `mantissa * 2 ^ exponent`. -/
def leadingPlace (mantissa : Nat) (exponent : Int) : Int :=
  let guess := ((mantissa.log2 : Int) + exponent) * 30103 / 100000
  if reaches mantissa exponent (guess + 1) then guess + 1
  else if reaches mantissa exponent guess then guess
  else guess - 1

/-- Tries grids with more and more digits; `count` of them are left. -/
def shortestFrom (mantissa : Nat) (exponent : Int) (place : Int) : Nat → Nat × Int
  | 0 => ((Interval.of mantissa exponent place).value / (Interval.of mantissa exponent place).grid, place)
  | count + 1 =>
    match (Interval.of mantissa exponent place).digits? with
    | some digits => (digits, place)
    | none => shortestFrom mantissa exponent (place - 1) count

/-- The shortest decimal of a positive number: digits and the place of the last of them. Seventeen
digits always suffice. -/
def shortest (mantissa : Nat) (exponent : Int) : Nat × Int :=
  shortestFrom mantissa exponent (leadingPlace mantissa exponent) 17

/-- How the digits of a number are laid out. -/
structure FloatLayout where
  /-- The least place of a leading digit that is written without an exponent. -/
  positionalFrom : Int
  /-- The least place of a leading digit above those written without an exponent. -/
  positionalBelow : Int
  /-- The least number of digits of an exponent. -/
  exponentWidth : Nat

/-- Numbers from a ten-thousandth up to ten quadrillion are written out; others get an exponent of at
least two digits. -/
def floatLayout : FloatLayout := ⟨-4, 16, 2⟩

/-- Digits without the zeros at their end. -/
def withoutTrailingZeros (digits : List Char) : List Char :=
  (digits.reverse.dropWhile (· == '0')).reverse

/-- Lays out digits whose first stands at the place `leading`. -/
def FloatLayout.write (layout : FloatLayout) (digits : List Char) (leading : Int) : List Char :=
  if layout.positionalFrom ≤ leading ∧ leading < layout.positionalBelow then
    if leading < 0 then '0' :: '.' :: (List.replicate (-leading - 1).toNat '0' ++ digits)
    else
      let whole := leading.toNat + 1
      if digits.length ≤ whole then digits ++ List.replicate (whole - digits.length) '0' ++ ['.', '0']
      else digits.take whole ++ '.' :: digits.drop whole
  else
    let mark := if leading < 0 then '-' else '+'
    let exponent := Nat.toDigits 10 leading.natAbs
    let exponent := List.replicate (layout.exponentWidth - exponent.length) '0' ++ exponent
    let fraction := if digits.length ≤ 1 then [] else '.' :: digits.drop 1
    digits.take 1 ++ fraction ++ 'e' :: mark :: exponent

def floatText (x : Float) : List Char :=
  let signed (negative : Bool) (text : List Char) := if negative then '-' :: text else text
  match formOf x with
  | .notANumber => ['n', 'a', 'n']
  | .infinite negative => signed negative ['i', 'n', 'f']
  | .finite negative 0 _ => signed negative ['0', '.', '0']
  | .finite negative mantissa exponent =>
    let (digits, place) := shortest mantissa exponent
    let text := Nat.toDigits 10 digits
    signed negative (floatLayout.write (withoutTrailingZeros text) (place + text.length - 1))

end StackMachine.Numeral

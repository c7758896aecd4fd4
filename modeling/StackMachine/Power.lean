import StackMachine.Value.Arithmetic

/-!
Powers by repeated squaring: the power to half the exponent is squared, and multiplied once more if the
exponent is odd. Halving ends at one; from zero, from a negative exponent and from one that is no number
it never gets there.
-/

set_option autoImplicit false

namespace StackMachine

open Numeral

/-- The square of a power, multiplied once more by the base if asked for. -/
def squareStep (base half : Value) (odd : Bool) : Except Fault Value := do
  let square ← half.times half
  if odd then square.times base else return square

/-- The power to a natural exponent; there is none to zero, where halving stays for ever. -/
def power (base : Value) (exponent : Nat) : Except Fault Value :=
  if exponent = 0 then .error .endlessRecursion
  else if exponent = 1 then .ok base
  else do
    let half ← power base (exponent / 2)
    squareStep base half (exponent % 2 = 1)
termination_by exponent

/-- The power to any value. An exponent between two integers counts as odd when it is first halved. -/
def powerBy (base exponent : Value) : Except Fault Value :=
  match exponent.number? with
  | none => .error (.unsupportedOperands "//" exponent.kind .int)
  | some (.int n) => power base n.toNat
  | some (.float x) =>
    match integral? x, integral? x.floor with
    | some n, _ => power base n.toNat
    | none, some below => do
      let half ← power base (below / 2).toNat
      squareStep base half true
    | none, none => .error .endlessRecursion

end StackMachine

import Mathlib.Algebra.Ring.Int.Defs
import StackMachine.Power

/-!
Repeated squaring gives the power. The two equations that it rests on, one for even and one for odd
exponents, do not depend on how the squaring is programmed.
-/

set_option autoImplicit false

namespace StackMachine

theorem pow_of_even (x : Int) {n : Nat} (even : n % 2 = 0) : x ^ n = x ^ (n / 2) * x ^ (n / 2) := by
  have halves : n = n / 2 + n / 2 := by omega
  calc
    x ^ n = x ^ (n / 2 + n / 2) := congrArg (x ^ ·) halves
    _ = x ^ (n / 2) * x ^ (n / 2) := by rw [Int.pow_add]

theorem pow_of_odd (x : Int) {n : Nat} (odd : n % 2 = 1) : x ^ n = x ^ (n / 2) * x ^ (n / 2) * x := by
  have halves : n = n / 2 + n / 2 + 1 := by omega
  calc
    x ^ n = x ^ (n / 2 + n / 2 + 1) := congrArg (x ^ ·) halves
    _ = x ^ (n / 2) * x ^ (n / 2) * x := by rw [Int.pow_succ, Int.pow_add]

theorem squareStep_int (base half : Int) (odd : Bool) :
    squareStep (.int base) (.int half) odd =
      .ok (.int (if odd then half * half * base else half * half)) := by
  cases odd with
  | true => rfl
  | false => rfl

theorem power_int (base : Int) {exponent : Nat} (positive : 0 < exponent) :
    power (.int base) exponent = .ok (.int (base ^ exponent)) := by
  induction exponent using Nat.strongRecOn with
  | ind exponent ih =>
      rw [power, if_neg (by omega)]
      split
      · next one => rw [one, Int.pow_one]
      · next more =>
          have half : power (.int base) (exponent / 2) = .ok (.int (base ^ (exponent / 2))) :=
            ih (exponent / 2) (by omega) (by omega)
          rw [half]
          rcases Nat.mod_two_eq_zero_or_one exponent with even | odd
          · rw [pow_of_even base even, even]
            exact squareStep_int base _ false
          · rw [pow_of_odd base odd, odd]
            exact squareStep_int base _ true

end StackMachine

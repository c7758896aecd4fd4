import Mathlib.Algebra.Order.Ring.Int
import StackMachine.Proofs.Power.Squaring

/-!
Powers by squaring as a recursion that goes down level by level and stops at the exponent one only. A positive
exponent comes down to one within as many levels as it has binary digits. Any other exponent comes to zero or to
minus one, whose halves are themselves once they are rounded down, so that no number of levels is enough for it.
-/

set_option autoImplicit false

namespace StackMachine

/-- The power, if its recursion does not go below a number of levels. -/
def squaring (base : Value) : Nat → Int → Except Fault Value
  | 0, _ => .error .endlessRecursion
  | levels + 1, exponent =>
    let half := exponent.fdiv 2
    if half * 2 ≠ exponent then
      if exponent = 1 then .ok base
      else do
        let root ← squaring base levels half
        squareStep base root true
    else do
      let root ← squaring base levels half
      squareStep base root false

theorem fdiv_two (n : Int) : n.fdiv 2 = n / 2 :=
  Int.fdiv_eq_ediv_of_nonneg n (by decide)

theorem squaring_one (base : Value) (levels : Nat) : squaring base (levels + 1) 1 = .ok base := by
  rw [squaring]
  rfl

/-- Unless it stops, the recursion goes on with half the exponent. -/
theorem squaring_succ (base : Value) (levels : Nat) {exponent : Int} (other : exponent ≠ 1) :
    squaring base (levels + 1) exponent =
      squaring base levels (exponent / 2) >>= fun root => squareStep base root (exponent % 2 = 1) := by
  rw [squaring, fdiv_two]
  rcases Int.emod_two_eq_zero_or_one exponent with even | odd
  · rw [if_neg (by omega), even]
    rfl
  · rw [if_pos (by omega), if_neg other, odd]
    rfl

theorem power_succ (base : Value) {exponent : Nat} (more : 1 < exponent) :
    power base exponent =
      power base (exponent / 2) >>= fun root => squareStep base root (exponent % 2 = 1) := by
  rw [power, if_neg (by omega), if_neg (by omega)]

/-- An exponent that is not positive stays so, however often it is halved. -/
theorem squaring_of_nonpos (base : Value) (levels : Nat) {exponent : Int} (nonpos : exponent ≤ 0) :
    squaring base levels exponent = .error .endlessRecursion := by
  induction levels generalizing exponent with
  | zero => rfl
  | succ levels ih =>
      rw [squaring_succ base levels (by omega), ih (by omega)]
      rfl

theorem squaring_of_pos (base : Value) {levels : Nat} {exponent : Int} (positive : 1 ≤ exponent)
    (deep : exponent < 2 ^ levels) : squaring base levels exponent = power base exponent.toNat := by
  induction levels generalizing exponent with
  | zero =>
      rw [Int.pow_zero] at deep
      omega
  | succ levels ih =>
      by_cases one : exponent = 1
      · subst one
        rw [squaring_one, Int.toNat_one, power]
        rfl
      · rw [Int.pow_succ] at deep
        have half : (exponent / 2).toNat = exponent.toNat / 2 := by omega
        have parity : decide (exponent % 2 = 1) = decide (exponent.toNat % 2 = 1) :=
          decide_eq_decide.mpr (by omega)
        rw [squaring_succ base levels one, @ih (exponent / 2) (by omega) (by omega), half, parity,
          ← power_succ base (by omega)]

/-- For every integer and every positive exponent below `2 ^ 900` the power by squaring is the power, and the
recursion gives it if it may go down 900 levels or more. For every exponent below one the recursion is endless: it
gives nothing, however many levels it may go down. -/
theorem powerBy_power_or_endless (x n : Int) :
    (1 ≤ n → n < 2 ^ 900 →
      powerBy (.int x) (.int n) = .ok (.int (x ^ n.toNat)) ∧
        ∀ levels, 900 ≤ levels → squaring (.int x) levels n = .ok (.int (x ^ n.toNat))) ∧
    (n ≤ 0 →
      powerBy (.int x) (.int n) = .error .endlessRecursion ∧
        ∀ levels, squaring (.int x) levels n = .error .endlessRecursion) := by
  constructor
  · intro positive small
    have natural : 0 < n.toNat := Int.pos_iff_toNat_pos.mp positive
    have raised : power (.int x) n.toNat = .ok (.int (x ^ n.toNat)) := power_int x natural
    refine ⟨raised, ?_⟩
    intro levels deep
    have below : n < 2 ^ levels := small.trans_le (pow_le_pow_right₀ one_le_two deep)
    rw [squaring_of_pos (.int x) positive below, raised]
  · intro nonpos
    have endless : power (.int x) n.toNat = .error .endlessRecursion := by
      rw [Int.toNat_of_nonpos nonpos, power]
      rfl
    exact ⟨endless, fun levels => squaring_of_nonpos (.int x) levels nonpos⟩

/-- The exponent minus six comes to minus one after three levels. -/
theorem powerBy_power_or_endless_signs :
    powerBy (.int (-3)) (.int 5) = .ok (.int (-243)) ∧
      squaring (.int (-3)) 900 5 = .ok (.int (-243)) ∧
      powerBy (.int (-3)) (.int (-6)) = .error .endlessRecursion ∧
      squaring (.int (-3)) 900 (-6) = .error .endlessRecursion := by
  have small : (5 : Int) < 2 ^ 900 :=
    (show (5 : Int) < 2 ^ 3 by decide).trans_le (pow_le_pow_right₀ one_le_two (by decide))
  obtain ⟨raised, levels⟩ := (powerBy_power_or_endless (-3) 5).1 (by decide) small
  obtain ⟨endless, noLevels⟩ := (powerBy_power_or_endless (-3) (-6)).2 (by decide)
  exact ⟨raised, levels 900 (Nat.le_refl 900), endless, noLevels 900⟩

end StackMachine

import StackMachine.Machine.Run
import StackMachine.Proofs.Machine.Ground

/-!
The frame rule of the operand stack. A run that comes to the end of its code does not look below the
operands it started with: with any values under them it takes the same way, and they are still there in
the end. A run that fails is not covered, for it may have failed for want of just those values.
-/

set_option autoImplicit false

namespace StackMachine

namespace Run

def atop (run : Run) (ground : Ground) : Run :=
  { run with machine := run.machine.atop ground }

theorem atop_operands (run : Run) (below : List Value) :
    run.atop { stack := below } =
      { run with machine := { run.machine with stack := run.machine.stack ++ below } } := by
  simp only [atop, Machine.atop, List.append_nil]

/-- One instruction: a run that does not fail goes on over operands of others as it does alone. -/
theorem advance_atop {labels : Labels} {code : List Instruction} {run next : Run} {status : RunStatus}
    (advanced : run.advance labels code = (next, status)) (unfailed : ∀ fault, status ≠ .failed fault)
    {ground : Ground} (frameless : ground.Frameless) :
    (run.atop ground).advance labels code = (next.atop ground, status) := by
  have pointer : (run.atop ground).machine.ip = run.machine.ip := rfl
  unfold advance at advanced ⊢
  rw [pointer]
  split at advanced
  · next inside =>
      rw [if_pos inside]
      cases found : itemAt code run.machine.ip with
      | error fault =>
          rw [found] at advanced
          obtain ⟨-, rfl⟩ := Prod.mk.inj advanced
          exact absurd rfl (unfailed fault)
      | ok instruction =>
          simp only [found] at advanced ⊢
          cases carried : (run.machine.execute labels run.console instruction).fault with
          | some fault =>
              simp only [carried] at advanced
              obtain ⟨-, rfl⟩ := Prod.mk.inj advanced
              exact absurd rfl (unfailed fault)
          | none =>
              simp only [carried] at advanced
              obtain ⟨rfl, rfl⟩ := Prod.mk.inj advanced
              have executed : (run.atop ground).machine.execute labels (run.atop ground).console
                  instruction = (run.machine.execute labels run.console instruction).atop ground :=
                Machine.execute_atop (.inr carried) fun _ => .inl frameless
              simp only [executed, Outcome.atop, carried]
              rfl
  · next past =>
      rw [if_neg past]
      obtain ⟨rfl, rfl⟩ := Prod.mk.inj advanced
      rfl

theorem forward_atop {labels : Labels} {code : List Instruction} {fuel : Nat} {run final : Run}
    (finished : forward labels code fuel run = (final, .finished)) {ground : Ground}
    (frameless : ground.Frameless) :
    forward labels code fuel (run.atop ground) = (final.atop ground, .finished) := by
  induction fuel generalizing run with
  | zero => cases finished
  | succ fuel ih =>
      unfold forward at finished ⊢
      cases advanced : run.advance labels code with
      | mk next status =>
          rw [advanced] at finished
          cases status with
          | going =>
              rw [advance_atop advanced (fun _ => RunStatus.noConfusion) frameless]
              exact ih finished
          | finished =>
              rw [advance_atop advanced (fun _ => RunStatus.noConfusion) frameless]
              obtain ⟨rfl, -⟩ := Prod.mk.inj finished
              rfl
          | failed fault => cases finished

/-- If a run comes to the end of its code, then with any values under its operands it comes there too, by
the same instructions. The values are still under what it leaves, and nothing else differs: the console
with all that was printed and is left to be read, variables, frames, return points, instruction pointer
and active function are the same. -/
theorem forward_keeps_values_below (labels : Labels) (code : List Instruction) (fuel : Nat)
    (run final : Run) (finished : forward labels code fuel run = (final, .finished))
    (below : List Value) :
    forward labels code fuel
        { run with machine := { run.machine with stack := run.machine.stack ++ below } } =
      ({ final with machine := { final.machine with stack := final.machine.stack ++ below } },
        .finished) := by
  rw [← atop_operands, ← atop_operands]
  exact forward_atop finished ⟨rfl, rfl⟩

/-- Reads a number and counts it down to zero, with a word printed at each count. -/
def countdown : List Instruction := [
  .of .inputNumber [], .of .label [.text "again"], .of .storeVar [.text "n"],
  .of .loadConst [.text "tick"], .of .print [],
  .of .loadConst [.int 1], .of .loadVar [.text "n"], .of (.arithmetic .sub) [], .of .storeVar [.text "n"],
  .of .loadVar [.text "n"], .of .loadConst [.int 0], .of .loadVar [.text "n"], .of (.compare .gt) [],
  .of .branch [.text "again"]]

def counting : Run where
  machine := {}
  console := { feed := some ⟨.prompted, .list [.int 2, .int 7]⟩ }
  visited := []

/-- Two rounds, of thirteen instructions each after the number has been read. -/
theorem forward_keeps_values_below_countdown :
    ∃ final, forward ⟨[(.text "again", 1)]⟩ countdown 28 counting = (final, .finished) ∧
      final.machine.stack = [.int 0] ∧ final.visited.length = 27 ∧
      final.console.printed = [.text "tick", .text "tick"] ∧
      forward ⟨[(.text "again", 1)]⟩ countdown 28
          { counting with machine := { stack := [.text "kept", .null] } } =
        ({ final with machine := { final.machine with stack := [.int 0, .text "kept", .null] } },
          .finished) := by
  have framed := forward_keeps_values_below ⟨[(.text "again", 1)]⟩ countdown 28 counting _ rfl
    [.text "kept", .null]
  exact ⟨_, rfl, rfl, rfl, rfl, framed⟩

end Run

end StackMachine

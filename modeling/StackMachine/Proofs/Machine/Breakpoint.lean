import StackMachine.Machine
import StackMachine.Proofs.Machine.OperandFault

/-!
The fault of a breakpoint comes from breakpoints only: no operation on operands, no feed and no terminal
has it.
-/

set_option autoImplicit false

namespace StackMachine

theorem map_ne_breakpoint {α β : Type} {result : Except Fault α} (f : α → β)
    (unbroken : result ≠ .error .breakpoint) : result.map f ≠ .error .breakpoint := by
  cases result with
  | ok value => exact nofun
  | error fault => exact fun failed => unbroken (congrArg Except.error (Except.error.inj failed))

namespace Fault

theorem undefined_ne_breakpoint (name : Value) : undefined name ≠ .breakpoint := by
  unfold undefined
  split <;> exact nofun

theorem unknown_ne_breakpoint (instruction : Instruction) : unknown instruction ≠ .breakpoint := by
  unfold unknown
  split <;> exact nofun

theorem ne_breakpoint_of_blames {fault : Fault} (blames : fault.blamesOperands = true) : fault ≠ .breakpoint := by
  rintro rfl
  cases blames

theorem ne_breakpoint_of_blamesOperands {α : Type} {result : Except Fault α}
    (blames : ∀ fault, result = .error fault → fault.blamesOperands = true) :
    result ≠ .error .breakpoint :=
  fun failed => ne_breakpoint_of_blames (blames .breakpoint failed) rfl

end Fault

theorem Arithmetic.apply_ne_breakpoint (op : Arithmetic) (first second : Value) :
    op.apply first second ≠ .error .breakpoint :=
  Fault.ne_breakpoint_of_blamesOperands fun _ => blamesOperands_of_apply

theorem Comparison.apply_ne_breakpoint (op : Comparison) (first second : Value) :
    op.apply first second ≠ .error .breakpoint :=
  Fault.ne_breakpoint_of_blamesOperands fun _ => blamesOperands_of_apply

theorem UnaryFunction.apply_ne_breakpoint (function : UnaryFunction) (operand : Value) :
    function.apply operand ≠ .error .breakpoint :=
  Fault.ne_breakpoint_of_blamesOperands fun _ => blamesOperands_of_apply

theorem Feed.takeFirst_ne_breakpoint (buffer : Value) : takeFirst buffer ≠ .error .breakpoint := by
  unfold takeFirst
  split
  · exact nofun
  · exact nofun
  · split <;> exact nofun
  · exact nofun

theorem Feed.take_ne_breakpoint (feed : Feed) (prompts : Nat) :
    feed.take prompts ≠ .error .breakpoint := by
  have first := map_ne_breakpoint
    (fun (answer : Value × Value) => (answer.1, { feed with buffer := answer.2 }))
    (takeFirst_ne_breakpoint feed.buffer)
  unfold take
  split
  · split
    · exact nofun
    · split
      · exact first
      · exact nofun
  · split
    · exact first
    · exact nofun
  · split
    · exact first
    · exact nofun

theorem Terminal.read_ne_breakpoint (terminal : Terminal) (prompt : String) :
    (terminal.read prompt).2 ≠ .error .breakpoint := by
  unfold read
  split <;> exact nofun

theorem Console.input_ne_breakpoint (console : Console) : console.input.2 ≠ .error .breakpoint := by
  unfold input
  split
  · rename_i feed fed
    have taken := feed.take_ne_breakpoint 1
    cases answer : feed.take 1 with
    | ok answered => exact nofun
    | error fault => simpa [answer] using taken
  · exact map_ne_breakpoint _ (console.terminal.read_ne_breakpoint prompt)

end StackMachine

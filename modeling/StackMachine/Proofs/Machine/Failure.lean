import StackMachine.Proofs.Machine.Effect

/-!
What a failed instruction leaves behind. The operands that it takes are the only thing that it costs, and how many
they are can be told from the instruction: as many as it works on once its arguments are accepted, or all there are
if there are fewer (`failed_execute_costs_operands_only`).
-/

set_option autoImplicit false

namespace StackMachine

namespace Machine

/-- A failed instruction has cost the machine the operands that it works on and nothing else. -/
theorem machine_of_failed (labels : Labels) {machine : Machine} (console : Console) {instruction : Instruction}
    {fault : Fault} (paired : machine.frames.length = machine.saved.length)
    (failed : (machine.execute labels console instruction).fault = some fault) :
    (machine.execute labels console instruction).machine =
      { machine with stack := machine.stack.drop instruction.demand } := by
  have effect := execute_effect labels machine console instruction
  rw [failed] at effect
  generalize (machine.execute labels console instruction).machine = after at effect ⊢
  cases effect with
  | failed left => rw [left]
  | unpaired places unframed =>
      -- A return takes the place first and then the variables; where they pair up it finds both or none.
      rw [places, unframed] at paired
      cases paired

/-- An instruction that fails, whatever it is and whatever its arguments are, keeps variables, frames, return points,
active function and instruction pointer as they were. From the stack it has taken the operands that it works on,
two at most, and it has put nothing there. -/
theorem failed_execute_costs_operands_only (labels : Labels) (machine : Machine) (console : Console)
    (instruction : Instruction) (fault : Fault) (paired : machine.frames.length = machine.saved.length)
    (failed : (machine.execute labels console instruction).fault = some fault) :
    let after := (machine.execute labels console instruction).machine
    after.bindings = machine.bindings ∧ after.frames = machine.frames ∧ after.saved = machine.saved ∧
      after.current = machine.current ∧ after.ip = machine.ip ∧
      after.stack = machine.stack.drop instruction.demand ∧ instruction.demand ≤ 2 := by
  intro after
  have same : after = { machine with stack := machine.stack.drop instruction.demand } :=
    machine_of_failed labels console paired failed
  rw [same]
  exact ⟨rfl, rfl, rfl, rfl, rfl, rfl, instruction.demand_le_two⟩

/-- A machine in the midst of a call, with a divisor of zero under its dividend. -/
def dividing : Machine where
  stack := [.int 7, .int 0, .text "kept"]
  bindings := Table.empty.insert (.text "x") (.int 1)
  frames := [.empty]
  saved := [⟨.text entryPoint, 3⟩]
  ip := 2
  current := .text "f"

/-- The division has taken both of its operands. A store under a list has taken the value that it could not store. -/
theorem failed_execute_costs_operands_only_dividing :
    ((dividing.execute .empty {} (.of (.arithmetic .div) [])).fault = some .integerDivisionByZero ∧
      (dividing.execute .empty {} (.of (.arithmetic .div) [])).machine.stack = [.text "kept"] ∧
      (dividing.execute .empty {} (.of (.arithmetic .div) [])).machine.ip = 2) ∧
    (dividing.execute .empty {} (.of .storeVar [.list []])).fault = some (.unhashable .list) ∧
      (dividing.execute .empty {} (.of .storeVar [.list []])).machine.stack = [.int 0, .text "kept"] ∧
      (dividing.execute .empty {} (.of .storeVar [.list []])).machine.bindings = dividing.bindings := by
  obtain ⟨-, -, -, -, pointer, divided, -⟩ := failed_execute_costs_operands_only .empty dividing {}
    (.of (.arithmetic .div) []) .integerDivisionByZero rfl rfl
  obtain ⟨bindings, -, -, -, -, stored, -⟩ := failed_execute_costs_operands_only .empty dividing {}
    (.of .storeVar [.list []]) (.unhashable .list) rfl rfl
  exact ⟨⟨rfl, divided, pointer⟩, rfl, stored, bindings⟩

end Machine

end StackMachine

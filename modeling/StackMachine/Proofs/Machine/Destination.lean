import StackMachine.Proofs.Machine.Effect

/-!
Where an instruction leads. Jumps, calls and returns leave the instruction pointer one short of the place
that they lead to, since whoever carries out instructions moves on after each. All others leave it alone.
-/

set_option autoImplicit false

namespace StackMachine

def Instruction.JumpsTo (instruction : Instruction) (target : Value) : Prop :=
  (instruction.is .jump = true ∨ instruction.is .branch = true) ∧ target ∈ instruction.args

/-- Instructions that jump to a name, if the name has a label: jumps, and conditional ones that find a one on the
stack. -/
inductive Instruction.Jumps (machine : Machine) (name : String) : Instruction → Prop where
  | always : Jumps machine name (.of .jump [.text name])
  | taken {flag : Value} {rest : List Value} (operands : machine.stack = flag :: rest)
      (one : flag.isOne = true) : Jumps machine name (.of .branch [.text name])

/-- Where a machine goes on after an instruction that leads elsewhere than to the next one. -/
def Instruction.destination? (labels : Labels) (machine : Machine) : Instruction → Option Int
  | ⟨.known .jump, [target]⟩ => labels.get? target
  | ⟨.known .branch, [target]⟩ =>
    if machine.stack.head?.any Value.isOne then labels.get? target else none
  | ⟨.known .call, _⟩ => some 0
  | ⟨.known .ret, _⟩ => machine.saved.head?.map fun place => place.ip + 1
  | _ => none

/-- Labels count for jumps only. -/
theorem Machine.execute_of_labels (machine : Machine) (console : Console) {labels other : Labels}
    {instruction : Instruction}
    (same : ∀ text, instruction.JumpsTo (.text text) →
      labels.get? (.text text) = other.get? (.text text)) :
    machine.execute labels console instruction = machine.execute other console instruction := by
  obtain ⟨mnemonic, args⟩ := instruction
  cases mnemonic with
  | unknown word => rfl
  | known op =>
      have found : ∀ text, op = .jump ∨ op = .branch → args = [.text text] →
          labels.get? (.text text) = other.get? (.text text) := by
        rintro text jumps rfl
        refine same text ⟨?_, List.mem_singleton_self _⟩
        rcases jumps with rfl | rfl
        · exact .inl rfl
        · exact .inr rfl
      cases op with
      | branch =>
          rcases args with _ | ⟨target, _ | ⟨_, _⟩⟩
          · rfl
          · cases target with
            | text text => simp only [execute, perform, jump, found text (.inr rfl) rfl]
            | _ => rfl
          · rfl
      | jump =>
          rcases args with _ | ⟨target, _ | ⟨_, _⟩⟩
          · rfl
          · cases target with
            | text text => simp only [execute, perform, jump, found text (.inl rfl) rfl]
            | _ => rfl
          · rfl
      | _ => rcases args with _ | ⟨_, _ | ⟨_, _⟩⟩ <;> rfl

theorem Instruction.destination?_of_straight {labels : Labels} {machine : Machine} {instruction : Instruction}
    (noJump : instruction.is .jump = false) (noBranch : instruction.is .branch = false)
    (stays : instruction.transfers = false) : instruction.destination? labels machine = none := by
  obtain ⟨mnemonic, args⟩ := instruction
  cases mnemonic with
  | unknown word => rfl
  | known op =>
      cases op with
      | jump => cases noJump
      | branch => cases noBranch
      | call | ret => cases stays
      | _ => rfl

namespace Machine

variable {labels : Labels} {machine : Machine} {console : Console}

theorem ip_of_unlabelled {instruction : Instruction} (noJump : instruction.is .jump = false)
    (noBranch : instruction.is .branch = false)
    (carried : (machine.execute labels console instruction).fault = none) :
    (machine.execute labels console instruction).machine.ip + 1 =
      (instruction.destination? labels machine).getD (machine.ip + 1) := by
  -- Without labels there is nothing to jump to, so the effect cannot be that of a jump.
  have unlabelled : machine.execute labels console instruction =
      machine.execute .empty console instruction := by
    apply execute_of_labels
    rintro text ⟨isJump | isBranch, -⟩
    · simp [isJump] at noJump
    · simp [isBranch] at noBranch
  rw [unlabelled] at carried ⊢
  have effect := execute_effect .empty machine console instruction
  rw [carried] at effect
  generalize (machine.execute .empty console instruction).machine = after at effect
  obtain ⟨mnemonic, args⟩ := instruction
  cases effect with
  | worked stays | stored stays =>
      rw [Instruction.destination?_of_straight noJump noBranch stays]
      rfl
  | jumped _ found => cases found
  | called isCall =>
      obtain rfl : mnemonic = .known .call := of_decide_eq_true isCall
      rfl
  | returned isRet places =>
      obtain rfl : mnemonic = .known .ret := of_decide_eq_true isRet
      simp only [Instruction.destination?, places, List.head?_cons, Option.map_some, Option.getD_some]

theorem ip_of_jump {target : Value} (carried : (machine.jump console labels target).fault = none) :
    ∃ index, labels.get? target = some index ∧ (machine.jump console labels target).machine.ip + 1 = index := by
  unfold jump at carried ⊢
  cases found : labels.get? target with
  | none => simp [found, Outcome.fail] at carried
  | some index =>
      refine ⟨index, rfl, ?_⟩
      simp [Outcome.done]

/-- A jump that is carried out has found its label and leads there. -/
theorem ip_of_jumps {instruction : Instruction} {name : String} (jumps : instruction.Jumps machine name)
    (carried : (machine.execute labels console instruction).fault = none) :
    ∃ index, labels.get? (.text name) = some index ∧
      (machine.execute labels console instruction).machine.ip + 1 = index := by
  cases jumps with
  | always => exact ip_of_jump carried
  | @taken flag rest operands one =>
      have goes : machine.execute labels console (.of .branch [.text name]) =
          jump { machine with stack := rest } console labels (.text name) := by
        simp only [execute, Instruction.of, perform, pop, operands, one, if_true]
      rw [goes] at carried ⊢
      exact ip_of_jump carried

/-- Where the machine goes on after an instruction that has been carried out. -/
theorem ip_of_execute {instruction : Instruction}
    (carried : (machine.execute labels console instruction).fault = none) :
    (machine.execute labels console instruction).machine.ip + 1 =
      (instruction.destination? labels machine).getD (machine.ip + 1) := by
  obtain ⟨mnemonic, args⟩ := instruction
  cases mnemonic with
  | unknown word => cases carried
  | known op =>
      cases op with
      | jump =>
          rcases args with _ | ⟨target, _ | ⟨_, _⟩⟩
          · cases carried
          · cases target with
            | text name =>
                obtain ⟨index, found, landed⟩ := ip_of_jumps .always carried
                simp only [Instruction.destination?, found, Option.getD_some]
                exact landed
            | _ => cases carried
          · cases carried
      | branch =>
          rcases args with _ | ⟨target, _ | ⟨_, _⟩⟩
          · cases carried
          · cases target with
            | text name =>
                cases operands : machine.stack with
                | nil => simp [execute, perform, pop, operands, Outcome.fail] at carried
                | cons flag rest =>
                    by_cases one : flag.isOne = true
                    · obtain ⟨index, found, landed⟩ := ip_of_jumps (.taken operands one) carried
                      simp only [Instruction.destination?, operands, List.head?_cons, Option.any_some, one,
                        if_true, found, Option.getD_some]
                      exact landed
                    · simp [execute, perform, pop, Instruction.destination?, operands, one, Outcome.done]
            | _ => cases carried
          · cases carried
      | _ => exact ip_of_unlabelled rfl rfl carried

end Machine

end StackMachine

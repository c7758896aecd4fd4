import StackMachine.Debugger.Flat
import StackMachine.Proofs.Debugger.Turning
import StackMachine.Proofs.Machine.Bracketing

/-!
What a turn of the debugger for a single list of instructions does to the machine. A load takes operands and
variables away, and every other command comes to a sequence of instructions, some of which may have failed.
-/

set_option autoImplicit false

namespace StackMachine.Debugger.Flat

open Machine (Excursion)

/-- The machines that `start` can become by instructions of a code list, under any labels and on any console, carried
out or failed. -/
inductive Worked (code : List Instruction) (start : Machine) : Machine → Prop where
  | start : Worked code start start
  | execute {machine : Machine} {instruction : Instruction} (before : Worked code start machine) (labels : Labels)
      (console : Console) (member : instruction ∈ code) :
      Worked code start (machine.execute labels console instruction).machine

theorem Worked.excursion {code : List Instruction} {start machine : Machine} (worked : Worked code start machine) :
    Excursion 0 start machine := by
  induction worked with
  | start => exact .start (Nat.zero_le _)
  | @execute machine instruction _ labels console _ ih => exact ih.execute labels console instruction (Nat.zero_le _)

section

variable {code : List Instruction} {start : Machine} {state final : State}

theorem worked_of_say {line : String} (worked : Worked code start state.machine)
    (said : Turn.prompt (state.say line) = .prompt final) : Worked code start final.machine := by
  obtain rfl := Turn.prompt.inj said
  exact worked

theorem worked_of_report {printout : Printout} (worked : Worked code start state.machine)
    (reported : state.report printout = .prompt final) : Worked code start final.machine := by
  have kept : Worked code start (state.report printout).state.machine :=
    report_keeps State.say (fun later : State => Worked code start later.machine) (fun _ _ same => same) worked printout
  rwa [reported] at kept

/-- One step carries out one instruction or none. -/
theorem worked_step {machine : Machine} (worked : Worked code start machine) (labels : Labels) (ip : Int)
    (console : Console) : Worked code start (step labels code ip machine console).machine := by
  unfold step
  split
  · exact worked
  · split
    · exact worked
    · split
      · exact worked
      · next instruction found =>
          have executed := fun console => worked.execute labels console (mem_of_itemAt found)
          split
          · exact worked
          · split
            · exact worked
            · dsimp only
              split
              · exact executed _
              · split <;> exact executed _

theorem prompt_of_afterStep {result : Step} {next : State → Turn State}
    (returned : state.afterStep result next = .prompt final) :
    ∃ stepped : State, stepped.machine = result.machine ∧ stepped.code = state.code ∧
      next stepped = .prompt final := by
  unfold State.afterStep at returned
  dsimp only at returned
  split at returned
  · refine ⟨_, ?_, ?_, returned⟩ <;> rfl
  · cases returned

theorem worked_of_runRest {rest : List Instruction} (inside : rest ⊆ code)
    (worked : Worked code start state.machine) (ran : runRest state rest = .prompt final) :
    Worked code start final.machine := by
  induction rest generalizing state with
  | nil => exact worked_of_say worked ran
  | cons instruction rest ih =>
      obtain ⟨member, inside⟩ := List.cons_subset.mp inside
      have executed := worked.execute state.labels state.console member
      rw [runRest] at ran
      split at ran
      · exact ih inside executed ran
      · split at ran
        · exact worked_of_say executed ran
        · exact worked_of_say executed ran
        · cases ran

theorem worked_of_stepOnce (worked : Worked state.code start state.machine)
    (stepped : stepOnce state = .prompt final) : Worked state.code start final.machine := by
  obtain ⟨after, machine, -, same⟩ := prompt_of_afterStep stepped
  obtain rfl := Turn.prompt.inj same
  rw [machine]
  exact worked_step worked _ _ _

theorem worked_of_stepOver {depth count : Nat} (same : state.code = code) (worked : Worked code start state.machine)
    (stepped : stepOver depth count state = .prompt final) : Worked code start final.machine := by
  induction count generalizing state with
  | zero => cases stepped
  | succ count ih =>
      rw [stepOver] at stepped
      split at stepped
      · obtain rfl := Turn.prompt.inj stepped
        exact worked
      · split at stepped
        · exact worked_of_say worked stepped
        · split at stepped
          · exact worked_of_say worked stepped
          · obtain ⟨after, machine, unchanged, stepped⟩ := prompt_of_afterStep stepped
            have executed : Worked code start after.machine := by
              rw [machine, same]
              exact worked_step worked _ _ _
            split at stepped
            · obtain rfl := Turn.prompt.inj stepped
              exact executed
            · exact ih (unchanged.trans same) executed stepped

theorem worked_of_next (worked : Worked state.code start state.machine)
    (stepped : next state = .prompt final) : Worked state.code start final.machine := by
  unfold next at stepped
  split at stepped
  · exact worked_of_say worked stepped
  · split at stepped
    · exact worked_of_say worked stepped
    · split at stepped
      · cases stepped
      · next instruction found =>
          split at stepped
          · cases stepped
          · split at stepped
            · have executed := fun console => worked.execute state.labels console (mem_of_itemAt found)
              dsimp only at stepped
              split at stepped
              · split at stepped
                · exact worked_of_say (executed _) stepped
                · exact worked_of_say (executed _) stepped
                · cases stepped
              · refine worked_of_stepOver ?_ (executed _) stepped
                rfl
            · exact worked_of_stepOnce worked stepped

/-- The state after a load that has read a code list. Calls that have not returned stay open. -/
def State.reloaded (state : State) (labels : Labels) (code : List Instruction) : State :=
  { state.say "File loaded succesfully" with
    labels
    code
    ip := 0
    machine := { state.machine with stack := [], bindings := .empty } }

/-- A load that comes back to the prompt has taken the labels of the code that was there, and nothing else has
changed unless a file has been read. -/
theorem prompt_of_load {argument : List Char} (loaded : load state argument = .prompt final) :
    ∃ labels, Listing.labels state.code = .ok labels ∧
      ((∃ line, final = State.say { state with labels } line) ∨
        ∃ bytes text code, state.files.lookup (bareFileName argument) = .ok (some bytes) ∧
          fileText bytes = .ok text ∧ Listing.read text = .ok code ∧ final = state.reloaded labels code) := by
  unfold load at loaded
  split at loaded
  · cases loaded
  · next labels linked =>
      refine ⟨labels, linked, ?_⟩
      dsimp only at loaded
      split at loaded
      · cases loaded
      · exact .inl ⟨_, (Turn.prompt.inj loaded).symm⟩
      · next bytes found =>
          split at loaded
          · exact .inl ⟨_, (Turn.prompt.inj loaded).symm⟩
          · next text decoded =>
              split at loaded
              · exact .inl ⟨_, (Turn.prompt.inj loaded).symm⟩
              · next code read =>
                  exact .inr ⟨bytes, text, code, found, decoded, read, (Turn.prompt.inj loaded).symm⟩

theorem machine_of_load {argument : List Char} (loaded : load state argument = .prompt final) :
    final.machine = state.machine ∨
      final.machine = { state.machine with stack := [], bindings := .empty } := by
  obtain ⟨labels, -, ⟨line, rfl⟩ | ⟨bytes, text, code, -, -, -, rfl⟩⟩ := prompt_of_load loaded
  · exact .inl rfl
  · exact .inr rfl

theorem worked_of_exec {argument : List Char} (worked : Worked code start state.machine)
    (executed : exec state argument = .prompt final) : Worked code start final.machine := by
  unfold exec at executed
  split at executed
  · exact worked_of_say worked executed
  · split at executed
    · exact worked_of_say worked executed
    · obtain rfl := Turn.prompt.inj executed
      exact worked

theorem worked_of_frame (worked : Worked code start state.machine)
    (shown : frame state = .prompt final) : Worked code start final.machine := by
  unfold frame at shown
  split at shown
  · exact worked_of_report worked shown
  · exact worked_of_say worked shown

/-- What a command that comes back to the prompt has done to the machine. -/
theorem worked_of_answer {line : CommandLine} (answered : answer state line = .prompt final) :
    Worked state.code state.machine final.machine ∨
      final.machine = { state.machine with stack := [], bindings := .empty } := by
  have stays : Worked state.code state.machine state.machine := .start
  unfold answer at answered
  cases command : line.command with
  | quit => simp [command] at answered
  | load =>
      simp only [command] at answered
      rcases machine_of_load answered with same | cleared
      · exact .inl (same ▸ stays)
      · exact .inr cleared
  | run =>
      simp only [command] at answered
      exact .inl (worked_of_runRest (List.drop_subset _ _) stays answered)
  | step =>
      simp only [command] at answered
      exact .inl (worked_of_stepOnce stays answered)
  | next =>
      simp only [command] at answered
      exact .inl (worked_of_next stays answered)
  | list =>
      simp only [command] at answered
      split at answered
      · cases answered
      · exact .inl (worked_of_report stays answered)
  | memory =>
      simp only [command] at answered
      split at answered
      · exact .inl (worked_of_say stays answered)
      · exact .inl (worked_of_report stays answered)
  | exec =>
      simp only [command] at answered
      exact .inl (worked_of_exec stays answered)
  | frame =>
      simp only [command] at answered
      exact .inl (worked_of_frame stays answered)
  | info | print | stack =>
      simp only [command] at answered
      exact .inl (worked_of_report stays answered)
  | unknown word =>
      simp only [command] at answered
      exact .inl (worked_of_say stays answered)

/-- What a turn that comes back to the prompt has done to the machine. -/
theorem worked_of_turn (turned : frontend.turn state = .prompt final) :
    Worked state.code state.machine final.machine ∨
      final.machine = { state.machine with stack := [], bindings := .empty } := by
  rcases frontend.answer_of_turn turned with rfl | ⟨line, -, answered⟩
  · exact .inl .start
  · exact (worked_of_answer answered :
      Worked (frontend.read state).1.code (frontend.read state).1.machine final.machine ∨ _)

theorem machine_of_turn (turned : frontend.turn state = .prompt final) :
    Excursion 0 state.machine final.machine ∨
      final.machine = { state.machine with stack := [], bindings := .empty } := by
  rcases worked_of_turn turned with worked | cleared
  · exact .inl worked.excursion
  · exact .inr cleared

end

end StackMachine.Debugger.Flat

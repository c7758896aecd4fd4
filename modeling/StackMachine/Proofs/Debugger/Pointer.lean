import StackMachine.Proofs.Debugger.Turning
import StackMachine.Proofs.Program.Labels

/-!
The instruction pointer keeps to the program. Calls set it before the first instruction and jumps before
their target, and moving on comes after, so that between instructions it stands at one or behind the last.
The places that calls save are the places of those calls. Both hold at every prompt of a session
without `exec`, whatever was loaded, run and stopped before.
-/

set_option autoImplicit false

namespace StackMachine

/-- Whether the instruction at a place of a program is a call. -/
def Program.CallsAt (program : Program) (place : ReturnPoint) : Prop :=
  ∃ function instruction, program.function place.function = .ok function ∧
    0 ≤ place.ip ∧ place.ip < function.instructions.length ∧
    function.instructions[place.ip.toNat]? = some instruction ∧ instruction.is .call = true

/-- Whether the pointers of a machine keep to a program: the instruction pointer stands at an instruction
of the active function or behind its last one, if the function is there, and every call saved stands where
the program has one. -/
structure Machine.PlacedIn (program : Program) (machine : Machine) : Prop where
  pointer : ∀ function, program.function machine.current = .ok function →
    0 ≤ machine.ip ∧ machine.ip ≤ function.instructions.length
  calls : ∀ place ∈ machine.saved, program.CallsAt place

/-- The pointer behind a call that was returned from. -/
theorem Program.CallsAt.pointer {program : Program} {place : ReturnPoint} (calls : program.CallsAt place)
    {function : Function} (loaded : program.function place.function = .ok function) :
    0 ≤ place.ip ∧ place.ip < function.instructions.length := by
  obtain ⟨other, instruction, otherLoaded, natural, inside, -, -⟩ := calls
  obtain rfl := Except.ok.inj (otherLoaded.symm.trans loaded)
  exact ⟨natural, inside⟩

section

variable {program : Program} {machine after : Machine} {function : Function} {instruction : Instruction}

/-- One instruction that is carried out keeps the pointers to the program, once the instruction pointer
has moved on. -/
theorem Effect.placedIn (placed : machine.PlacedIn program)
    (active : program.function machine.current = .ok function) (inside : function.LabelsInside)
    (found : itemAt function.instructions machine.ip = .ok instruction)
    (effect : Effect function.labels machine instruction after none) :
    Machine.PlacedIn program { after with ip := after.ip + 1 } := by
  obtain ⟨natural, -⟩ := placed.pointer function active
  have item := getElem?_of_itemAt natural found
  have before : machine.ip < function.instructions.length := by
    have bound := (List.getElem?_eq_some_iff.mp item).1
    omega
  have onward : ∀ ip : Int, 0 ≤ ip → ip ≤ function.instructions.length →
      ∀ other, program.function machine.current = .ok other →
        0 ≤ ip ∧ ip ≤ other.instructions.length := by
    intro ip natural bound other loaded
    obtain rfl := Except.ok.inj (active.symm.trans loaded)
    exact ⟨natural, bound⟩
  cases effect with
  | worked | stored => exact ⟨onward (machine.ip + 1) (by omega) (by omega), placed.calls⟩
  | @jumped _ target index _ found =>
      obtain ⟨low, high⟩ := inside target index found
      exact ⟨onward (index - 1 + 1) (by omega) (by omega), placed.calls⟩
  | called isCall =>
      refine ⟨fun other _ => ⟨by simp, by simp⟩, ?_⟩
      rw [List.forall_mem_cons]
      exact ⟨⟨function, instruction, active, natural, before, item, isCall⟩, placed.calls⟩
  | returned _ places =>
      have calls := placed.calls
      rw [places, List.forall_mem_cons] at calls
      refine ⟨fun other loaded => ?_, calls.2⟩
      obtain ⟨low, high⟩ := calls.1.pointer loaded
      dsimp only
      omega

/-- An instruction that fails keeps the pointers to the program as they are, or takes a saved place. -/
theorem Effect.placedIn_of_fault {fault : Fault} (placed : machine.PlacedIn program)
    (effect : Effect function.labels machine instruction after (some fault)) : after.PlacedIn program := by
  cases effect with
  | failed => exact ⟨placed.pointer, placed.calls⟩
  | unpaired places =>
      have calls := placed.calls
      rw [places, List.forall_mem_cons] at calls
      refine ⟨fun other loaded => ?_, calls.2⟩
      obtain ⟨low, high⟩ := calls.1.pointer loaded
      dsimp only
      omega

end

namespace Debugger.Functions

/-- The state of a session whose labels and pointers keep to the program. -/
structure State.Placed (state : State) : Prop where
  labels : state.program.LabelsInside
  machine : state.machine.PlacedIn state.program

theorem Change.placed {state final : State} (change : Change state final) (placed : state.Placed) :
    final.Placed := by
  cases change with
  | idle machine program =>
      refine ⟨program ▸ placed.labels, ?_⟩
      rw [machine, program]
      exact placed.machine
  | loaded read machine =>
      refine ⟨Program.labelsInside_of_read read, ?_⟩
      rw [machine]
      exact ⟨fun _ _ => ⟨Int.le_refl 0, by simp⟩, nofun⟩
  | carriedOut fetched effect machine program =>
      obtain ⟨active, -, found⟩ := State.fetch?_eq_some fetched
      refine ⟨program ▸ placed.labels, ?_⟩
      rw [machine, program]
      exact effect.placedIn placed.machine active (placed.labels _ _ active) found
  | failed fetched effect program =>
      refine ⟨program ▸ placed.labels, ?_⟩
      rw [program]
      exact effect.placedIn_of_fault placed.machine
  | passed fetched isBreakpoint machine program =>
      obtain ⟨active, before, -⟩ := State.fetch?_eq_some fetched
      refine ⟨program ▸ placed.labels, ?_⟩
      rw [machine, program]
      refine ⟨fun other loaded => ?_, placed.machine.calls⟩
      obtain ⟨natural, -⟩ := placed.machine.pointer other loaded
      obtain rfl := Except.ok.inj (Eq.trans (Eq.symm active) loaded)
      dsimp only
      omega

theorem opening_placed (settings : Settings) (files : FileStore) (terminal : Terminal) :
    (opening settings files terminal).Placed :=
  ⟨Program.labelsInside_empty, ⟨fun _ _ => ⟨Int.le_refl 0, by simp [opening, State.say]⟩, nofun⟩⟩

/-- At every prompt of a session that answers no `exec`, the instruction pointer stands at an instruction of
the active function or behind its last one, unless that function is not there, and every saved place is the
place of a call. -/
theorem pointer_within_program_at_prompt (settings : Settings) (files : FileStore) (terminal : Terminal)
    (turns : Nat) (state : State)
    (noExec : ∀ line ∈ frontend.commands turns (opening settings files terminal), line.command ≠ .exec)
    (reached : frontend.promptAfter turns (opening settings files terminal) = some state) :
    state.machine.PlacedIn state.program := by
  have kept : ∀ before after : State, before.Placed →
      (∀ line, frontend.command? before = some line → line.command ≠ .exec) →
      frontend.turn before = .prompt after → after.Placed :=
    fun _ _ placed other turned => kept_by_changes State.Placed Change.placed (turn_changes other turned) placed
  have placed := frontend.invariant_at_prompt kept (opening_placed settings files terminal) noExec reached
  exact placed.machine

/-- A program whose entry calls a function that stops and jumps back to its first instruction. -/
def loopingFile : FileStore :=
  FileStore.add ⟨[]⟩ "loop" (String.toUTF8
    ("function \"$entrypoint$\"\nLOAD_CONST f\nCALL\n" ++
      "function \"f\"\nLABEL top\nBREAKPOINT\nJMP top")).toList

def looping : State :=
  opening ⟨false, true, .adaptive, 10⟩ loopingFile
    { script := [.line "load loop", .line "run", .line "step"] }

/-- Loaded, run up to the breakpoint and stepped once, the program stands at the first of the three
instructions of its function, with the call at index 1 of the entry saved. -/
theorem pointer_within_program_at_prompt_looping :
    (∀ line ∈ frontend.commands 3 looping, line.command ≠ .exec) ∧
    ∃ state, frontend.promptAfter 3 looping = some state ∧
      state.machine.saved.map ReturnPoint.ip = [1] ∧ state.machine.ip = 0 ∧
      (state.active.toOption.map fun function => function.instructions.length) = some 3 ∧
      state.machine.PlacedIn state.program := by
  have noExec : ∀ line ∈ frontend.commands 3 looping, line.command ≠ .exec := by decide +kernel
  have shown : ((frontend.promptAfter 3 looping).map fun state =>
      (state.machine.saved.map ReturnPoint.ip, state.machine.ip,
        state.active.toOption.map fun function => function.instructions.length)) =
      some ([1], 0, some 3) := by decide +kernel
  obtain ⟨state, reached, same⟩ := Option.map_eq_some_iff.mp shown
  obtain ⟨saved, same⟩ := Prod.mk.inj same
  obtain ⟨ip, length⟩ := Prod.mk.inj same
  exact ⟨noExec, state, reached, saved, ip, length,
    pointer_within_program_at_prompt _ _ _ 3 state noExec reached⟩

end Debugger.Functions

end StackMachine

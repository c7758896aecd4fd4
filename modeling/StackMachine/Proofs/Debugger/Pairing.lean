import StackMachine.Proofs.Debugger.FlatTurning

/-!
Frames and return points stay in pairs. A call saves one of each and a return takes one of each, and neither
debugger comes between, whatever is loaded, run, stepped and stopped, and whatever fails. So the frames that
`memory` shows all have a return point to be named by.
-/

set_option autoImplicit false

namespace StackMachine

namespace Machine

/-- Whether as many frames are saved as return points. -/
def Paired (machine : Machine) : Prop :=
  machine.frames.length = machine.saved.length

/-- Whether a return takes a frame and a return point, or neither. -/
def ReturnsInPairs (machine : Machine) : Prop :=
  ∀ (labels : Labels) (console : Console) (instruction : Instruction), instruction.is .ret = true →
    let after := (machine.execute labels console instruction).machine
    after.frames = machine.frames ∧ after.saved = machine.saved ∨
      ∃ bindings place, machine.frames = bindings :: after.frames ∧ machine.saved = place :: after.saved

theorem Paired.returnsInPairs {machine : Machine} (paired : machine.Paired) : machine.ReturnsInPairs := by
  intro labels console instruction isRet after
  have effect := execute_effect labels machine console instruction
  change Effect labels machine instruction after _ at effect
  generalize after = after, (machine.execute labels console instruction).fault = fault at effect
  cases effect with
  | failed | worked | stored | jumped => exact .inl ⟨rfl, rfl⟩
  | called isCall =>
      rw [Instruction.is_eq_false_of_is isCall (by decide)] at isRet
      cases isRet
  | returned _ places framed => exact .inr ⟨_, _, framed, places⟩
  | unpaired places unframed =>
      rw [Paired, places, unframed] at paired
      cases paired

theorem Excursion.paired {depth : Nat} {start machine : Machine} (paired : start.Paired)
    (excursion : Excursion depth start machine) : machine.Paired := by
  induction excursion with
  | start => exact paired
  | @execute machine _ labels console instruction _ ih =>
      exact (execute_effect labels machine console instruction).paired ih
  | moveTo _ _ ih => exact ih

end Machine

/-- Whether a printout is cut short by nothing but a value that is too long to be written. -/
def Printout.CutByLength (printout : Printout) : Prop :=
  ∀ fault, printout.fault = some fault → fault = .writtenTooLong

namespace Printout.CutByLength

theorem of (lines : List String) : (Printout.of lines).CutByLength := nofun

theorem append {first second : Printout} (firstCut : first.CutByLength) (secondCut : second.CutByLength) :
    (first.append second).CutByLength := by
  intro fault cut
  unfold Printout.append at cut
  split at cut
  · exact firstCut fault cut
  · exact secondCut fault cut

theorem ofText {text : Except Fault (List Char)} (long : ∀ fault, text = .error fault → fault = .writtenTooLong)
    (line : String → String) : (Printout.ofText text line).CutByLength := by
  intro fault cut
  cases text with
  | ok shown => cases cut
  | error other =>
      obtain rfl := Option.some.inj cut
      exact long other rfl

end Printout.CutByLength

theorem Value.show_eq_error {value : Value} {fault : Fault} (failed : value.show = .error fault) :
    fault = .writtenTooLong := by
  unfold Value.show at failed
  split at failed
  · cases failed
  · exact (Except.error.inj failed).symm

theorem Value.write_eq_error {value : Value} {fault : Fault} (failed : value.write = .error fault) :
    fault = .writtenTooLong := by
  unfold Value.write at failed
  split at failed
  · cases failed
  · exact (Except.error.inj failed).symm

theorem bindingLines_cutByLength (indent : String) (entries : List (Value × Value)) :
    (bindingLines indent entries).CutByLength := by
  induction entries with
  | nil => exact .of []
  | cons entry rest ih =>
      obtain ⟨name, value⟩ := entry
      refine .append (.ofText ?_ _) ih
      intro fault failed
      cases shown : name.show with
      | error other =>
          rw [shown] at failed
          obtain rfl := Except.error.inj failed
          exact Value.show_eq_error shown
      | ok text =>
          cases written : value.write with
          | error other =>
              rw [shown, written] at failed
              obtain rfl := Except.error.inj failed
              exact Value.write_eq_error written
          | ok other =>
              rw [shown, written] at failed
              cases failed

namespace Debugger

namespace Functions

theorem savedFrame_cutByLength (place : ReturnPoint) (bindings : Bindings) :
    (savedFrame place bindings).CutByLength := by
  have named : ∀ line, (Printout.ofText place.function.show line).CutByLength :=
    .ofText fun _ => Value.show_eq_error
  unfold savedFrame
  split
  · exact named _
  · exact .append (named _) (bindingLines_cutByLength _ _)

theorem savedFrames_cutByLength {machine : Machine} (paired : machine.Paired) :
    (savedFrames machine).CutByLength := by
  have matching : ¬ machine.frames.length ≠ machine.saved.length := not_not_intro paired
  unfold savedFrames
  by_cases none : machine.frames.isEmpty = true
  · rw [if_pos none]
    exact .of []
  · rw [if_neg none, if_neg matching]
    refine List.foldlRecOn (motive := Printout.CutByLength) _ _ (.of []) ?_
    intro printout cut frame _
    exact cut.append (savedFrame_cutByLength frame.1 frame.2)

/-- With frames in pairs `memory` can fail only at a value that is too long to be written. -/
theorem eq_writtenTooLong_of_memory {state final : State} {fault : Fault} (paired : state.machine.Paired)
    (failed : memory state = .failed final fault) : fault = .writtenTooLong := by
  have named : ∀ line, (Printout.ofText state.machine.current.show line).CutByLength :=
    .ofText fun _ => Value.show_eq_error
  have shown : ∀ own : Printout, own.CutByLength →
      state.report (own.append (savedFrames state.machine)) = .failed final fault →
      fault = .writtenTooLong := by
    intro own cut reported
    have allCut := cut.append (savedFrames_cutByLength paired)
    unfold State.report report at reported
    dsimp only at reported
    split at reported
    · cases reported
    · next other faulty =>
        obtain ⟨-, rfl⟩ := Turn.failed.inj reported
        exact allCut other faulty
  unfold memory at failed
  dsimp only at failed
  split at failed
  · exact shown _ (named _) failed
  · exact shown _ (.append (named _) (bindingLines_cutByLength _ _)) failed

theorem Change.paired {state final : State} (change : Change state final) (paired : state.machine.Paired) :
    final.machine.Paired := by
  cases change with
  | idle machine =>
      rw [machine]
      exact paired
  | loaded _ machine =>
      rw [machine]
      rfl
  | carriedOut _ effect machine =>
      rw [machine]
      exact effect.paired paired
  | failed _ effect => exact effect.paired paired
  | passed _ _ machine =>
      rw [machine]
      exact paired

theorem paired_of_exec {state final : State} {argument : List Char}
    (executed : exec state argument = .prompt final) (paired : state.machine.Paired) : final.machine.Paired := by
  obtain ⟨-, same | ⟨function, instruction, fault, -, effect⟩⟩ := effect_of_exec executed
  · rw [same]
    exact paired
  · exact effect.paired paired

theorem paired_of_turn {state final : State} (paired : state.machine.Paired)
    (turned : frontend.turn state = .prompt final) : final.machine.Paired :=
  kept_by_turn (fun state => state.machine.Paired) Change.paired paired_of_exec paired turned

end Functions

theorem Flat.paired_of_turn {state final : Flat.State} (paired : state.machine.Paired)
    (turned : Flat.frontend.turn state = .prompt final) : final.machine.Paired := by
  rcases Flat.machine_of_turn turned with excursion | cleared
  · exact excursion.paired paired
  · rw [cleared]
    exact paired

/-- At every prompt of every session, in both debuggers, as many frames are saved as return points. Whatever
instructions are carried out or fail from there on, a return takes one of each or neither, and `memory` never
finds them different in number. -/
theorem frames_paired_at_every_prompt :
    (∀ files terminal turns state,
      Flat.frontend.promptAfter turns (Flat.opening files terminal) = some state →
        state.machine.frames.length = state.machine.saved.length ∧
        ∀ after, Machine.Excursion 0 state.machine after → after.ReturnsInPairs) ∧
    ∀ settings files terminal turns state,
      Functions.frontend.promptAfter turns (Functions.opening settings files terminal) = some state →
        state.machine.frames.length = state.machine.saved.length ∧
        (∀ after, Machine.Excursion 0 state.machine after → after.ReturnsInPairs) ∧
        ∀ argument final, Functions.answer state ⟨.memory, argument⟩ ≠ .failed final .framesMismatch := by
  constructor
  · intro files terminal turns state reached
    have initial : (Flat.opening files terminal).machine.Paired := rfl
    have paired : state.machine.Paired :=
      Flat.frontend.invariant_at_every_prompt (fun _ _ => Flat.paired_of_turn) initial reached
    exact ⟨paired, fun _ excursion => (excursion.paired paired).returnsInPairs⟩
  · intro settings files terminal turns state reached
    have initial : (Functions.opening settings files terminal).machine.Paired := rfl
    have paired : state.machine.Paired :=
      Functions.frontend.invariant_at_every_prompt (fun _ _ => Functions.paired_of_turn) initial reached
    refine ⟨paired, fun _ excursion => (excursion.paired paired).returnsInPairs, ?_⟩
    intro argument final failed
    cases Functions.eq_writtenTooLong_of_memory paired failed

def callingFiles : FileStore :=
  FileStore.add
    (FileStore.add ⟨[]⟩ "list" (String.toUTF8 "LOAD_CONST f\nCALL\nADD").toList)
    "program" (String.toUTF8
      ("function \"$entrypoint$\"\nLOAD_CONST f\nCALL\n" ++
        "function \"f\"\nLOAD_CONST f\nBREAKPOINT")).toList

/-- An addition without operands ends a run in the midst of a call, and a call that `exec` makes at a
breakpoint comes on top of the call that led there. -/
theorem frames_paired_at_every_prompt_calling :
    (∃ state, Flat.frontend.promptAfter 2
        (Flat.opening callingFiles { script := [.line "load list", .line "run"] }) = some state ∧
      state.machine.frames.length = 1 ∧ state.machine.saved.length = 1) ∧
    ∃ state, Functions.frontend.promptAfter 3 (Functions.opening ⟨false, true, .adaptive, 10⟩ callingFiles
        { script := [.line "load program", .line "run", .line "exec CALL"] }) = some state ∧
      state.machine.frames.length = 2 ∧ state.machine.saved.length = 2 ∧
      ∀ final, Functions.answer state ⟨.memory, []⟩ ≠ .failed final .framesMismatch := by
  obtain ⟨inList, inProgram⟩ := frames_paired_at_every_prompt
  constructor
  · have shown : ((Flat.frontend.promptAfter 2 (Flat.opening callingFiles
        { script := [.line "load list", .line "run"] })).map fun state =>
          state.machine.frames.length) = some 1 := by decide +kernel
    obtain ⟨state, reached, frames⟩ := Option.map_eq_some_iff.mp shown
    obtain ⟨paired, -⟩ := inList _ _ _ state reached
    exact ⟨state, reached, frames, paired.symm.trans frames⟩
  · have shown : ((Functions.frontend.promptAfter 3 (Functions.opening ⟨false, true, .adaptive, 10⟩
        callingFiles { script := [.line "load program", .line "run", .line "exec CALL"] })).map
          fun state => state.machine.frames.length) = some 2 := by decide +kernel
    obtain ⟨state, reached, frames⟩ := Option.map_eq_some_iff.mp shown
    obtain ⟨paired, -, shows⟩ := inProgram _ _ _ _ state reached
    exact ⟨state, reached, frames, paired.symm.trans frames, shows []⟩

end Debugger

end StackMachine

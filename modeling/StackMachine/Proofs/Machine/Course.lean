import StackMachine.Machine.Run
import StackMachine.Proofs.Machine.Bracketing
import StackMachine.Proofs.Machine.Destination
import StackMachine.Proofs.Program.Labels

/-!
The course of a run through its code list. Jumps and calls leave the instruction pointer before the place that
they lead to, even before the first instruction, and returns put an old one back; but whenever an
instruction is fetched, the pointer stands at one. A jump goes on at the last label of its name and a return
behind the call that it matches, however deep the calls in between were nested.
-/

set_option autoImplicit false

namespace StackMachine

namespace Listing

theorem exists_addLabels {code : List Instruction} (readable : ∀ instruction ∈ code, instruction.Readable)
    (named : ∀ instruction ∈ code, instruction.is .label = true → instruction.args ≠ []) (labels : Labels)
    (index : Nat) : ∃ result, addLabels labels index code = .ok result := by
  induction code generalizing labels index with
  | nil => exact ⟨labels, rfl⟩
  | cons instruction rest ih =>
      obtain ⟨firstReadable, restReadable⟩ := List.forall_mem_cons.mp readable
      obtain ⟨firstNamed, restNamed⟩ := List.forall_mem_cons.mp named
      rw [addLabels]
      by_cases isLabel : instruction.is .label = true
      · rw [if_pos isLabel]
        cases args : instruction.args with
        | nil => exact absurd args (firstNamed isLabel)
        | cons name others =>
            have hashable : name.hashable = true := by
              cases firstReadable.args name (by simp [args]) <;> rfl
            simp only [hashable, if_true]
            exact ih restReadable restNamed _ _
      · rw [if_neg isLabel]
        exact ih restReadable restNamed _ _

theorem declares_eq_false_of_lastLabel? {name : String} {code : List Instruction}
    (missing : lastLabel? name code = none) : ∀ instruction ∈ code, instruction.declares name = false := by
  induction code with
  | nil => exact nofun
  | cons instruction rest ih =>
      rw [lastLabel?] at missing
      cases inRest : lastLabel? name rest with
      | some index => simp [inRest] at missing
      | none =>
          simp only [inRest] at missing
          split at missing
          · cases missing
          · next undeclared =>
              exact List.forall_mem_cons.mpr ⟨Bool.eq_false_iff.mpr undeclared, ih inRest⟩

theorem declares_of_lastLabel? {name : String} {code : List Instruction} {place : Nat}
    (found : lastLabel? name code = some place) :
    (∃ label, code[place]? = some label ∧ label.declares name = true) ∧
      ∀ later, place < later → ∀ other, code[later]? = some other → other.declares name = false := by
  induction code generalizing place with
  | nil => cases found
  | cons instruction rest ih =>
      rw [lastLabel?] at found
      cases inRest : lastLabel? name rest with
      | some index =>
          rw [inRest] at found
          obtain rfl := Option.some.inj found
          obtain ⟨declared, last⟩ := ih inRest
          refine ⟨declared, ?_⟩
          intro later behind other at_
          obtain ⟨later, rfl⟩ := Nat.exists_eq_add_one_of_ne_zero (Nat.ne_of_gt (Nat.zero_lt_of_lt behind))
          exact last later (Nat.lt_of_succ_lt_succ behind) other at_
      | none =>
          rw [inRest] at found
          dsimp only at found
          split at found
          · next declared =>
              obtain rfl := Option.some.inj found
              refine ⟨⟨instruction, rfl, declared⟩, ?_⟩
              intro later behind other at_
              obtain ⟨later, rfl⟩ := Nat.exists_eq_add_one_of_ne_zero (Nat.ne_of_gt behind)
              exact declares_eq_false_of_lastLabel? inRest other (List.mem_of_getElem? at_)
          · cases found

end Listing

theorem Effect.pointers {labels : Labels} {machine after : Machine} {instruction : Instruction} {count : Nat}
    (effect : Effect labels machine instruction after none) (within : labels.Within count)
    (low : 0 ≤ machine.ip) (inside : machine.ip < count)
    (calls : ∀ place ∈ machine.saved, 0 ≤ place.ip ∧ place.ip < count) :
    (0 ≤ after.ip + 1 ∧ after.ip + 1 ≤ count) ∧ ∀ place ∈ after.saved, 0 ≤ place.ip ∧ place.ip < count := by
  cases effect with
  | worked | stored =>
      refine ⟨?_, calls⟩
      dsimp only
      omega
  | @jumped _ target index _ found =>
      refine ⟨?_, calls⟩
      obtain ⟨first, last⟩ := within target index found
      dsimp only
      omega
  | called =>
      refine ⟨?_, List.forall_mem_cons.mpr ⟨⟨low, inside⟩, calls⟩⟩
      dsimp only
      omega
  | returned _ places =>
      rw [places, List.forall_mem_cons] at calls
      refine ⟨?_, calls.2⟩
      obtain ⟨first, last⟩ := calls.1
      dsimp only
      omega

theorem Effect.pointers_of_fault {labels : Labels} {machine after : Machine} {instruction : Instruction}
    {fault : Fault} {count : Nat} (effect : Effect labels machine instruction after (some fault))
    (low : 0 ≤ machine.ip) (inside : machine.ip < count)
    (calls : ∀ place ∈ machine.saved, 0 ≤ place.ip ∧ place.ip < count) :
    (0 ≤ after.ip ∧ after.ip ≤ count) ∧ ∀ place ∈ after.saved, 0 ≤ place.ip ∧ place.ip < count := by
  cases effect with
  | failed => exact ⟨⟨low, Int.le_of_lt inside⟩, calls⟩
  | unpaired places =>
      rw [places, List.forall_mem_cons] at calls
      exact ⟨⟨calls.1.1, Int.le_of_lt calls.1.2⟩, calls.2⟩

namespace Run

variable {labels : Labels} {code : List Instruction}

/-- A run whose pointers keep to its code: it stands at an instruction or at the end, calls were made at
instructions, and instructions were carried out where there are some. -/
structure WithinCode (code : List Instruction) (run : Run) : Prop where
  pointer : 0 ≤ run.machine.ip ∧ run.machine.ip ≤ code.length
  calls : ∀ place ∈ run.machine.saved, 0 ≤ place.ip ∧ place.ip < code.length
  visited : ∀ index ∈ run.visited, 0 ≤ index ∧ index < code.length

theorem advance_withinCode (inside : labels.Within code.length) {run : Run} (placed : run.WithinCode code) :
    (run.advance labels code).1.WithinCode code := by
  unfold advance
  split
  · next before =>
      have visited := List.forall_mem_cons.mpr ⟨⟨placed.pointer.1, before⟩, placed.visited⟩
      obtain ⟨instruction, found⟩ := exists_itemAt placed.pointer.1 before
      simp only [found]
      have effect := Machine.execute_effect labels run.machine run.console instruction
      cases carried : (run.machine.execute labels run.console instruction).fault with
      | none =>
          rw [carried] at effect
          obtain ⟨pointer, calls⟩ := effect.pointers inside placed.pointer.1 before placed.calls
          exact ⟨pointer, calls, visited⟩
      | some fault =>
          rw [carried] at effect
          obtain ⟨pointer, calls⟩ := effect.pointers_of_fault placed.pointer.1 before placed.calls
          exact ⟨pointer, calls, visited⟩
  · exact placed

theorem forward_withinCode (inside : labels.Within code.length) (fuel : Nat) {run : Run}
    (placed : run.WithinCode code) : (forward labels code fuel run).1.WithinCode code := by
  induction fuel generalizing run with
  | zero => exact placed
  | succ fuel ih =>
      have step := advance_withinCode inside placed
      rw [forward]
      generalize run.advance labels code = advanced at step ⊢
      obtain ⟨next, status⟩ := advanced
      cases status with
      | going => exact ih step
      | finished | failed => exact step

/-- A run that is going on has carried out one instruction and has moved on. -/
theorem of_advance_going {run next : Run} (advanced : run.advance labels code = (next, .going)) :
    ∃ instruction, run.machine.ip < code.length ∧ itemAt code run.machine.ip = .ok instruction ∧
      (run.machine.execute labels run.console instruction).fault = none ∧
      next.machine = { (run.machine.execute labels run.console instruction).machine with
        ip := (run.machine.execute labels run.console instruction).machine.ip + 1 } := by
  unfold advance at advanced
  split at advanced
  · next before =>
      cases found : itemAt code run.machine.ip with
      | error fault => simp [found] at advanced
      | ok instruction =>
          simp only [found] at advanced
          cases carried : (run.machine.execute labels run.console instruction).fault with
          | some fault => simp [carried] at advanced
          | none =>
              simp only [carried] at advanced
              obtain ⟨rfl, -⟩ := Prod.mk.inj advanced
              exact ⟨instruction, before, rfl, carried, rfl⟩
  · cases advanced

theorem advance_of_finished {run last : Run} (advanced : run.advance labels code = (last, .finished)) :
    last = run ∧ ¬ run.machine.ip < code.length := by
  unfold advance at advanced
  split at advanced
  · next before =>
      cases found : itemAt code run.machine.ip with
      | error fault => simp [found] at advanced
      | ok instruction =>
          simp only [found] at advanced
          split at advanced <;> cases advanced
  · next past =>
      obtain ⟨rfl, -⟩ := Prod.mk.inj advanced
      exact ⟨rfl, past⟩

/-- A run of one instruction more, taken apart at its last instruction. -/
theorem of_forward_succ {count : Nat} {start last : Run}
    (went : forward labels code (count + 1) start = (last, .outOfFuel)) :
    ∃ run, forward labels code count start = (run, .outOfFuel) ∧ run.advance labels code = (last, .going) := by
  induction count generalizing start with
  | zero =>
      unfold forward at went
      cases advanced : start.advance labels code with
      | mk next status =>
          rw [advanced] at went
          cases status with
          | going =>
              obtain ⟨rfl, -⟩ := Prod.mk.inj went
              exact ⟨start, rfl, advanced⟩
          | finished | failed => cases went
  | succ count ih =>
      unfold forward at went ⊢
      cases advanced : start.advance labels code with
      | mk next status =>
          rw [advanced] at went
          cases status with
          | going => exact ih went
          | finished | failed => cases went

/-- A call that a run from `start` has carried out and after `count` instructions has not returned from: it has
had more frames than the caller ever since. -/
structure OpenCall (labels : Labels) (code : List Instruction) (start : Run) (count : Nat) (caller : Run) :
    Prop where
  isCall : ∃ call, itemAt code caller.machine.ip = .ok call ∧ call.is .call = true
  since : ∃ before, before < count ∧ forward labels code before start = (caller, .outOfFuel) ∧
    ∀ between, before < between → between ≤ count → ∀ middle,
      forward labels code between start = (middle, .outOfFuel) →
        caller.machine.frames.length < middle.machine.frames.length

theorem OpenCall.later {start caller run : Run} {count : Nat} (open_ : OpenCall labels code start count caller)
    (went : forward labels code (count + 1) start = (run, .outOfFuel))
    (deep : caller.machine.frames.length < run.machine.frames.length) :
    OpenCall labels code start (count + 1) caller := by
  obtain ⟨before, earlier, called, above⟩ := open_.since
  refine ⟨open_.isCall, before, Nat.lt_succ_of_lt earlier, called, ?_⟩
  intro between after upTo middle reached
  rcases Nat.lt_or_eq_of_le upTo with sooner | rfl
  · exact above between after (Nat.le_of_lt_succ sooner) middle reached
  · obtain ⟨rfl, -⟩ := Prod.mk.inj (went.symm.trans reached)
    exact deep

/-- Every frame of a run that began without frames belongs to a call that is still open. -/
theorem exists_openCall {start : Run} (fresh : start.machine.frames = []) {count depth : Nat} {run : Run}
    (went : forward labels code count start = (run, .outOfFuel)) (deep : depth < run.machine.frames.length) :
    ∃ caller, OpenCall labels code start count caller ∧ caller.machine.frames.length = depth ∧
      caller.machine.InsideCallOf run.machine := by
  induction count generalizing run with
  | zero =>
      obtain ⟨rfl, -⟩ := Prod.mk.inj went
      simp [fresh] at deep
  | succ count ih =>
      obtain ⟨middle, before, advanced⟩ := of_forward_succ went
      obtain ⟨instruction, inside, found, carried, machine⟩ := of_advance_going advanced
      have effect := Machine.execute_effect labels middle.machine middle.console instruction
      rw [carried] at effect
      have depths := effect.depth
      have frames : run.machine.frames.length =
          (middle.machine.execute labels middle.console instruction).machine.frames.length := by rw [machine]
      by_cases already : depth < middle.machine.frames.length
      · obtain ⟨caller, open_, level, inCall⟩ := ih before already
        have above : caller.machine.frames.length < run.machine.frames.length := level ▸ deep
        refine ⟨caller, open_.later went above, level, ?_⟩
        rw [frames] at above
        have stillInCall := inCall.effect effect above
        rw [machine]
        exact stillInCall
      · -- The frame is new, so this instruction was the call that made it.
        have isCall : instruction.is .call = true := by
          cases other : instruction.is .call with
          | true => rfl
          | false =>
              simp only [other, Bool.false_eq_true, if_false] at depths
              omega
        obtain ⟨inCall, level⟩ := Machine.insideCallOf_of_effect isCall effect
        refine ⟨middle, ⟨⟨instruction, found, isCall⟩, count, Nat.lt_succ_self count, before, ?_⟩, by omega, ?_⟩
        · intro between after upTo other reached
          obtain rfl : between = count + 1 := by omega
          obtain ⟨rfl, -⟩ := Prod.mk.inj (went.symm.trans reached)
          omega
        · rw [machine]
          exact inCall

/-- A return goes on behind the innermost call that is open. -/
theorem advance_of_ret {start : Run} (fresh : start.machine.frames = []) {count : Nat} {run next : Run}
    {instruction : Instruction} (went : forward labels code count start = (run, .outOfFuel))
    (found : itemAt code run.machine.ip = .ok instruction) (isRet : instruction.is .ret = true)
    (advanced : run.advance labels code = (next, .going)) :
    ∃ caller, OpenCall labels code start count caller ∧
      caller.machine.frames.length + 1 = run.machine.frames.length ∧
      next.machine.ip = caller.machine.ip + 1 := by
  obtain ⟨other, -, fetched, carried, machine⟩ := of_advance_going advanced
  obtain rfl := Except.ok.inj (fetched.symm.trans found)
  have effect := Machine.execute_effect labels run.machine run.console other
  rw [carried] at effect
  have depths := effect.depth
  rw [isRet, Instruction.is_eq_false_of_is isRet (by decide)] at depths
  simp only [if_true, Bool.false_eq_true, if_false, Nat.add_zero] at depths
  have shallower : (run.machine.execute labels run.console other).machine.frames.length <
      run.machine.frames.length := by omega
  obtain ⟨caller, open_, level, inCall⟩ := exists_openCall fresh went shallower
  have restored := inCall.returned (by omega) effect level.symm
  refine ⟨caller, open_, by omega, ?_⟩
  rw [machine, restored]

theorem advance_of_label {run : Run} {label : Instruction} (inside : run.machine.ip < code.length)
    (found : itemAt code run.machine.ip = .ok label) (isLabel : label.is .label = true) :
    run.advance labels code =
      (⟨{ run.machine with ip := run.machine.ip + 1 }, run.console, run.machine.ip :: run.visited⟩, .going) := by
  obtain ⟨mnemonic, args⟩ := label
  obtain rfl : mnemonic = .known .label := of_decide_eq_true isLabel
  simp only [advance, if_pos inside, found]
  rfl

/-- A jump goes on at the last label of its name, and that label is carried out next. -/
theorem advance_of_jumps (located : labels.Locate code) {run next : Run} {instruction : Instruction}
    {name : String} (found : itemAt code run.machine.ip = .ok instruction)
    (jumps : instruction.Jumps run.machine name) (advanced : run.advance labels code = (next, .going)) :
    ∃ place after, Listing.lastLabel? name code = some place ∧ next.machine.ip = place ∧
      next.advance labels code = (after, .going) ∧ after.visited = (place : Int) :: next.visited := by
  obtain ⟨other, -, fetched, carried, machine⟩ := of_advance_going advanced
  obtain rfl := Except.ok.inj (fetched.symm.trans found)
  obtain ⟨index, labelled, landed⟩ := Machine.ip_of_jumps jumps carried
  rw [located name] at labelled
  obtain ⟨place, last, rfl⟩ := Option.map_eq_some_iff.mp labelled
  have pointer : next.machine.ip = place := by
    rw [machine]
    exact landed
  obtain ⟨⟨label, at_, declared⟩, -⟩ := Listing.declares_of_lastLabel? last
  have isLabel : label.is .label = true := (Bool.and_eq_true_iff.mp declared).1
  have inside : next.machine.ip < code.length := by
    rw [pointer]
    exact Int.ofNat_lt.mpr (Listing.lastLabel?_lt last)
  have atLabel : itemAt code next.machine.ip = .ok label := by
    rw [pointer]
    exact itemAt_of_getElem? (Int.natCast_nonneg place) at_
  refine ⟨place, _, last, pointer, advance_of_label inside atLabel isLabel, ?_⟩
  rw [pointer]

theorem ip_of_finished (inside : labels.Within code.length) {fuel : Nat} {run last : Run}
    (placed : run.WithinCode code) (finished : forward labels code fuel run = (last, .finished)) :
    last.machine.ip = code.length := by
  induction fuel generalizing run with
  | zero => cases finished
  | succ fuel ih =>
      have step := advance_withinCode inside placed
      rw [forward] at finished
      cases advanced : run.advance labels code with
      | mk next status =>
          rw [advanced] at finished step
          cases status with
          | going => exact ih step finished
          | failed => cases finished
          | finished =>
              obtain ⟨rfl, -⟩ := Prod.mk.inj finished
              obtain ⟨rfl, past⟩ := advance_of_finished advanced
              have high := placed.pointer.2
              omega

/-- How a run takes its course: whatever it fetches is an instruction of the code, and it carries out nothing
else; a jump that succeeds goes on at the last label of its name, which is carried out next; a return that
succeeds goes on behind the innermost call that is still open; and a run that comes to its end stands right
behind the last instruction. -/
structure Orderly (labels : Labels) (code : List Instruction) (start : Run) : Prop where
  fetches : ∀ count run, forward labels code count start = (run, .outOfFuel) → run.machine.ip < code.length →
    0 ≤ run.machine.ip ∧ ∃ instruction, itemAt code run.machine.ip = .ok instruction ∧
      code[run.machine.ip.toNat]? = some instruction
  visits : ∀ fuel, ∀ index ∈ (forward labels code fuel start).1.visited, 0 ≤ index ∧ index < code.length
  jumps : ∀ count run next instruction name, forward labels code count start = (run, .outOfFuel) →
    itemAt code run.machine.ip = .ok instruction → instruction.Jumps run.machine name →
    run.advance labels code = (next, .going) →
      ∃ (place : Nat) (label : Instruction) (after : Run), next.machine.ip = place ∧
        code[place]? = some label ∧ label.declares name = true ∧
        (∀ later, place < later → ∀ other, code[later]? = some other → other.declares name = false) ∧
        next.advance labels code = (after, .going) ∧ after.visited = (place : Int) :: next.visited
  returns : ∀ count run next instruction, forward labels code count start = (run, .outOfFuel) →
    itemAt code run.machine.ip = .ok instruction → instruction.is .ret = true →
    run.advance labels code = (next, .going) →
      ∃ caller, OpenCall labels code start count caller ∧
        caller.machine.frames.length + 1 = run.machine.frames.length ∧
        next.machine.ip = caller.machine.ip + 1
  ends : ∀ fuel last, forward labels code fuel start = (last, .finished) → last.machine.ip = code.length

/-- A listing whose labels all have names has its labels located, and a new machine takes its course through it
whatever operations it is made of, whatever is read, and however long it runs. -/
theorem course_of_listing (text : List Char) (code : List Instruction) (accepted : Listing.read text = .ok code)
    (named : ∀ instruction ∈ code, instruction.is .label = true → instruction.args ≠ [])
    (console : Console) :
    ∃ labels, Listing.labels code = .ok labels ∧ Orderly labels code ⟨{}, console, []⟩ := by
  obtain ⟨labels, linked⟩ := Listing.exists_addLabels (Listing.readable_of_read accepted) named .empty 0
  have inside := Listing.within_labels linked
  have placed : WithinCode code ⟨{}, console, []⟩ := ⟨⟨Int.le_refl 0, Int.natCast_nonneg _⟩, nofun, nofun⟩
  refine ⟨labels, linked, ?_, ?_, ?_, ?_, ?_⟩
  · intro count run went before
    have within : run.WithinCode code := by
      have kept := forward_withinCode inside count placed
      rwa [went] at kept
    obtain ⟨instruction, found⟩ := exists_itemAt within.pointer.1 before
    exact ⟨within.pointer.1, instruction, found, getElem?_of_itemAt within.pointer.1 found⟩
  · intro fuel
    exact (forward_withinCode inside fuel placed).visited
  · intro count run next instruction name went found jumps advanced
    obtain ⟨place, after, last, pointer, onward, visited⟩ :=
      advance_of_jumps (Listing.locate_labels linked) found jumps advanced
    obtain ⟨⟨label, at_, declared⟩, later⟩ := Listing.declares_of_lastLabel? last
    exact ⟨place, label, after, pointer, at_, declared, later, onward, visited⟩
  · intro count run next instruction went found isRet advanced
    exact advance_of_ret rfl went found isRet advanced
  · intro fuel last finished
    exact ip_of_finished inside placed finished

/-- A program that calls itself: a one that is read leads to the return. -/
def diving : List Instruction := [
  .of .inputNumber [], .of .branch [.text "back"], .of .loadConst [.text "f"], .of .call [],
  .of .jump [.text "end"], .of .label [.text "back"], .of .ret [], .of .label [.text "end"]]

def divingListing : List Char :=
  "INPUT_NUMBER\nCJMP back\nLOAD_CONST f\nCALL\nJMP end\nLABEL back\nRET\nLABEL end".toList

def divingLabels : Labels := ⟨[(.text "back", 5), (.text "end", 7)]⟩

/-- A zero is read and leads to the call, which starts again at index 0. Now a one is read and leads to the
return; it goes on at index 4, behind the call, and the run ends behind the eight instructions. -/
theorem course_of_listing_diving :
    Listing.read divingListing = .ok diving ∧
      (∀ instruction ∈ diving, instruction.is .label = true → instruction.args ≠ []) ∧
      ∃ last, forward divingLabels diving 11
          ⟨{}, { feed := some ⟨.prompted, .list [.int 0, .int 1]⟩ }, []⟩ = (last, .finished) ∧
        last.visited = [7, 4, 6, 5, 1, 0, 3, 2, 1, 0] ∧ last.machine.ip = 8 := by
  have accepted : Listing.read divingListing = .ok diving := rfl
  have named : ∀ instruction ∈ diving, instruction.is .label = true → instruction.args ≠ [] := by
    simp [diving, Instruction.of, Instruction.is]
  obtain ⟨labels, linked, orderly⟩ := course_of_listing divingListing diving accepted named
    { feed := some ⟨.prompted, .list [.int 0, .int 1]⟩ }
  obtain rfl : divingLabels = labels := Except.ok.inj linked
  exact ⟨accepted, named, _, rfl, rfl, orderly.ends 11 _ rfl⟩

end Run

end StackMachine

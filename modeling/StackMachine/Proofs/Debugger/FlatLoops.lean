import StackMachine.Proofs.Debugger.Continuation
import StackMachine.Proofs.Debugger.FlatStepping

/-!
The loops of the debugger for a single list, told without a bound on their rounds and with the indices of the
instructions that they carry out. Jumps, calls and returns move the machine's instruction pointer, but the
loops go by the debugger's own place, which only moves on. So the indices ascend, and `run` and `next` go
through their loops to the end (`run_loop`, `next_loop`).
-/

set_option autoImplicit false

namespace StackMachine

/-- Indices that increase from one to the next, none below `low`, all below `high`. -/
structure Ascends (low high : Int) (indices : List Int) : Prop where
  increasing : indices.Pairwise (· < ·)
  bounded : ∀ index ∈ indices, low ≤ index ∧ index < high

namespace Ascends

variable {low high : Int} {indices : List Int}

theorem nil (low high : Int) : Ascends low high [] :=
  ⟨.nil, nofun⟩

theorem cons (below : low < high) (rest : Ascends (low + 1) high indices) :
    Ascends low high (low :: indices) := by
  constructor
  · rw [List.pairwise_cons]
    refine ⟨fun index member => ?_, rest.increasing⟩
    have bounds := rest.bounded index member
    omega
  · rw [List.forall_mem_cons]
    refine ⟨⟨Int.le_refl low, below⟩, fun index member => ?_⟩
    have bounds := rest.bounded index member
    omega

theorem tail {index : Int} (ascends : Ascends low high (index :: indices)) : Ascends (index + 1) high indices := by
  obtain ⟨increasing, bounded⟩ := ascends
  rw [List.pairwise_cons] at increasing
  rw [List.forall_mem_cons] at bounded
  exact ⟨increasing.2, fun other member => ⟨increasing.1 other member, (bounded.2 other member).2⟩⟩

/-- There are no more indices than places from the lower bound on. -/
theorem room (ascends : Ascends low high indices) : indices = [] ∨ low + indices.length ≤ high := by
  induction indices generalizing low with
  | nil => exact .inl rfl
  | cons index rest ih =>
      have own := ascends.bounded index List.mem_cons_self
      rw [List.length_cons]
      rcases ih ascends.tail with rfl | fits
      · rw [List.length_nil]
        omega
      · omega

theorem length_le (ascends : Ascends low high indices) (natural : 0 ≤ low) : indices.length ≤ high.toNat := by
  rcases ascends.room with rfl | fits
  · exact Nat.zero_le _
  · omega

/-- As many indices as there are places are all of these, one after the other. -/
theorem eq_of_full (ascends : Ascends low high indices) (count : Nat) (places : high = low + count)
    (full : count ≤ indices.length) : indices = (List.range count).map fun (offset : Nat) => low + offset := by
  induction count generalizing low indices with
  | zero =>
      rcases ascends.room with rfl | fits
      · rfl
      · have none : indices.length = 0 := by omega
        rw [List.length_eq_zero_iff.mp none]
        rfl
  | succ count ih =>
      cases indices with
      | nil => cases full
      | cons index rest =>
          rw [List.length_cons] at full
          have first : index = low := by
            have own := ascends.bounded index List.mem_cons_self
            rcases ascends.tail.room with rfl | fits
            · rw [List.length_nil] at full
              omega
            · omega
          subst first
          have others : rest = (List.range count).map fun (offset : Nat) => index + 1 + offset :=
            ih ascends.tail (by omega) (by omega)
          rw [others, List.range_succ_eq_map, List.map_cons, List.map_map]
          refine congrArg₂ List.cons (Int.add_zero index).symm (List.map_congr_left fun offset _ => ?_)
          simp only [Function.comp_apply, Nat.succ_eq_add_one]
          omega

end Ascends

theorem Fault.classOf_badIndex (index : Int) : (Fault.badIndex index).classOf = .index := by
  unfold Fault.badIndex
  split <;> rfl

theorem length_le_of_itemAt?_none {α : Type} {items : List α} {index : Int} (natural : 0 ≤ index)
    (missing : itemAt? items index = none) : items.length ≤ index := by
  rw [itemAt?, if_pos natural, List.getElem?_eq_none_iff] at missing
  omega

namespace Debugger.Flat

def State.carryOut (state : State) (instruction : Instruction) : Outcome :=
  state.machine.execute state.labels state.console instruction

/-- Where a fault in the loop of `run` leads. -/
def settle (state : State) (fault : Fault) : Turn State :=
  match fault.classOf with
  | .stop => .prompt (state.say ("Stopped at instruction " ++ toString state.ip ++ " (BREAKPOINT)"))
  | .index => .prompt (state.say "End of program reached.")
  | _ => .failed state fault

/-- The loop of `run`: it fetches the instruction at the debugger's place, carries it out and moves on by one,
until one of these fails. -/
inductive RunLoop : State → List Int → Turn State → Prop where
  | ended {state : State} {fault : Fault} (missing : itemAt state.code state.ip = .error fault) :
      RunLoop state [] (settle state fault)
  | failed {state : State} {instruction : Instruction} {fault : Fault}
      (found : itemAt state.code state.ip = .ok instruction)
      (faulty : (state.carryOut instruction).fault = some fault) :
      RunLoop state [state.ip] (settle (state.after (state.carryOut instruction)) fault)
  | moved {state : State} {instruction : Instruction} {indices : List Int} {turn : Turn State}
      (found : itemAt state.code state.ip = .ok instruction)
      (carried : (state.carryOut instruction).fault = none)
      (onward : RunLoop { state.after (state.carryOut instruction) with ip := state.ip + 1 } indices turn) :
      RunLoop state (state.ip :: indices) turn

def State.tryStep (state : State) : Step :=
  step state.labels state.code state.ip state.machine state.console

/-- The state that a step leaves. -/
def State.stepped (state : State) : State :=
  { state with ip := state.tryStep.ip, machine := state.tryStep.machine, console := state.tryStep.console }

/-- Whether a step over a call is still inside it and at an instruction. -/
structure State.Inside (state : State) (depth : Nat) (instruction : Instruction) : Prop where
  deep : depth < state.machine.frames.length
  found : itemAt state.code state.ip = .ok instruction

/-- The loop of a step over a call that was made with `depth` frames: it takes steps until there are no more
frames than that, and stops before breakpoints, behind the last instruction, and where it gets stuck. An
instruction that cannot be announced ends it and is not carried out. -/
inductive OverLoop (depth : Nat) : State → List Int → Turn State → Prop where
  | back {state : State} (shallow : state.machine.frames.length ≤ depth) :
      OverLoop depth state [] (.prompt state)
  | ended {state : State} (deep : depth < state.machine.frames.length) (past : state.code.length ≤ state.ip) :
      OverLoop depth state [] (.prompt (state.say "Program finished while stepping over call."))
  | stopped {state : State} {instruction : Instruction} (inside : state.Inside depth instruction)
      (isBreakpoint : instruction.is .breakpoint = true) :
      OverLoop depth state [] (.prompt (state.say
        ("Stopped at BREAKPOINT @ " ++ toString state.ip ++ " (inside called function)")))
  | unwritten {state : State} {instruction : Instruction} (inside : state.Inside depth instruction)
      (other : instruction.is .breakpoint = false) (long : instruction.printable = false) :
      OverLoop depth state [] (.failed state .writtenTooLong)
  | failed {state : State} {instruction : Instruction} {fault : Fault}
      (inside : state.Inside depth instruction) (other : instruction.is .breakpoint = false)
      (written : instruction.printable = true) (faulty : state.tryStep.fault = some fault) :
      OverLoop depth state [state.ip] (.failed state.stepped fault)
  | stuck {state : State} {instruction : Instruction} (inside : state.Inside depth instruction)
      (other : instruction.is .breakpoint = false) (sound : state.tryStep.fault = none)
      (still : state.stepped.ip = state.ip) (stillDeep : depth < state.stepped.machine.frames.length) :
      OverLoop depth state [state.ip] (.prompt state.stepped)
  | moved {state : State} {instruction : Instruction} {indices : List Int} {turn : Turn State}
      (inside : state.Inside depth instruction) (other : instruction.is .breakpoint = false)
      (sound : state.tryStep.fault = none)
      (leaves : state.stepped.ip = state.ip → state.stepped.machine.frames.length ≤ depth)
      (onward : OverLoop depth state.stepped indices turn) : OverLoop depth state (state.ip :: indices) turn

/-- Where a fault of a call that is to be stepped over leads. -/
def settleCall (state : State) (fault : Fault) : Turn State :=
  match fault.classOf with
  | .stop => .prompt (state.say ("Stopped at instruction " ++ toString state.ip ++ " (BREAKPOINT)"))
  | .assertion => .prompt (state.say ("Runtime error: " ++ fault.message))
  | _ => .failed state fault

def State.announceOver (state : State) (instruction : Instruction) : State :=
  state.say (announcement state.ip instruction ++ "  # CALL (step over)")

/-- The state that a call to be stepped over leaves. -/
def State.called (state : State) (instruction : Instruction) : State :=
  (state.announceOver instruction).after ((state.announceOver instruction).carryOut instruction)

def State.fromStart (state : State) : State :=
  { state with ip := 0 }

/-- Whether an instruction that stands at the debugger's place can be announced. -/
structure State.Announces (state : State) (instruction : Instruction) : Prop where
  found : itemAt state.code state.ip = .ok instruction
  written : instruction.printable = true

/-- What `next` does: a step, or a call and, from the first instruction on, the loop that steps over it. The
instructions of that loop are listed apart from the one that stands at the debugger's place. -/
inductive NextLoop (state : State) : List Int → List Int → Turn State → Prop where
  | unloaded (empty : state.code = []) :
      NextLoop state [] [] (.prompt (state.say "No program loaded. Use: load <path>"))
  | ended (loaded : state.code ≠ []) (past : state.code.length ≤ state.ip) :
      NextLoop state [] [] (.prompt (state.say "IP at end; nothing to execute."))
  | unwritten {instruction : Instruction} (found : itemAt state.code state.ip = .ok instruction)
      (long : instruction.printable = false) : NextLoop state [] [] (.failed state .writtenTooLong)
  | passed {instruction : Instruction} (announces : state.Announces instruction)
      (isBreakpoint : instruction.is .breakpoint = true) : NextLoop state [] [] (stepOnce state)
  | stepped {instruction : Instruction} (announces : state.Announces instruction)
      (other : instruction.is .breakpoint = false) (noCall : instruction.is .call = false) :
      NextLoop state [state.ip] [] (stepOnce state)
  | refused {instruction : Instruction} {fault : Fault} (announces : state.Announces instruction)
      (isCall : instruction.is .call = true)
      (faulty : ((state.announceOver instruction).carryOut instruction).fault = some fault) :
      NextLoop state [state.ip] [] (settleCall (state.called instruction) fault)
  | entered {instruction : Instruction} {indices : List Int} {turn : Turn State}
      (announces : state.Announces instruction) (isCall : instruction.is .call = true)
      (carried : ((state.announceOver instruction).carryOut instruction).fault = none)
      (loop : OverLoop state.machine.frames.length (state.called instruction).fromStart indices turn) :
      NextLoop state [state.ip] indices turn

section

variable {state : State} {turn : Turn State} {indices : List Int}

theorem runRest_loop {rest : List Instruction} (natural : 0 ≤ state.ip)
    (left : state.code.drop state.ip.toNat = rest) : ∃ indices, RunLoop state indices (runRest state rest) := by
  induction rest generalizing state with
  | nil =>
      have missing : itemAt state.code state.ip = .error (.badIndex state.ip) := by
        rw [List.drop_eq_nil_iff] at left
        rw [itemAt, itemAt?, if_pos natural, List.getElem?_eq_none_iff.mpr left]
      have settled : settle state (.badIndex state.ip) = runRest state [] := by
        rw [settle, Fault.classOf_badIndex, runRest]
      exact ⟨[], settled ▸ .ended missing⟩
  | cons instruction rest ih =>
      have present : state.code[state.ip.toNat]? = some instruction := by
        rw [← List.head?_drop, left, List.head?_cons]
      have found := itemAt_of_getElem? natural present
      cases carried : (state.carryOut instruction).fault with
      | some fault =>
          have settled : settle (state.after (state.carryOut instruction)) fault =
              runRest state (instruction :: rest) := by
            unfold State.carryOut at carried
            rw [runRest, carried]
            rfl
          exact ⟨[state.ip], settled ▸ .failed found carried⟩
      | none =>
          let next : State := { state.after (state.carryOut instruction) with ip := state.ip + 1 }
          have goesOn : runRest next rest = runRest state (instruction :: rest) := by
            unfold State.carryOut at carried
            rw [runRest, carried]
            rfl
          have fewer : next.code.drop next.ip.toNat = rest := by
            have place : next.ip.toNat = state.ip.toNat + 1 := Int.toNat_add natural (by decide)
            rw [place, ← List.tail_drop]
            exact congrArg List.tail left
          obtain ⟨indices, loop⟩ := @ih next (Int.add_nonneg natural (by decide)) fewer
          exact ⟨state.ip :: indices, .moved found carried (goesOn ▸ loop)⟩

theorem run_loop (natural : 0 ≤ state.ip) : ∃ indices, RunLoop state indices (run state) :=
  runRest_loop natural rfl

theorem RunLoop.ascends (loop : RunLoop state indices turn) (natural : 0 ≤ state.ip) :
    Ascends state.ip state.code.length indices := by
  induction loop with
  | ended missing => exact .nil _ _
  | failed found faulty => exact .cons (lt_length_of_itemAt natural found) (.nil _ _)
  | moved found carried onward ih =>
      exact .cons (lt_length_of_itemAt natural found) (ih (Int.add_nonneg natural (by decide)))

/-- A step reads no more than its instruction does, and stays at its place or moves on by one. -/
theorem step_onward (labels : Labels) (code : List Instruction) (ip : Int) (machine : Machine)
    (console : Console) :
    (step labels code ip machine console).console.terminal.script <:+ console.terminal.script ∧
      ((step labels code ip machine console).ip = ip ∨ (step labels code ip machine console).ip = ip + 1) := by
  have executed := fun instruction =>
    machine.script_of_execute labels (console.writeLine (announcement ip instruction)) instruction
  unfold step
  split
  · exact ⟨List.suffix_refl _, .inl rfl⟩
  · split
    · exact ⟨List.suffix_refl _, .inl rfl⟩
    · split
      · exact ⟨List.suffix_refl _, .inl rfl⟩
      · split
        · exact ⟨List.suffix_refl _, .inl rfl⟩
        · split
          · exact ⟨List.suffix_refl _, .inr rfl⟩
          · dsimp only
            split
            · exact ⟨executed _, .inr rfl⟩
            · split <;> exact ⟨executed _, .inl rfl⟩

theorem afterStep_of_sound (sound : state.tryStep.fault = none) (next : State → Turn State) :
    state.afterStep state.tryStep next = next state.stepped := by
  unfold State.afterStep
  rw [sound]
  rfl

theorem afterStep_of_unwritten {instruction : Instruction} (found : itemAt state.code state.ip = .ok instruction)
    (long : instruction.printable = false) (next : State → Turn State) :
    state.afterStep state.tryStep next = .failed state .writtenTooLong := by
  unfold State.tryStep
  rw [step_of_unwritten found long]
  rfl

theorem afterStep_of_fault {fault : Fault} (faulty : state.tryStep.fault = some fault)
    (next : State → Turn State) : state.afterStep state.tryStep next = .failed state.stepped fault := by
  unfold State.afterStep
  rw [faulty]
  rfl

theorem stepOver_loop {depth count : Nat} (natural : 0 ≤ state.ip) (some_ : 0 < count)
    (enough : depth < state.machine.frames.length → state.code.length < state.ip + count) :
    ∃ indices, OverLoop depth state indices (stepOver depth count state) := by
  induction count generalizing state with
  | zero => cases some_
  | succ count ih =>
      rw [stepOver]
      by_cases shallow : state.machine.frames.length ≤ depth
      · rw [if_pos shallow]
        exact ⟨[], .back shallow⟩
      · have deep := Nat.lt_of_not_le shallow
        rw [if_neg shallow]
        cases found? : itemAt? state.code state.ip with
        | none => exact ⟨[], .ended deep (length_le_of_itemAt?_none natural found?)⟩
        | some instruction =>
            have found : itemAt state.code state.ip = .ok instruction := by rw [itemAt, found?]
            have inside : state.Inside depth instruction := ⟨deep, found⟩
            have before := lt_length_of_itemAt natural found
            dsimp only
            by_cases isBreakpoint : instruction.is .breakpoint = true
            · rw [if_pos isBreakpoint]
              exact ⟨[], .stopped inside isBreakpoint⟩
            · rw [if_neg isBreakpoint]
              have other := eq_false_of_ne_true isBreakpoint
              change ∃ indices, OverLoop depth state indices (state.afterStep state.tryStep _)
              cases sound : state.tryStep.fault with
              | some fault =>
                  cases written : instruction.printable with
                  | false =>
                      rw [afterStep_of_unwritten found written]
                      exact ⟨[], .unwritten inside other written⟩
                  | true =>
                      rw [afterStep_of_fault sound]
                      exact ⟨[state.ip], .failed inside other written sound⟩
              | none =>
                  have room := enough deep
                  have places : state.stepped.ip = state.ip ∨ state.stepped.ip = state.ip + 1 :=
                    (step_onward state.labels state.code state.ip state.machine state.console).2
                  rw [afterStep_of_sound sound]
                  by_cases stuck : state.stepped.ip = state.ip ∧ depth < state.stepped.machine.frames.length
                  · rw [if_pos stuck]
                    exact ⟨[state.ip], .stuck inside other sound stuck.1 stuck.2⟩
                  · rw [if_neg stuck]
                    have leaves : state.stepped.ip = state.ip → state.stepped.machine.frames.length ≤ depth :=
                      fun still => Nat.le_of_not_lt fun stillDeep => stuck ⟨still, stillDeep⟩
                    -- Still inside the call, the step has moved on, and what is left is one shorter.
                    have fewer : depth < state.stepped.machine.frames.length →
                        state.stepped.code.length < state.stepped.ip + count := by
                      intro stillDeep
                      have moved := places.resolve_left fun still => stuck ⟨still, stillDeep⟩
                      rw [moved]
                      change (state.code.length : Int) < _
                      omega
                    obtain ⟨indices, loop⟩ := @ih state.stepped (by omega) (by omega) fewer
                    exact ⟨state.ip :: indices, .moved inside other sound leaves loop⟩

theorem OverLoop.eq_nil_of_shallow {depth : Nat} (loop : OverLoop depth state indices turn)
    (shallow : state.machine.frames.length ≤ depth) : indices = [] := by
  have notDeep := Nat.not_lt_of_le shallow
  cases loop with
  | back | ended | stopped | unwritten => rfl
  | failed inside | stuck inside | moved inside => exact absurd inside.deep notDeep

theorem OverLoop.ascends {depth : Nat} (loop : OverLoop depth state indices turn) (natural : 0 ≤ state.ip) :
    Ascends state.ip state.code.length indices := by
  induction loop with
  | back | ended | stopped | unwritten => exact .nil _ _
  | failed inside | stuck inside => exact .cons (lt_length_of_itemAt natural inside.found) (.nil _ _)
  | @moved state _ indices _ inside other sound leaves onward ih =>
      have before := lt_length_of_itemAt natural inside.found
      rcases (step_onward state.labels state.code state.ip state.machine state.console).2 with still | moved
      · -- A step that has not moved on has left the call, so that the loop ends with it.
        rw [onward.eq_nil_of_shallow (leaves still)]
        exact .cons before (.nil _ _)
      · have place : state.stepped.ip = state.ip + 1 := moved
        rw [place] at ih
        exact .cons before (ih (by omega))

/-- No instruction carried out moves the debugger's place on by more than one. -/
theorem RunLoop.place_le (loop : RunLoop state indices turn) : turn.state.ip ≤ state.ip + indices.length := by
  have settled : ∀ (later : State) (fault : Fault), (settle later fault).state.ip = later.ip := by
    intro later fault
    unfold settle
    split <;> rfl
  induction loop with
  | ended =>
      rw [settled]
      exact Int.le_add_of_nonneg_right (Int.natCast_nonneg _)
  | failed =>
      rw [settled]
      exact Int.le_add_of_nonneg_right (Int.natCast_nonneg _)
  | moved _ _ _ ih =>
      rw [List.length_cons]
      dsimp only at ih
      omega

theorem stepped_place_le (state : State) : state.stepped.ip ≤ state.ip + 1 := by
  have places : state.stepped.ip = state.ip ∨ state.stepped.ip = state.ip + 1 :=
    (step_onward state.labels state.code state.ip state.machine state.console).2
  omega

theorem OverLoop.place_le {depth : Nat} (loop : OverLoop depth state indices turn) :
    turn.state.ip ≤ state.ip + indices.length := by
  induction loop with
  | back | ended | stopped | unwritten => exact Int.le_add_of_nonneg_right (Int.natCast_nonneg _)
  | failed | stuck => exact stepped_place_le _
  | @moved state _ _ _ _ _ _ _ _ ih =>
      have moved := stepped_place_le state
      rw [List.length_cons]
      omega

theorem ip_of_called {instruction : Instruction} (isCall : instruction.is .call = true)
    (carried : (state.carryOut instruction).fault = none) : (state.carryOut instruction).machine.ip = -1 := by
  have effect := Machine.execute_effect state.labels state.machine state.console instruction
  change Effect _ _ _ (state.carryOut instruction).machine (state.carryOut instruction).fault at effect
  rw [carried] at effect
  generalize (state.carryOut instruction).machine = after at effect
  have transfers : instruction.transfers = true := by simp [Instruction.transfers, isCall]
  cases effect with
  | worked stays | stored stays | jumped stays =>
      rw [transfers] at stays
      cases stays
  | called => rfl
  | returned isRet =>
      rw [Instruction.is_eq_false_of_is isCall (by decide)] at isRet
      cases isRet

section

variable {instruction : Instruction} (announces : state.Announces instruction)
include announces

theorem next_of_other (noCall : instruction.is .call = false) : next state = stepOnce state := by
  obtain ⟨found, written⟩ := announces
  obtain ⟨loaded, unended⟩ := within_of_itemAt found
  unfold next
  rw [if_neg loaded, if_neg unended, found]
  dsimp only
  rw [written, noCall]
  rfl

theorem next_of_refused {fault : Fault} (isCall : instruction.is .call = true)
    (faulty : ((state.announceOver instruction).carryOut instruction).fault = some fault) :
    next state = settleCall (state.called instruction) fault := by
  obtain ⟨found, written⟩ := announces
  obtain ⟨loaded, unended⟩ := within_of_itemAt found
  unfold State.carryOut State.announceOver at faulty
  unfold next
  rw [if_neg loaded, if_neg unended, found]
  dsimp only
  rw [written, if_pos isCall, faulty]
  rfl

theorem next_of_entered (isCall : instruction.is .call = true)
    (carried : ((state.announceOver instruction).carryOut instruction).fault = none) :
    next state = stepOver state.machine.frames.length (state.code.length + 2)
      { state.called instruction with ip := if -1 = state.ip then state.ip + 1 else 0 } := by
  obtain ⟨found, written⟩ := announces
  obtain ⟨loaded, unended⟩ := within_of_itemAt found
  have restarts := ip_of_called isCall carried
  unfold State.carryOut State.announceOver at carried
  unfold next
  rw [if_neg loaded, if_neg unended, found]
  dsimp only
  rw [written, if_pos isCall, carried]
  change stepOver _ _ { state.called instruction with
    ip := if ((state.announceOver instruction).carryOut instruction).machine.ip = state.ip then _
      else ((state.announceOver instruction).carryOut instruction).machine.ip + 1 } = _
  rw [restarts]
  rfl

end

theorem next_of_unwritten {instruction : Instruction} (found : itemAt state.code state.ip = .ok instruction)
    (long : instruction.printable = false) : next state = .failed state .writtenTooLong := by
  obtain ⟨loaded, unended⟩ := within_of_itemAt found
  unfold next
  rw [if_neg loaded, if_neg unended, found]
  dsimp only
  rw [long]
  rfl

theorem next_loop_of_announces {instruction : Instruction} (natural : 0 ≤ state.ip)
    (announces : state.Announces instruction) : ∃ first later, NextLoop state first later (next state) := by
  by_cases isCall : instruction.is .call = true
  · cases carried : ((state.announceOver instruction).carryOut instruction).fault with
    | some fault =>
        rw [next_of_refused announces isCall carried]
        exact ⟨[state.ip], [], .refused announces isCall carried⟩
    | none =>
        have elsewhere : ¬ -1 = state.ip := by omega
        have room : state.code.length < (0 : Int) + (state.code.length + 2 : Nat) := by omega
        obtain ⟨indices, loop⟩ := @stepOver_loop (state.called instruction).fromStart
          state.machine.frames.length (state.code.length + 2) (Int.le_refl 0) (Nat.succ_pos _) fun _ => room
        rw [next_of_entered announces isCall carried, if_neg elsewhere]
        exact ⟨[state.ip], indices, .entered announces isCall carried loop⟩
  · have noCall := eq_false_of_ne_true isCall
    rw [next_of_other announces noCall]
    by_cases isBreakpoint : instruction.is .breakpoint = true
    · exact ⟨[], [], .passed announces isBreakpoint⟩
    · exact ⟨[state.ip], [], .stepped announces (eq_false_of_ne_true isBreakpoint) noCall⟩

theorem next_loop (natural : 0 ≤ state.ip) : ∃ first later, NextLoop state first later (next state) := by
  by_cases empty : state.code.isEmpty = true
  · unfold next
    rw [if_pos empty]
    exact ⟨[], [], .unloaded (List.isEmpty_iff.mp empty)⟩
  · by_cases past : state.code.length ≤ state.ip
    · unfold next
      rw [if_neg empty, if_pos past]
      exact ⟨[], [], .ended (mt List.isEmpty_iff.mpr empty) past⟩
    · obtain ⟨instruction, found⟩ := exists_itemAt natural (Int.not_le.mp past)
      cases written : instruction.printable with
      | false =>
          rw [next_of_unwritten found written]
          exact ⟨[], [], .unwritten found written⟩
      | true => exact next_loop_of_announces natural ⟨found, written⟩

theorem NextLoop.ascends {first later : List Int} (loop : NextLoop state first later turn)
    (natural : 0 ≤ state.ip) :
    first.length ≤ 1 ∧ Ascends state.ip state.code.length first ∧ Ascends 0 state.code.length later := by
  have none := Ascends.nil
  have one : ∀ {instruction}, state.Announces instruction → Ascends state.ip state.code.length [state.ip] :=
    fun announces => .cons (lt_length_of_itemAt natural announces.found) (none _ _)
  cases loop with
  | unloaded | ended | unwritten | passed => exact ⟨Nat.zero_le 1, none _ _, none _ _⟩
  | stepped announces | refused announces => exact ⟨Nat.le_refl 1, one announces, none _ _⟩
  | entered announces _ _ loop => exact ⟨Nat.le_refl 1, one announces, loop.ascends (Int.le_refl 0)⟩

/-- Where a `next` has moved the debugger's place on by more than one, it has stepped over a call. -/
theorem NextLoop.place_le {first later : List Int} (loop : NextLoop state first later turn) :
    turn.state.ip ≤ state.ip + 1 ∨ first = [state.ip] ∧ turn.state.ip ≤ later.length := by
  have stays : state.ip ≤ state.ip + 1 := by omega
  have stepped : (stepOnce state).state = state.stepped := by
    change (state.afterStep state.tryStep .prompt).state = _
    cases sound : state.tryStep.fault with
    | none => rw [afterStep_of_sound sound]; rfl
    | some fault => rw [afterStep_of_fault sound]; rfl
  cases loop with
  | unloaded | ended | unwritten => exact .inl stays
  | passed | stepped =>
      rw [stepped]
      exact .inl (stepped_place_le state)
  | refused =>
      unfold settleCall
      split <;> exact .inl stays
  | entered _ _ _ loop =>
      have place := loop.place_le
      rw [show (state.called _).fromStart.ip = 0 from rfl, Int.zero_add] at place
      exact .inr ⟨rfl, place⟩

end

end Debugger.Flat

end StackMachine

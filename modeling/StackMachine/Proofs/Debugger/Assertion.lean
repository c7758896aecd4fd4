import StackMachine.Proofs.Debugger.Pairing
import StackMachine.Proofs.Debugger.Continuation
import StackMachine.Proofs.Debugger.StepOver
import StackMachine.Proofs.Machine.Failure

/-!
Failed assertions under the debugger. An instruction that is stepped into may fail an assertion: that is reported, and
the session goes on with the pointer where it was. A run and a step over have no such report, and the same instruction
ends the session there (`assertion_reported_unless_in_loop`).
-/

set_option autoImplicit false

namespace StackMachine.Debugger

/-- The fault that leaves the debugger in a turn. -/
def Turn.fault? {σ : Type} : Turn σ → Option Fault
  | .failed _ fault => some fault
  | _ => none

theorem eq_failed_of_fault? {σ : Type} {turn : Turn σ} {fault : Fault} (left : turn.fault? = some fault) :
    turn = .failed turn.state fault := by
  cases turn with
  | failed state other =>
      obtain rfl := Option.some.inj left
      rfl
  | prompt | returned | exhausted => cases left

namespace Functions

/-- The instruction at the pointer of `place` is given what it asks for and fails, and `failed` is what it leaves. -/
inductive Fails (lead : String) (echo : Bool) (place failed : State) (fault : Fault) : Prop where
  | intro {function : Function} {instruction : Instruction} {asked : State}
      (fetched : place.fetch? = some (function, instruction))
      (asks : ask place lead echo instruction = (asked, none))
      (faulty : (asked.execute function instruction).fault = some fault)
      (left : failed = asked.after (asked.execute function instruction))

/-- The state in which an instruction is stepped into. -/
def State.announced (state : State) (instruction : Instruction) : State :=
  (state.say "").say (announcement state.machine.ip instruction)

/-- A command steps into the instruction at the pointer, and it fails. -/
inductive StepFails (state : State) (command : Command) (failed : State) (fault : Fault) : Prop where
  | intro {function : Function} {instruction : Instruction}
      (fetched : state.fetch? = some (function, instruction))
      (into : command = .step ∨ command = .next ∧ instruction.is .call = false)
      (fails : Fails "\n" false (state.announced instruction) failed fault)

/-- A command that carries out instructions in a loop comes to `place`, and the instruction there fails. A step over
has come no further than the call that it began with reaches. -/
inductive LoopFails (state : State) : Command → State → State → Fault → Prop where
  | running {legs : List Leg} {place failed : State} {fault : Fault} (moves : Moves "" false state legs place)
      (enough : legs.length < state.settings.fuel) (fails : Fails "" false place failed fault) :
      LoopFails state .run place failed fault
  | calling {function : Function} {call : Instruction} {legs : List Leg} {place failed : State} {fault : Fault}
      (fetched : state.fetch? = some (function, call)) (isCall : call.is .call = true)
      (moves : Moves "\n" true (state.announceOver call) legs place)
      (inside : ∀ leg ∈ legs, state.machine.frames.length < leg.state.machine.frames.length)
      (enough : legs.length ≤ state.settings.fuel) (fails : Fails "\n" true place failed fault) :
      LoopFails state .next place failed fault

section

variable {lead : String} {echo : Bool} {state place failed final : State} {fault : Fault}

/-- A failed instruction costs operands only, so the pointer still stands at it. -/
theorem Fails.stays (fails : Fails lead echo place failed fault) (paired : place.machine.Paired) :
    failed.machine.ip = place.machine.ip ∧ failed.fetch? = place.fetch? := by
  obtain @⟨function, instruction, asked, -, asks, faulty, rfl⟩ := fails
  obtain ⟨machine, program⟩ := machine_of_ask asks
  have pairedThere : asked.machine.Paired := by rwa [machine]
  have left : (asked.execute function instruction).machine = _ :=
    Machine.machine_of_failed function.labels asked.console pairedThere faulty
  unfold State.fetch? State.active State.after
  rw [left, machine, program]
  exact ⟨rfl, rfl⟩

theorem advance_of_fails (fails : Fails lead echo place failed fault) :
    advance lead echo place = .stopped failed fault := by
  obtain ⟨fetched, asks, faulty, rfl⟩ := fails
  obtain ⟨active, inside, found⟩ := State.fetch?_eq_some fetched
  simp only [advance, active, inside, found, asks, faulty, if_true]

theorem fails_of_advance (stopped : advance lead echo place = .stopped failed fault)
    (assertion : fault.classOf = .assertion) : Fails lead echo place failed fault := by
  rcases advance_stopped stopped with ⟨-, -, outside⟩ | ⟨function, instruction, asked, fetched, asks, faulty, left⟩
  · simp [Fault.outside, assertion] at outside
  · exact .intro fetched asks faulty left

theorem settle_of_assertion (state : State) (assertion : fault.classOf = .assertion) :
    settle state fault = .failed state fault := by
  simp only [settle, assertion]

theorem eq_of_settle_failed {stopped : State} {other : Fault} (settled : settle stopped other = .failed final fault) :
    stopped = final ∧ other = fault := by
  unfold settle at settled
  split at settled
  · cases settled
  · cases settled
  · exact Turn.failed.inj settled

/-- The tally after a number of legs, unless it has given out on the way. -/
def tallied {τ : Type} (tally : τ → Instruction → Option τ) (counts : τ) (legs : List Leg) : Option τ :=
  legs.foldlM (fun counts leg => tally counts leg.instruction) counts

theorem tallied_run (legs : List Leg) : tallied (fun _ _ => some ()) () legs = some () := by
  induction legs with
  | nil => rfl
  | cons leg legs ih => exact ih

section

variable {τ : Type} {tally : τ → Instruction → Option τ} {fuel : Nat} {counts : τ}

/-- A journey that has got somewhere goes on from there. -/
theorem travel_of_moves {last : τ} {legs : List Leg} (moves : Moves lead echo state legs place)
    (open_ : tallied tally counts legs = some last) (more : Nat) :
    travel lead echo tally (legs.length + more) counts state =
      let onward := travel lead echo tally more last place
      ⟨legs ++ onward.legs, onward.state, onward.halt⟩ := by
  induction moves generalizing counts with
  | refl =>
      obtain rfl := Option.some.inj open_
      rw [List.length_nil, Nat.zero_add]
      rfl
  | @cons state next place instruction legs moved moves ih =>
      obtain ⟨afterwards, tallies, later⟩ := Option.bind_eq_some_iff.mp open_
      rw [List.length_cons, Nat.add_right_comm, travel, moved]
      dsimp only at tallies ⊢
      rw [tallies]
      exact congrArg (Journey.prepend ⟨instruction, linesRead state next, next⟩) (ih later)

theorem turn_of_moves {last : τ} {legs : List Leg} (moves : Moves lead echo state legs place)
    (open_ : tallied tally counts legs = some last) (enough : legs.length < fuel)
    (stops : advance lead echo place = .stopped failed fault) :
    (travel lead echo tally fuel counts state).turn = settle failed fault := by
  obtain ⟨more, rfl⟩ := Nat.exists_eq_add_of_lt enough
  rw [Nat.add_assoc, travel_of_moves moves open_, travel, stops]
  rfl

theorem moves_of_failed (left : (travel lead echo tally fuel counts state).turn = .failed final fault) :
    ∃ legs place last, Moves lead echo state legs place ∧ tallied tally counts legs = some last ∧
      legs.length < fuel ∧ advance lead echo place = .stopped final fault := by
  induction fuel generalizing counts state with
  | zero => cases left
  | succ fuel ih =>
      rw [travel] at left
      cases advanced : advance lead echo state with
      | ended last =>
          rw [advanced] at left
          cases left
      | stopped stopped other =>
          rw [advanced] at left
          obtain ⟨rfl, rfl⟩ := eq_of_settle_failed left
          exact ⟨[], state, counts, .refl, rfl, Nat.succ_pos fuel, advanced⟩
      | moved next instruction =>
          rw [advanced] at left
          dsimp only at left
          cases tallies : tally counts instruction with
          | none =>
              rw [tallies] at left
              cases left
          | some more =>
              rw [tallies] at left
              obtain ⟨legs, place, last, moves, open_, enough, stops⟩ := ih left
              refine ⟨_, place, last, .cons advanced moves, ?_, Nat.succ_lt_succ enough, stops⟩
              exact Option.bind_eq_some_iff.mpr ⟨more, tallies, open_⟩

end

/-- The tally of a step over has not given out if and only if no leg has come back to the caller. -/
theorem tallied_iff_inside {caller : Machine} {counts : Nat × Nat} {legs : List Leg}
    (underway : Underway caller counts state.machine) (moves : Moves lead echo state legs place) :
    (∃ last, tallied callTally counts legs = some last) ↔
      ∀ leg ∈ legs, caller.frames.length < leg.state.machine.frames.length := by
  induction moves generalizing counts with
  | refl => exact ⟨fun _ _ member => absurd member List.not_mem_nil, fun _ => ⟨counts, rfl⟩⟩
  | @cons state next last instruction legs moved moves ih =>
      have step := underway.moved moved
      rw [List.forall_mem_cons, tallied, List.foldlM_cons]
      cases tallies : callTally counts instruction with
      | none =>
          rw [tallies] at step
          have back : next.machine.frames.length = caller.frames.length := by rw [step]
          constructor
          · rintro ⟨last, open_⟩
            cases open_
          · rintro ⟨deep, -⟩
            exact absurd back (Nat.ne_of_gt deep)
      | some more =>
          rw [tallies] at step
          rw [← ih step]
          exact ⟨fun open_ => ⟨step.inside.deep, open_⟩, fun ⟨_, open_⟩ => open_⟩

end

section

variable {state failed final : State} {function : Function} {instruction call : Instruction} {fault : Fault}

theorem step_of_other {whole : Bool} (printable : state.program.Printable)
    (fetched : state.fetch? = some (function, instruction)) (other : (whole && instruction.is .call) = false) :
    step state whole = stepInto (state.say "") function instruction := by
  obtain ⟨active, inside, found⟩ := State.fetch?_eq_some fetched
  have loaded := State.program_of_fetch? fetched
  have notPast : ¬ (function.instructions.length : Int) ≤ state.machine.ip := by omega
  have written := State.printable_of_fetch? printable fetched
  simp only [step, loaded, active, notPast, found, written, other, Bool.not_true, Bool.false_eq_true, if_false]

theorem answer_of_stepFails {line : CommandLine} (printable : state.program.Printable)
    (fails : StepFails state line.command failed fault) (assertion : fault.classOf = .assertion) :
    answer state line = .prompt (failed.say ("\nRuntime error: " ++ fault.message)) := by
  obtain @⟨function, instruction, fetched, into, fails⟩ := fails
  obtain @⟨_, _, asked, again, asks, faulty, rfl⟩ := fails
  obtain ⟨rfl, rfl⟩ := Prod.mk.inj (Option.some.inj (fetched.symm.trans again))
  have noBreakpoint : instruction.is .breakpoint = false := by
    cases isBreakpoint : instruction.is .breakpoint with
    | false => rfl
    | true =>
        rw [State.execute, Machine.execute_breakpoint isBreakpoint] at faulty
        obtain rfl := Option.some.inj faulty
        cases assertion
  have stepped : stepInto (state.say "") function instruction =
      .prompt ((asked.after (asked.execute function instruction)).say ("\nRuntime error: " ++ fault.message)) := by
    have asksThere : ask ((state.say "").say (announcement (state.say "").machine.ip instruction)) "\n" false
        instruction = (asked, none) := asks
    simp only [stepInto, noBreakpoint, Bool.false_eq_true, if_false, asksThere, faulty, assertion]
  obtain ⟨command, argument⟩ := line
  rcases into with rfl | ⟨rfl, noCall⟩
  · exact (step_of_other printable fetched rfl).trans stepped
  · exact (step_of_other printable fetched (by rw [noCall, Bool.and_false])).trans stepped

theorem not_assertion_of_stepInto (left : stepInto state function instruction = .failed final fault) :
    fault.classOf ≠ .assertion := by
  intro assertion
  unfold stepInto at left
  dsimp only at left
  split at left
  · cases left
  · split at left
    · next asks =>
        obtain ⟨-, rfl⟩ := Turn.failed.inj left
        have outside := outside_of_ask asks
        simp [Fault.outside, assertion] at outside
    · split at left
      · cases left
      · split at left
        · cases left
        · next other =>
            obtain ⟨-, rfl⟩ := Turn.failed.inj left
            exact other assertion

/-- Of what a step can fail with, an assertion comes from a call that is stepped over and from nothing else. -/
theorem steps_over_of_failed {whole : Bool} (left : step state whole = .failed final fault)
    (assertion : fault.classOf = .assertion) :
    ∃ function call, state.fetch? = some (function, call) ∧ (whole && call.is .call) = true := by
  have inside : fault.outside = false := by simp [Fault.outside, assertion]
  unfold step at left
  split at left
  · cases left
  · cases active : state.active with
    | error other =>
        rw [active] at left
        obtain ⟨-, rfl⟩ := Turn.failed.inj left
        rw [outside_of_active active] at inside
        cases inside
    | ok function =>
        rw [active] at left
        dsimp only at left
        split at left
        · cases left
        · cases found : itemAt function.instructions state.machine.ip with
          | error other =>
              rw [found] at left
              obtain ⟨-, rfl⟩ := Turn.failed.inj left
              rw [outside_of_itemAt found] at inside
              cases inside
          | ok instruction =>
              refine ⟨function, instruction, State.fetch?_of_itemAt active found, ?_⟩
              cases stepsOver : whole && instruction.is .call with
              | true => rfl
              | false =>
                  simp only [found, stepsOver, Bool.false_eq_true, if_false] at left
                  split at left
                  · obtain ⟨-, rfl⟩ := Turn.failed.inj left
                    cases assertion
                  · exact absurd assertion (not_assertion_of_stepInto left)

theorem turn_of_running {legs : List Leg} {place : State} (moves : Moves "" false state legs place)
    (enough : legs.length < state.settings.fuel) (fails : Fails "" false place failed fault)
    (assertion : fault.classOf = .assertion) : (runJourney state).turn = .failed failed fault := by
  exact (turn_of_moves moves (tallied_run legs) enough (advance_of_fails fails)).trans
    (settle_of_assertion failed assertion)

theorem turn_of_calling {legs : List Leg} {place : State} (printable : state.program.Printable)
    (fetched : state.fetch? = some (function, call)) (isCall : call.is .call = true)
    (moves : Moves "\n" true (state.announceOver call) legs place)
    (inside : ∀ leg ∈ legs, state.machine.frames.length < leg.state.machine.frames.length)
    (enough : legs.length ≤ state.settings.fuel) (fails : Fails "\n" true place failed fault)
    (assertion : fault.classOf = .assertion) : (overJourney state function call).turn = .failed failed fault := by
  have written := State.printable_of_fetch? printable fetched
  have silent : call.reads = false := Instruction.reads_of_is isCall (by decide) (by decide)
  have announced : (state.announceOver call).fetch? = some (function, call) := fetched
  have tried := advance_of_fetch? announced silent "\n" true
  cases carried : ((state.announceOver call).execute function call).fault with
  | some other =>
      -- The call itself has failed, so nothing was carried out before.
      rw [carried] at tried
      cases moves with
      | cons moved _ =>
          rw [tried] at moved
          cases moved
      | refl =>
          obtain ⟨rfl, rfl⟩ := Progress.stopped.inj ((advance_of_fails fails).symm.trans tried)
          simp only [overJourney, written, carried]
          rfl
  | none =>
      rw [carried] at tried
      cases moves with
      | refl =>
          rw [advance_of_fails fails] at tried
          cases tried
      | cons moved moves =>
          obtain ⟨rfl, rfl⟩ := Progress.moved.inj (moved.symm.trans tried)
          obtain ⟨-, later⟩ := List.forall_mem_cons.mp inside
          obtain ⟨last, open_⟩ := (tallied_iff_inside (entered_underway isCall carried) moves).mpr later
          rw [overJourney_of_carried written carried]
          exact (turn_of_moves moves open_ enough (advance_of_fails fails)).trans (settle_of_assertion failed assertion)

theorem calling_of_turn (fetched : state.fetch? = some (function, call)) (isCall : call.is .call = true)
    (left : (overJourney state function call).turn = .failed final fault)
    (assertion : fault.classOf = .assertion) : ∃ place, LoopFails state .next place final fault := by
  have silent : call.reads = false := Instruction.reads_of_is isCall (by decide) (by decide)
  have announced : (state.announceOver call).fetch? = some (function, call) := fetched
  have tried := advance_of_fetch? announced silent "\n" true
  have written : call.printable = true := by
    cases long : call.printable with
    | true => rfl
    | false =>
        simp only [overJourney, long] at left
        obtain ⟨-, rfl⟩ := Turn.failed.inj left
        cases assertion
  cases carried : ((state.announceOver call).execute function call).fault with
  | some other =>
      rw [carried] at tried
      simp only [overJourney, written, carried] at left
      obtain ⟨rfl, rfl⟩ := Turn.failed.inj left
      refine ⟨_, .calling fetched isCall .refl ?_ (Nat.zero_le _) (fails_of_advance tried assertion)⟩
      exact fun _ member => absurd member List.not_mem_nil
  | none =>
      rw [carried] at tried
      rw [overJourney_of_carried written carried] at left
      have underway := entered_underway isCall carried
      obtain ⟨legs, place, last, moves, open_, enough, stops⟩ := moves_of_failed left
      have later := (tallied_iff_inside underway moves).mp ⟨last, open_⟩
      refine ⟨place, .calling fetched isCall (.cons tried moves) ?_ enough (fails_of_advance stops assertion)⟩
      exact List.forall_mem_cons.mpr ⟨underway.inside.deep, later⟩

/-- An assertion that fails in a loop leaves the debugger. -/
theorem answer_of_loopFails {line : CommandLine} {place : State} (printable : state.program.Printable)
    (fails : LoopFails state line.command place failed fault) (assertion : fault.classOf = .assertion) :
    answer state line = .failed failed fault := by
  obtain ⟨command, argument⟩ := line
  cases fails with
  | running moves enough fails => exact (answer_run state argument).trans (turn_of_running moves enough fails assertion)
  | calling fetched isCall moves inside enough fails =>
      exact (answer_next fetched isCall argument).trans
        (turn_of_calling printable fetched isCall moves inside enough fails assertion)

/-- An assertion that leaves the debugger has failed in a loop. -/
theorem loopFails_of_answer {line : CommandLine}
    (executes : line.command = .run ∨ line.command = .step ∨ line.command = .next)
    (left : answer state line = .failed final fault) (assertion : fault.classOf = .assertion) :
    ∃ place, LoopFails state line.command place final fault := by
  obtain ⟨command, argument⟩ := line
  rcases executes with rfl | rfl | rfl
  · rw [answer_run] at left
    obtain ⟨legs, place, last, moves, -, enough, stops⟩ := moves_of_failed left
    exact ⟨place, .running moves enough (fails_of_advance stops assertion)⟩
  · obtain ⟨_, _, -, impossible⟩ := steps_over_of_failed left assertion
    cases impossible
  · obtain ⟨function, call, fetched, isCall⟩ := steps_over_of_failed left assertion
    rw [answer_next fetched isCall] at left
    exact calling_of_turn fetched isCall left assertion

theorem Moves.paired {lead : String} {echo : Bool} {legs : List Leg} {place : State}
    (moves : Moves lead echo state legs place) (paired : state.machine.Paired) : place.machine.Paired :=
  kept_by_changes (fun state => state.machine.Paired) Change.paired moves.changes paired

theorem LoopFails.stays {command : Command} {place : State} (fails : LoopFails state command place failed fault)
    (paired : state.machine.Paired) :
    failed.machine.ip = place.machine.ip ∧ failed.fetch? = place.fetch? := by
  cases fails with
  | running moves _ fails => exact fails.stays (moves.paired paired)
  | calling _ _ moves _ _ fails => exact fails.stays (moves.paired paired)

end

/-- A command that is given at a prompt. If it steps into an instruction that fails an assertion, that is reported, and
the next prompt comes with the pointer still at the instruction. If the instruction is met by a run or by a step over,
the session ends with the assertion, unreported. An assertion that ends a session by one of these three commands
has been met in that way, never by stepping into an instruction. -/
theorem assertion_reported_unless_in_loop (settings : Settings) (files : FileStore) (terminal : Terminal)
    (turns : Nat) (state : State) (line : CommandLine)
    (reached : frontend.promptAfter turns (opening settings files terminal) = some state)
    (given : frontend.command? state = some line) :
    let asked := (frontend.read state).1
    (∀ failed fault, fault.classOf = .assertion → StepFails asked line.command failed fault →
      frontend.turn state = .prompt (failed.say ("\nRuntime error: " ++ fault.message)) ∧
        failed.machine.ip = state.machine.ip ∧ failed.fetch? = state.fetch?) ∧
    (∀ place failed fault, fault.classOf = .assertion → LoopFails asked line.command place failed fault →
      session settings files terminal = (failed, .failed fault) ∧
        failed.machine.ip = place.machine.ip ∧ failed.fetch? = place.fetch?) ∧
    ∀ final fault, fault.classOf = .assertion →
      line.command = .run ∨ line.command = .step ∨ line.command = .next →
      frontend.turn state = .failed final fault → ∃ place, LoopFails asked line.command place final fault := by
  intro asked
  have initial : (opening settings files terminal).machine.Paired := rfl
  have paired : state.machine.Paired :=
    frontend.invariant_at_every_prompt (fun _ _ => paired_of_turn) initial reached
  have printable := printable_of_promptAfter reached
  change asked.program.Printable at printable
  have turned := frontend.turn_of_command? given
  refine ⟨?_, ?_, ?_⟩
  · intro failed fault assertion fails
    have reported := turned.trans (answer_of_stepFails printable fails assertion)
    obtain ⟨-, -, inner⟩ := fails
    obtain ⟨pointer, fetch⟩ := inner.stays paired
    exact ⟨reported, pointer, fetch⟩
  · intro place failed fault assertion fails
    have ends : frontend.turn state = .failed failed fault :=
      turned.trans (answer_of_loopFails printable fails assertion)
    exact ⟨session_of_failed reached ends, LoopFails.stays fails paired⟩
  · intro final fault assertion executes left
    exact loopFails_of_answer executes (turned.symm.trans left) assertion

/-- A program whose entry calls a function that reads a variable which nothing has stored. -/
def undefiningFile : FileStore :=
  FileStore.add ⟨[]⟩ "p" (String.toUTF8
    "function \"$entrypoint$\"\nLOAD_CONST f\nCALL\nfunction \"f\"\nLOAD_VAR x").toList

def undefining : Terminal :=
  { script := [.line "load p", .line "step", .line "step", .line "step", .line "run"] }

/-- Stepped into, the load in the called function is reported and the pointer stays at it. The run that is given at the
next prompt ends the session there. -/
theorem assertion_reported_unless_in_loop_undefining :
    let settings : Settings := ⟨false, true, .adaptive, 10⟩
    let start := opening settings undefiningFile undefining
    ∃ (state failed : State) (fault : Fault), frontend.promptAfter 3 start = some state ∧
      frontend.command? state = some ⟨.step, []⟩ ∧ fault.classOf = .assertion ∧
      frontend.turn state = .prompt (failed.say ("\nRuntime error: " ++ fault.message)) ∧
      failed.machine.ip = state.machine.ip ∧
      ∃ (next final : State) (fault : Fault), frontend.promptAfter 4 start = some next ∧
        frontend.command? next = some ⟨.run, []⟩ ∧ fault.classOf = .assertion ∧
        session settings undefiningFile undefining = (final, .failed fault) := by
  intro settings start
  have steps : ((frontend.promptAfter 3 start).bind fun state => (frontend.read state).1.fetch?.bind fun fetched =>
      (((frontend.read state).1.announced fetched.2).execute fetched.1 fetched.2).fault.map fun fault =>
        (frontend.command? state, fetched.2.reads, fault.classOf)) =
      some (some ⟨.step, []⟩, false, .assertion) := by decide +kernel
  have runs : ((frontend.promptAfter 4 start).bind fun state => (frontend.turn state).fault?.map fun fault =>
      (frontend.command? state, fault.classOf)) = some (some ⟨.run, []⟩, .assertion) := by decide +kernel
  obtain ⟨state, reached, steps⟩ := Option.bind_eq_some_iff.mp steps
  obtain ⟨⟨function, instruction⟩, fetched, steps⟩ := Option.bind_eq_some_iff.mp steps
  obtain ⟨fault, faulty, same⟩ := Option.map_eq_some_iff.mp steps
  obtain ⟨given, same⟩ := Prod.mk.inj same
  obtain ⟨silent, assertion⟩ := Prod.mk.inj same
  have fails : StepFails (frontend.read state).1 .step _ fault :=
    .intro fetched (.inl rfl) (.intro fetched (ask_of_silent silent _ _ _) faulty rfl)
  obtain ⟨reported, -, -⟩ :=
    assertion_reported_unless_in_loop settings undefiningFile undefining 3 state _ reached given
  obtain ⟨turned, pointer, -⟩ := reported _ fault assertion fails
  obtain ⟨next, later, runs⟩ := Option.bind_eq_some_iff.mp runs
  obtain ⟨other, left, same⟩ := Option.map_eq_some_iff.mp runs
  obtain ⟨command, asserted⟩ := Prod.mk.inj same
  obtain ⟨-, ends, met⟩ := assertion_reported_unless_in_loop settings undefiningFile undefining 4 next _ later command
  obtain ⟨place, loops⟩ := met _ other asserted (.inl rfl) (eq_failed_of_fault? left)
  exact ⟨state, _, fault, reached, given, assertion, turned, pointer, next, _, other, later, command, asserted,
    (ends place _ other asserted loops).1⟩

def undefinedFile : FileStore :=
  FileStore.add ⟨[]⟩ "p" (String.toUTF8 "function \"$entrypoint$\"\nLOAD_VAR x").toList

/-- A run does not come back from an instruction that fails an assertion. -/
theorem run_left_by_assertion :
    ¬ ∀ (settings : Settings) (files : FileStore) (terminal : Terminal) (turns : Nat) (state : State)
        (line : CommandLine) (place failed : State) (fault : Fault), settings.link = true →
      frontend.promptAfter turns (opening settings files terminal) = some state →
      frontend.command? state = some line → fault.classOf = .assertion →
      LoopFails (frontend.read state).1 line.command place failed fault →
      ∃ next, frontend.turn state = .prompt next ∧ next.machine.ip = place.machine.ip := by
  intro reported
  have runs : ((frontend.promptAfter 1 (opening ⟨false, true, .adaptive, 10⟩ undefinedFile
      { script := [.line "load p", .line "run"] })).bind fun state => (frontend.turn state).fault?.map fun fault =>
        (frontend.command? state, fault.classOf)) = some (some ⟨.run, []⟩, .assertion) := by decide +kernel
  obtain ⟨state, reached, runs⟩ := Option.bind_eq_some_iff.mp runs
  obtain ⟨fault, left, same⟩ := Option.map_eq_some_iff.mp runs
  obtain ⟨given, assertion⟩ := Prod.mk.inj same
  have turned := eq_failed_of_fault? left
  have answered : answer (frontend.read state).1 ⟨.run, []⟩ = _ :=
    (frontend.turn_of_command? given).symm.trans turned
  obtain ⟨place, loops⟩ := loopFails_of_answer (.inl rfl) answered assertion
  obtain ⟨next, prompted, -⟩ := reported _ _ _ 1 state _ place _ fault rfl reached given assertion loops
  rw [turned] at prompted
  cases prompted

end Functions

end StackMachine.Debugger

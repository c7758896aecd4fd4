import StackMachine.Proofs.Debugger.Asking
import StackMachine.Proofs.Machine.Effect

/-!
Journeys: what a command that carries out many instructions did. A run and a step over are one loop
under two tallies, and a journey keeps what the loop forgets: which instructions were carried out, on
which lines, through which states, and why it came to its end.
-/

set_option autoImplicit false

namespace StackMachine.Debugger

def Turn.map {σ τ : Type} (f : σ → τ) : Turn σ → Turn τ
  | .prompt state => .prompt (f state)
  | .returned state => .returned (f state)
  | .failed state fault => .failed (f state) fault
  | .exhausted state => .exhausted (f state)

namespace Functions

def Progress.map (f : State → State) : Progress → Progress
  | .moved state instruction => .moved (f state) instruction
  | .ended state => .ended (f state)
  | .stopped state fault => .stopped (f state) fault

/-- The active function and its instruction at the instruction pointer. -/
def State.fetch? (state : State) : Option (Function × Instruction) :=
  match state.active with
  | .error _ => none
  | .ok function => (itemAt? function.instructions state.machine.ip).map fun instruction =>
      (function, instruction)

/-- An instruction that was carried out, the lines that were read for it, and the state after it. -/
structure Leg where
  instruction : Instruction
  fed : List Keystroke
  state : State

/-- Why a journey came to its end: the tally asked for it, the active function has no more instructions,
a fault stopped the loop or left the debugger, or fuel was used up. -/
inductive Halt where
  | arrived
  | ended
  | stopped (fault : Fault)
  | escaped (fault : Fault)
  | exhausted

structure Journey where
  legs : List Leg
  state : State
  halt : Halt

namespace Journey

def prepend (leg : Leg) (journey : Journey) : Journey :=
  { journey with legs := leg :: journey.legs }

def turn (journey : Journey) : Turn State :=
  match journey.halt with
  | .arrived | .ended => .prompt journey.state
  | .stopped fault => settle journey.state fault
  | .escaped fault => .failed journey.state fault
  | .exhausted => .exhausted journey.state

@[simp] theorem legs_prepend (leg : Leg) (journey : Journey) :
    (journey.prepend leg).legs = leg :: journey.legs := rfl

/-- What brings a journey back to the prompt: its end, a breakpoint or something out of range. -/
theorem halt_of_turn {journey : Journey} {final : State} (returned : journey.turn = .prompt final) :
    (journey.halt = .arrived ∨ journey.halt = .ended) ∧ final = journey.state ∨
      ∃ fault, journey.halt = .stopped fault ∧ (fault.classOf = .stop ∨ fault.classOf = .index) := by
  unfold turn at returned
  cases halt : journey.halt with
  | arrived =>
      simp only [halt, Turn.prompt.injEq] at returned
      exact .inl ⟨.inl rfl, returned.symm⟩
  | ended =>
      simp only [halt, Turn.prompt.injEq] at returned
      exact .inl ⟨.inr rfl, returned.symm⟩
  | stopped fault =>
      simp only [halt, settle] at returned
      refine .inr ⟨fault, rfl, ?_⟩
      cases kind : fault.classOf with
      | stop => exact .inl rfl
      | index => exact .inr rfl
      | _ => simp [kind] at returned
  | escaped fault => simp [halt] at returned
  | exhausted => simp [halt] at returned

end Journey

/-- Carries out instructions until the tally of those carried out gives out. -/
def travel {τ : Type} (lead : String) (echo : Bool) (tally : τ → Instruction → Option τ) :
    Nat → τ → State → Journey
  | 0, _, state => ⟨[], state, .exhausted⟩
  | fuel + 1, counts, state =>
    match advance lead echo state with
    | .moved next instruction =>
      let leg : Leg := ⟨instruction, linesRead state next, next⟩
      match tally counts instruction with
      | none => ⟨[leg], next, .arrived⟩
      | some counts => (travel lead echo tally fuel counts next).prepend leg
    | .ended state => ⟨[], state, .ended⟩
    | .stopped state fault => ⟨[], state, .stopped fault⟩

/-- The tally of a step over: calls and returns, until there are as many of the one as of the other. -/
def callTally (counts : Nat × Nat) (instruction : Instruction) : Option (Nat × Nat) :=
  let calls := if instruction.is .call then counts.1 + 1 else counts.1
  let returns := if instruction.is .ret then counts.2 + 1 else counts.2
  if calls = returns then none else some (calls, returns)

def runJourney (state : State) : Journey :=
  travel "" false (fun _ _ => some ()) state.settings.fuel () state

def State.announceOver (state : State) (call : Instruction) : State :=
  (state.say "").say ("\n" ++ announcement state.machine.ip call ++ "  # CALL (step over)")

/-- The state after a call that is stepped over has been carried out. -/
def State.entered (state : State) (function : Function) (call : Instruction) : State :=
  ((state.announceOver call).after ((state.announceOver call).execute function call)).moveOn

/-- The journey of the command `next` at a call: the call itself, then all that it calls. A call that is too long to be
announced is not made. -/
def overJourney (state : State) (function : Function) (call : Instruction) : Journey :=
  if !call.printable then ⟨[], state.say "", .escaped .writtenTooLong⟩
  else
    let outcome := (state.announceOver call).execute function call
    match outcome.fault with
    | some fault => ⟨[], (state.announceOver call).after outcome, .escaped fault⟩
    | none =>
      let entered := state.entered function call
      (travel "\n" true callTally state.settings.fuel (1, 0) entered).prepend ⟨call, [], entered⟩

theorem run_eq_travel (fuel : Nat) (state : State) :
    run fuel state = (travel "" false (fun _ _ => some ()) fuel () state).turn := by
  induction fuel generalizing state with
  | zero => rfl
  | succ fuel ih =>
      rw [run, travel]
      cases advance "" false state with
      | moved next instruction => exact ih next
      | ended state => rfl
      | stopped state fault => rfl

theorem stepOver_eq_travel (fuel calls returns : Nat) (state : State) :
    stepOver fuel calls returns state =
      (travel "\n" true callTally fuel (calls, returns) state).turn := by
  induction fuel generalizing calls returns state with
  | zero => rfl
  | succ fuel ih =>
      rw [stepOver, travel]
      cases advance "\n" true state with
      | moved next instruction =>
          dsimp only [callTally]
          generalize (if instruction.is .call then calls + 1 else calls) = calls
          generalize (if instruction.is .ret then returns + 1 else returns) = returns
          split
          · rfl
          · exact ih calls returns next
      | ended state => rfl
      | stopped state fault => rfl

theorem answer_run (state : State) (argument : List Char) :
    answer state ⟨.run, argument⟩ = (runJourney state).turn :=
  run_eq_travel state.settings.fuel state

private theorem lt_length_of_itemAt? {α : Type} {items : List α} {index : Int} {item : α}
    (found : itemAt? items index = some item) : index < items.length := by
  unfold itemAt? at found
  split at found
  · have bound := (List.getElem?_eq_some_iff.mp found).1
    omega
  · omega

theorem State.fetch?_eq_some {state : State} {function : Function} {instruction : Instruction}
    (fetched : state.fetch? = some (function, instruction)) :
    state.active = .ok function ∧ state.machine.ip < function.instructions.length ∧
      itemAt function.instructions state.machine.ip = .ok instruction := by
  unfold State.fetch? at fetched
  cases active : state.active with
  | error fault => simp [active] at fetched
  | ok activeFunction =>
      simp only [active, Option.map_eq_some_iff] at fetched
      obtain ⟨item, found, same⟩ := fetched
      obtain ⟨rfl, rfl⟩ := Prod.mk.inj same
      exact ⟨rfl, lt_length_of_itemAt? found, by simp only [itemAt, found]⟩

theorem State.fetch?_of_itemAt? {state : State} {function : Function} {instruction : Instruction}
    (active : state.active = .ok function)
    (found : itemAt? function.instructions state.machine.ip = some instruction) :
    state.fetch? = some (function, instruction) := by
  simp only [State.fetch?, active, found, Option.map_some]

theorem State.fetch?_of_itemAt {state : State} {function : Function} {instruction : Instruction}
    (active : state.active = .ok function)
    (found : itemAt function.instructions state.machine.ip = .ok instruction) :
    state.fetch? = some (function, instruction) := by
  apply State.fetch?_of_itemAt? active
  unfold itemAt at found
  cases item : itemAt? function.instructions state.machine.ip with
  | none => simp [item] at found
  | some other =>
      simp only [item, Except.ok.injEq] at found
      rw [found]

theorem State.program_of_fetch? {state : State} {function : Function} {instruction : Instruction}
    (fetched : state.fetch? = some (function, instruction)) : state.program.isEmpty = false := by
  obtain ⟨active, -, -⟩ := State.fetch?_eq_some fetched
  unfold State.active Program.function Program.body? at active
  cases bodies : state.program.bodies with
  | nil =>
      rw [bodies] at active
      split at active
      · cases active
      · split at active <;> cases active
  | cons body rest => simp only [Program.isEmpty, bodies, List.isEmpty_cons]

theorem answer_next {state : State} {function : Function} {call : Instruction}
    (fetched : state.fetch? = some (function, call)) (isCall : call.is .call = true)
    (argument : List Char) :
    answer state ⟨.next, argument⟩ = (overJourney state function call).turn := by
  obtain ⟨active, inside, found⟩ := State.fetch?_eq_some fetched
  have loaded := State.program_of_fetch? fetched
  have notPast : ¬ (function.instructions.length : Int) ≤ state.machine.ip := by omega
  have started : answer state ⟨.next, argument⟩ =
      if !call.printable then .failed (state.say "") .writtenTooLong
      else
        match ((state.announceOver call).execute function call).fault with
        | some fault =>
          .failed ((state.announceOver call).after ((state.announceOver call).execute function call)) fault
        | none => stepOver state.settings.fuel 1 0 (state.entered function call) := by
    simp only [answer, step, loaded, active, notPast, found, isCall, Bool.false_eq_true, if_false,
      Bool.and_self, if_true]
    rfl
  rw [started, overJourney]
  split
  · rfl
  · dsimp only
    cases ((state.announceOver call).execute function call).fault with
    | some fault => rfl
    | none => exact stepOver_eq_travel _ 1 0 _

theorem advance_moved {lead : String} {echo : Bool} {state next : State} {instruction : Instruction}
    (moved : advance lead echo state = .moved next instruction) :
    ∃ function asked, state.fetch? = some (function, instruction) ∧
      ask state lead echo instruction = (asked, none) ∧
      (asked.execute function instruction).fault = none ∧
      next = (asked.after (asked.execute function instruction)).moveOn := by
  unfold advance at moved
  cases active : state.active with
  | error fault => simp [active] at moved
  | ok function =>
      simp only [active] at moved
      split at moved
      · cases found : itemAt function.instructions state.machine.ip with
        | error fault => simp [found] at moved
        | ok item =>
            simp only [found] at moved
            cases asks : ask state lead echo item with
            | mk asked trouble =>
                cases trouble with
                | some fault => simp [asks] at moved
                | none =>
                    simp only [asks] at moved
                    cases failed : (asked.execute function item).fault with
                    | some fault => simp [failed] at moved
                    | none =>
                        simp only [failed] at moved
                        obtain ⟨rfl, rfl⟩ := Progress.moved.inj moved
                        exact ⟨function, asked, State.fetch?_of_itemAt active found, asks, failed, rfl⟩
      · cases moved

theorem advance_of_fetch? {state : State} {function : Function} {instruction : Instruction}
    (fetched : state.fetch? = some (function, instruction)) (silent : instruction.reads = false)
    (lead : String) (echo : Bool) :
    advance lead echo state =
      match (state.execute function instruction).fault with
      | some fault => .stopped (state.after (state.execute function instruction)) fault
      | none => .moved (state.after (state.execute function instruction)).moveOn instruction := by
  obtain ⟨active, inside, found⟩ := State.fetch?_eq_some fetched
  cases failed : (state.execute function instruction).fault with
  | some fault => simp only [advance, active, inside, found, ask_of_silent silent, failed, if_true]
  | none => simp only [advance, active, inside, found, ask_of_silent silent, failed, if_true]

theorem advance_of_silent {state : State} {function : Function} {instruction : Instruction}
    (fetched : state.fetch? = some (function, instruction)) (silent : instruction.reads = false)
    (carried : (state.execute function instruction).fault = none) (lead : String) (echo : Bool) :
    advance lead echo state =
      .moved (state.after (state.execute function instruction)).moveOn instruction := by
  rw [advance_of_fetch? fetched silent, carried]

/-- Trying the next instruction makes as little of a transparent change as carrying it out does. -/
theorem advance_of_transparent {embed : State → State} (transparent : Transparent embed) {state : State}
    {lead : String} {echo : Bool}
    (executes : ∀ function instruction asked, state.fetch? = some (function, instruction) →
      ask state lead echo instruction = (asked, none) →
        (embed asked).after ((embed asked).execute function instruction) =
            embed (asked.after (asked.execute function instruction)) ∧
          ((embed asked).execute function instruction).fault = (asked.execute function instruction).fault) :
    advance lead echo (embed state) = (advance lead echo state).map embed := by
  unfold advance
  rw [transparent.active, transparent.pointer]
  cases active : state.active with
  | error fault => rfl
  | ok function =>
      dsimp only
      split
      · cases found : itemAt function.instructions state.machine.ip with
        | error fault => rfl
        | ok instruction =>
            dsimp only
            rw [ask_of_transparent transparent]
            cases asks : ask state lead echo instruction with
            | mk asked trouble =>
                cases trouble with
                | some fault => rfl
                | none =>
                    obtain ⟨same, fault⟩ :=
                      executes function instruction asked (State.fetch?_of_itemAt active found) asks
                    dsimp only
                    rw [same, fault, transparent.moveOn]
                    cases (asked.execute function instruction).fault <;> rfl
      · rfl

theorem effect_of_ask {lead : String} {echo : Bool} {state asked : State} {instruction : Instruction}
    (asks : ask state lead echo instruction = (asked, none)) (function : Function) :
    Effect function.labels state.machine instruction (asked.execute function instruction).machine
      (asked.execute function instruction).fault := by
  rw [← (machine_of_ask asks).1]
  exact Machine.execute_effect function.labels asked.machine asked.console instruction

theorem advance_effect {lead : String} {echo : Bool} {state next : State} {instruction : Instruction}
    (moved : advance lead echo state = .moved next instruction) :
    ∃ function after, state.fetch? = some (function, instruction) ∧
      Effect function.labels state.machine instruction after none ∧
      next.machine = { after with ip := after.ip + 1 } ∧ next.program = state.program := by
  obtain ⟨function, asked, fetched, asks, carried, rfl⟩ := advance_moved moved
  have effect := effect_of_ask asks function
  rw [carried] at effect
  exact ⟨function, _, fetched, effect, rfl, (machine_of_ask asks).2⟩

theorem advance_ended {lead : String} {echo : Bool} {state final : State}
    (ended : advance lead echo state = .ended final) :
    final = state ∧ ∃ function, state.active = .ok function ∧
      (function.instructions.length : Int) ≤ state.machine.ip := by
  unfold advance at ended
  cases active : state.active with
  | error fault => simp [active] at ended
  | ok function =>
      simp only [active] at ended
      split at ended
      · repeat' split at ended
        all_goals cases ended
      · cases ended
        exact ⟨rfl, function, rfl, by omega⟩

theorem outside_of_active {state : State} {fault : Fault} (failed : state.active = .error fault) :
    fault.outside = true := by
  unfold State.active Program.function at failed
  split at failed
  · split at failed <;> cases failed <;> rfl
  · cases failed
    split <;> rfl

theorem outside_of_itemAt {α : Type} {items : List α} {index : Int} {fault : Fault}
    (failed : itemAt items index = .error fault) : fault.outside = true := by
  unfold itemAt Fault.badIndex at failed
  split at failed
  · cases failed
  · cases failed
    split <;> rfl

/-- A fault stops a run before the instruction is carried out, and then it comes from outside of it, or it is
what the instruction failed with. -/
theorem advance_stopped {lead : String} {echo : Bool} {state final : State} {fault : Fault}
    (stopped : advance lead echo state = .stopped final fault) :
    (final.machine = state.machine ∧ final.program = state.program ∧ fault.outside = true) ∨
      ∃ function instruction asked, state.fetch? = some (function, instruction) ∧
        ask state lead echo instruction = (asked, none) ∧
        (asked.execute function instruction).fault = some fault ∧
        final = asked.after (asked.execute function instruction) := by
  unfold advance at stopped
  cases active : state.active with
  | error trouble =>
      simp only [active, Progress.stopped.injEq] at stopped
      obtain ⟨rfl, rfl⟩ := stopped
      exact .inl ⟨rfl, rfl, outside_of_active active⟩
  | ok function =>
      simp only [active] at stopped
      split at stopped
      · cases found : itemAt function.instructions state.machine.ip with
        | error trouble =>
            simp only [found, Progress.stopped.injEq] at stopped
            obtain ⟨rfl, rfl⟩ := stopped
            exact .inl ⟨rfl, rfl, outside_of_itemAt found⟩
        | ok instruction =>
            simp only [found] at stopped
            cases asks : ask state lead echo instruction with
            | mk asked trouble =>
                cases trouble with
                | some trouble =>
                    simp only [asks, Progress.stopped.injEq] at stopped
                    obtain ⟨rfl, rfl⟩ := stopped
                    obtain ⟨machine, program⟩ := machine_of_ask asks
                    exact .inl ⟨machine, program, outside_of_ask asks⟩
                | none =>
                    simp only [asks] at stopped
                    cases failed : (asked.execute function instruction).fault with
                    | none => simp [failed] at stopped
                    | some trouble =>
                        simp only [failed, Progress.stopped.injEq] at stopped
                        obtain ⟨rfl, rfl⟩ := stopped
                        exact .inr ⟨function, instruction, asked, State.fetch?_of_itemAt active found, asks,
                          failed, rfl⟩
      · cases stopped

/-- A run that stops with the fault of a breakpoint stands at one. Nothing has been read, and the machine
has not changed. -/
theorem advance_breakpoint {lead : String} {echo : Bool} {state final : State}
    (stopped : advance lead echo state = .stopped final .breakpoint) :
    ∃ function instruction, state.fetch? = some (function, instruction) ∧
      instruction.is .breakpoint = true ∧ final.machine = state.machine ∧
      final.script = state.script := by
  rcases advance_stopped stopped with
    ⟨-, -, outside⟩ | ⟨function, instruction, asked, fetched, asks, failed, rfl⟩
  · cases outside
  · have isBreakpoint := Machine.is_breakpoint_of_fault failed
    have silent := Instruction.reads_of_is isBreakpoint (by decide) (by decide)
    rw [ask_of_silent silent] at asks
    obtain ⟨rfl, -⟩ := Prod.mk.inj asks
    refine ⟨function, instruction, fetched, isBreakpoint, ?_⟩
    rw [State.execute, Machine.execute_breakpoint isBreakpoint]
    exact ⟨rfl, rfl⟩

inductive Moves (lead : String) (echo : Bool) : State → List Leg → State → Prop where
  | refl {state : State} : Moves lead echo state [] state
  | cons {state next last : State} {instruction : Instruction} {legs : List Leg}
      (moved : advance lead echo state = .moved next instruction)
      (moves : Moves lead echo next legs last) :
      Moves lead echo state (⟨instruction, linesRead state next, next⟩ :: legs) last

/-- Why the loop went no further than a state. -/
def Journey.Closes (lead : String) (echo : Bool) (journey : Journey) (last : State) : Prop :=
  match journey.halt with
  | .arrived | .exhausted => journey.state = last
  | .ended => advance lead echo last = .ended journey.state
  | .stopped fault => advance lead echo last = .stopped journey.state fault
  | .escaped _ => False

theorem travel_moves {τ : Type} (lead : String) (echo : Bool) (tally : τ → Instruction → Option τ)
    (fuel : Nat) (counts : τ) (state : State) :
    ∃ last, Moves lead echo state (travel lead echo tally fuel counts state).legs last ∧
      (travel lead echo tally fuel counts state).Closes lead echo last := by
  induction fuel generalizing counts state with
  | zero => exact ⟨state, .refl, rfl⟩
  | succ fuel ih =>
      rw [travel]
      cases advanced : advance lead echo state with
      | ended final => exact ⟨state, .refl, advanced⟩
      | stopped final fault => exact ⟨state, .refl, advanced⟩
      | moved next instruction =>
          dsimp only
          cases tally counts instruction with
          | none => exact ⟨next, .cons advanced .refl, rfl⟩
          | some counts =>
              obtain ⟨last, moves, closes⟩ := ih counts next
              exact ⟨last, .cons advanced moves, closes⟩

theorem linesRead_append_script {lead : String} {echo : Bool} {state next : State}
    {instruction : Instruction} (moved : advance lead echo state = .moved next instruction) :
    linesRead state next ++ next.script = state.script := by
  obtain ⟨function, asked, -, asks, -, rfl⟩ := advance_moved moved
  have script : (asked.after (asked.execute function instruction)).moveOn.script = asked.script :=
    Machine.execute_script function.labels asked.machine (feed_of_ask asks)
  have result := ask_asked state lead echo instruction
  rw [asks] at result
  unfold linesRead
  rw [script]
  cases result with
  | silent => simp
  | answered _ waiting => simp [waiting]

theorem Moves.script {lead : String} {echo : Bool} {state last : State} {legs : List Leg}
    (moves : Moves lead echo state legs last) : legs.flatMap Leg.fed ++ last.script = state.script := by
  induction moves with
  | refl => rfl
  | cons moved moves ih =>
      rw [List.flatMap_cons, List.append_assoc, ih]
      exact linesRead_append_script moved

theorem Moves.program {lead : String} {echo : Bool} {state last : State} {legs : List Leg}
    (moves : Moves lead echo state legs last) : last.program = state.program := by
  induction moves with
  | refl => rfl
  | cons moved moves ih =>
      obtain ⟨-, -, -, -, -, kept⟩ := advance_effect moved
      exact ih.trans kept

end Functions

end StackMachine.Debugger

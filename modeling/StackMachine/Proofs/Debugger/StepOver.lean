import StackMachine.Proofs.Debugger.Stepping
import StackMachine.Proofs.Machine.Bracketing

/-!
Stepping over a call. The loop counts calls and returns and never looks at the frames. Still it stops
exactly when the call that it began with has returned: at every instruction in between, calls less
returns is the depth above the caller.
-/

set_option autoImplicit false

namespace StackMachine.Debugger.Functions

/-- A machine in the midst of a step over: inside the call, as deep as the tally of calls and returns
says. -/
structure Underway (caller : Machine) (counts : Nat × Nat) (machine : Machine) : Prop where
  inside : caller.InsideCallOf machine
  tallied : machine.frames.length + counts.2 = caller.frames.length + counts.1

theorem Underway.moved {caller : Machine} {counts : Nat × Nat} {lead : String} {echo : Bool}
    {state next : State} {instruction : Instruction} (underway : Underway caller counts state.machine)
    (moved : advance lead echo state = .moved next instruction) :
    match callTally counts instruction with
    | some counts => Underway caller counts next.machine
    | none => next.machine = { caller with stack := next.machine.stack, ip := caller.ip + 1 } := by
  obtain ⟨function, after, -, effect, machine, -⟩ := advance_effect moved
  have deep := underway.inside.deep
  have tallied := underway.tallied
  have depth := effect.depth
  have calls : (if instruction.is .call then counts.1 + 1 else counts.1) =
      counts.1 + if instruction.is .call then 1 else 0 := by split <;> rfl
  have returns : (if instruction.is .ret then counts.2 + 1 else counts.2) =
      counts.2 + if instruction.is .ret then 1 else 0 := by split <;> rfl
  have atMostOne : (if instruction.is .ret then 1 else 0) ≤ 1 := by split <;> decide
  simp only [callTally, calls, returns]
  generalize (if instruction.is .call then 1 else 0) = called at *
  generalize (if instruction.is .ret then 1 else 0) = returned at *
  rw [machine]
  -- One instruction takes back one frame at most, so the caller's depth is not skipped: the tally gives
  -- out exactly at the instruction that gets there.
  by_cases balanced : counts.1 + called = counts.2 + returned
  · rw [if_pos balanced]
    have back := underway.inside.returned (by omega) effect (by omega)
    rw [back]
  · rw [if_neg balanced]
    have inside := underway.inside.effect effect (by omega)
    have tallied : after.frames.length + (counts.2 + returned) =
        caller.frames.length + (counts.1 + called) := by omega
    exact ⟨inside, tallied⟩

/-- What a journey over a call by `caller` comes to. Every leg but the last ends inside the call. If the
tally stopped the loop, the caller is back behind its call; if a function ended, the call has not been
returned from. -/
structure Journey.GoesOver (caller : Machine) (journey : Journey) : Prop where
  deep : ∀ leg ∈ journey.legs.dropLast, caller.frames.length < leg.state.machine.frames.length
  arrived : journey.halt = .arrived → journey.state.machine =
    { caller with stack := journey.state.machine.stack, ip := caller.ip + 1 }
  ended : journey.halt = .ended → caller.frames.length < journey.state.machine.frames.length

theorem Journey.GoesOver.prepend {caller : Machine} {journey : Journey} (goesOver : journey.GoesOver caller)
    {leg : Leg} (deep : caller.frames.length < leg.state.machine.frames.length) :
    (journey.prepend leg).GoesOver caller := by
  refine ⟨?_, goesOver.arrived, goesOver.ended⟩
  intro other member
  have before := goesOver.deep other
  rw [Journey.legs_prepend] at member
  cases legs : journey.legs with
  | nil => simp [legs] at member
  | cons next later =>
      rw [legs] at member before
      rcases List.mem_cons.mp member with rfl | member
      · exact deep
      · exact before member

theorem travel_goesOver {caller : Machine} (lead : String) (echo : Bool) (fuel : Nat)
    {counts : Nat × Nat} {state : State} (underway : Underway caller counts state.machine) :
    (travel lead echo callTally fuel counts state).GoesOver caller := by
  induction fuel generalizing counts state with
  | zero => exact ⟨by simp [travel], by simp [travel], by simp [travel]⟩
  | succ fuel ih =>
      rw [travel]
      cases advanced : advance lead echo state with
      | stopped final fault => exact ⟨by simp, by simp, by simp⟩
      | ended final =>
          obtain ⟨rfl, -⟩ := advance_ended advanced
          exact ⟨by simp, by simp, fun _ => underway.inside.deep⟩
      | moved next instruction =>
          have step := underway.moved advanced
          dsimp only
          cases tallied : callTally counts instruction with
          | none =>
              rw [tallied] at step
              exact ⟨by simp, fun _ => step, by simp⟩
          | some counts =>
              rw [tallied] at step
              exact (ih step).prepend step.inside.deep

section

variable {state : State} {function : Function} {call : Instruction}

theorem overJourney_of_carried (written : call.printable = true)
    (carried : ((state.announceOver call).execute function call).fault = none) :
    overJourney state function call =
      (travel "\n" true callTally state.settings.fuel (1, 0) (state.entered function call)).prepend
        ⟨call, [], state.entered function call⟩ := by
  simp only [overJourney, written, carried, Bool.not_true, Bool.false_eq_true, if_false]

theorem entered_underway (isCall : call.is .call = true)
    (carried : ((state.announceOver call).execute function call).fault = none) :
    Underway state.machine (1, 0) (state.entered function call).machine := by
  have effect : Effect function.labels state.machine call
      ((state.announceOver call).execute function call).machine none :=
    carried ▸ Machine.execute_effect function.labels state.machine (state.announceOver call).console call
  obtain ⟨inside, level⟩ := Machine.insideCallOf_of_effect isCall effect
  exact ⟨inside, level⟩

theorem overJourney_goesOver (isCall : call.is .call = true) (written : call.printable = true)
    (carried : ((state.announceOver call).execute function call).fault = none) :
    (overJourney state function call).GoesOver state.machine := by
  have underway := entered_underway isCall carried
  rw [overJourney_of_carried written carried]
  exact (travel_goesOver _ _ _ underway).prepend underway.inside.deep

theorem overJourney_moves (fetched : state.fetch? = some (function, call))
    (isCall : call.is .call = true) (written : call.printable = true)
    (carried : ((state.announceOver call).execute function call).fault = none) :
    ∃ last, Moves "\n" true (state.announceOver call) (overJourney state function call).legs last ∧
      (overJourney state function call).Closes "\n" true last := by
  have silent : call.reads = false := Instruction.reads_of_is isCall (by decide) (by decide)
  -- The announcement goes to the terminal, so the same instruction is fetched after it.
  have announced : (state.announceOver call).fetch? = some (function, call) := fetched
  have moved : advance "\n" true (state.announceOver call) = .moved (state.entered function call) call :=
    advance_of_silent announced silent carried "\n" true
  have unread : linesRead (state.announceOver call) (state.entered function call) = [] := by
    have script : (state.entered function call).script = (state.announceOver call).script :=
      Machine.execute_script function.labels state.machine (fun reads => by simp [silent] at reads)
    simp only [linesRead, script, Nat.sub_self, List.take_zero]
  obtain ⟨last, moves, closes⟩ :=
    travel_moves "\n" true callTally state.settings.fuel (1, 0) (state.entered function call)
  rw [overJourney_of_carried written carried]
  refine ⟨last, ?_, closes⟩
  rw [Journey.legs_prepend, ← unread]
  exact .cons moved moves

theorem carried_of_turn {final : State} (returned : (overJourney state function call).turn = .prompt final) :
    call.printable = true ∧ ((state.announceOver call).execute function call).fault = none := by
  cases written : call.printable with
  | false => simp [overJourney, written, Journey.turn] at returned
  | true =>
      cases carried : ((state.announceOver call).execute function call).fault with
      | some fault => simp [overJourney, written, carried, Journey.turn] at returned
      | none => exact ⟨rfl, rfl⟩

end

/-- If `next` comes back to the prompt at a call, and neither a breakpoint nor the report that the
program has ended brought it back, then either the caller is back behind its call, with nothing changed
but its operands, and every instruction before the last one ended deeper than the caller; or some
function ran off its end and the call has not been returned from. Either way, as many `step`s, fed the
same lines, come back to the prompt one and all and end with the same machine, if the instructions of the
program are short enough for `step` to announce them, as all that are read are. -/
theorem next_stops_at_matching_return (state final : State) (function : Function) (call : Instruction)
    (argument : List Char) (fetched : state.fetch? = some (function, call))
    (isCall : call.is .call = true) (returned : answer state ⟨.next, argument⟩ = .prompt final)
    (unstopped : ∀ fault, (overJourney state function call).halt = .stopped fault →
      fault.classOf ≠ .stop ∧ fault.classOf ≠ .index)
    (rest : List Keystroke) :
    ((final.machine.frames.length = state.machine.frames.length ∧
          final.machine =
            { state.machine with stack := final.machine.stack, ip := state.machine.ip + 1 } ∧
          ∀ leg ∈ (overJourney state function call).legs.dropLast,
            state.machine.frames.length < leg.state.machine.frames.length) ∨
        (state.machine.frames.length < final.machine.frames.length ∧
          ∃ active, final.active = .ok active ∧
            (active.instructions.length : Int) ≤ final.machine.ip)) ∧
      (overJourney state function call).fed ++ final.script = state.script ∧
      (state.program.Printable →
        ∃ last, frontend.promptAfter (overJourney state function call).legs.length
            (state.withScript (stepLines (overJourney state function call).legs ++ rest)) = some last ∧
          last.machine = final.machine ∧ last.script = rest) := by
  rw [answer_next fetched isCall] at returned
  obtain ⟨written, carried⟩ := carried_of_turn returned
  have goesOver := overJourney_goesOver isCall written carried
  obtain ⟨last, moves, closes⟩ := overJourney_moves fetched isCall written carried
  have read : (overJourney state function call).fed ++ last.script = state.script := moves.script
  have retraced : state.program.Printable →
      ∃ reached, frontend.promptAfter (overJourney state function call).legs.length
          (state.withScript (stepLines (overJourney state function call).legs ++ rest)) = some reached ∧
        reached.machine = last.machine ∧ reached.script = rest := by
    intro printable
    have announced : (state.announceOver call).program.Printable := printable
    obtain ⟨terminal, script, stepped⟩ := promptAfter_of_moves announced moves
      { state.console.terminal with
        script := stepLines (overJourney state function call).legs ++ rest } rest rfl
    exact ⟨_, stepped, rfl, script⟩
  rcases Journey.halt_of_turn returned with ⟨cause, rfl⟩ | ⟨fault, stopped, kind⟩
  · unfold Journey.Closes at closes
    rcases cause with arrived | ended
    · rw [arrived] at closes
      have back := goesOver.arrived arrived
      rw [closes] at back ⊢
      have level := congrArg (·.frames.length) back
      exact ⟨.inl ⟨level, back, goesOver.deep⟩, read, retraced⟩
    · rw [ended] at closes
      obtain ⟨same, active, found, past⟩ := advance_ended closes
      have deep := goesOver.ended ended
      rw [same] at deep ⊢
      exact ⟨.inr ⟨deep, active, found, past⟩, read, retraced⟩
  · obtain ⟨noBreakpoint, noReport⟩ := unstopped fault stopped
    exact absurd kind (not_or.mpr ⟨noBreakpoint, noReport⟩)

def nesting : State where
  settings := ⟨false, true, .adaptive, 10⟩
  files := ⟨[]⟩
  machine := { stack := [.text "outer"], ip := 1 }
  console := {}
  program := ⟨[
    (entryPoint, .linked ⟨[.of .loadConst [.text "outer"], .of .call []], .empty⟩),
    ("outer", .linked ⟨[.of .loadConst [.text "inner"], .of .call [], .of .ret []], .empty⟩),
    ("inner", .linked ⟨[.of .ret []], .empty⟩)]⟩

/-- The first of the two returns does not stop the step over: it takes five instructions. -/
theorem next_stops_at_matching_return_nesting :
    ∃ final last, answer nesting ⟨.next, []⟩ = .prompt final ∧ final.machine = { ip := 2 } ∧
      (overJourney nesting ⟨[.of .loadConst [.text "outer"], .of .call []], .empty⟩
        (.of .call [])).halt = .arrived ∧
      frontend.promptAfter 5 (nesting.withScript (List.replicate 5 (.line "step"))) = some last ∧
      last.machine = final.machine := by
  obtain ⟨-, -, retraced⟩ := next_stops_at_matching_return nesting _ _ _ [] rfl rfl rfl
    (fun fault stopped => nomatch stopped) []
  obtain ⟨last, stepped, machine, -⟩ := retraced (Program.printable_of_bodies (by decide))
  exact ⟨_, last, rfl, rfl, rfl, stepped, machine⟩

end StackMachine.Debugger.Functions

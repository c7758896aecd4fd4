import StackMachine.Proofs.Debugger.Journey
import StackMachine.Proofs.Machine.Ground

/-!
What a called function can know of its caller. The caller's variables, and whatever calls saved before,
are the ground that the call runs on; until the return that matches the call nothing is taken from it. So
two runs that differ only in the ground take the same way through the call, instruction by instruction:
they read, write, fail and stop alike and come back with the same operands.
-/

set_option autoImplicit false

namespace StackMachine

/-- What a call by a machine puts under the machine that it starts. -/
def Machine.ground (caller : Machine) : Ground where
  frames := caller.bindings :: caller.frames
  saved := ⟨caller.current, caller.ip⟩ :: caller.saved

namespace Debugger

namespace Functions

/-- What can be told of a state without its variables and saved calls: the operands, the place in the
program, and the console with all that was written, printed and is left to be read. -/
structure View where
  stack : List Value
  ip : Int
  current : Value
  console : Console

def State.view (state : State) : View :=
  ⟨state.machine.stack, state.machine.ip, state.machine.current, state.console⟩

/-- What can be told of a journey: its instructions, each with the lines it was fed and the view after it,
the view in the end, and why it came to its end. -/
def Journey.view (journey : Journey) : List (Instruction × List Keystroke × View) × View × Halt :=
  (journey.legs.map fun leg => (leg.instruction, leg.fed, leg.state.view), journey.state.view, journey.halt)

/-- The legs up to the first that ends with no more than `depth` frames, as a journey of their own. If
there is none, the journey ends as it did. -/
def legsUpToReturn (depth : Nat) (state : State) (halt : Halt) : List Leg → Journey
  | [] => ⟨[], state, halt⟩
  | leg :: legs =>
    if leg.state.machine.frames.length ≤ depth then ⟨[leg], leg.state, .arrived⟩
    else (legsUpToReturn depth state halt legs).prepend leg

/-- The part of a journey until it is back at a depth. -/
def Journey.upToReturn (depth : Nat) (journey : Journey) : Journey :=
  legsUpToReturn depth journey.state journey.halt journey.legs

/-- The part of a run that a call at its beginning takes, the matching return included. -/
def callJourney (state : State) : Journey :=
  (runJourney state).upToReturn state.machine.frames.length

theorem Journey.upToReturn_of_back {depth : Nat} {leg : Leg}
    (back : leg.state.machine.frames.length ≤ depth) (journey : Journey) :
    (journey.prepend leg).upToReturn depth = ⟨[leg], leg.state, .arrived⟩ :=
  if_pos back

theorem Journey.upToReturn_of_deep {depth : Nat} {leg : Leg}
    (deep : depth < leg.state.machine.frames.length) (journey : Journey) :
    (journey.prepend leg).upToReturn depth = (journey.upToReturn depth).prepend leg :=
  if_neg (Nat.not_le.mpr deep)

theorem Journey.upToReturn_eq_self {depth : Nat} {journey : Journey}
    (unreturned : (journey.upToReturn depth).halt ≠ .arrived) : journey.upToReturn depth = journey := by
  obtain ⟨legs, state, halt⟩ := journey
  induction legs with
  | nil => rfl
  | cons leg legs ih =>
      by_cases back : leg.state.machine.frames.length ≤ depth
      · exact absurd (congrArg Journey.halt (if_pos back)) unreturned
      · have cut := upToReturn_of_deep (Nat.not_le.mp back) ⟨legs, state, halt⟩
        have inner : ((⟨legs, state, halt⟩ : Journey).upToReturn depth).halt ≠ .arrived := by
          intro arrived
          exact unreturned ((congrArg Journey.halt cut).trans arrived)
        exact cut.trans (congrArg (Journey.prepend leg) (ih inner))

def State.atop (state : State) (ground : Ground) : State :=
  { state with machine := state.machine.atop ground }

theorem State.view_atop (state : State) {ground : Ground} (bare : ground.stack = []) :
    (state.atop ground).view = state.view := by
  simp only [State.view, State.atop, Machine.atop, bare, List.append_nil]

theorem transparent_atop (ground : Ground) : Transparent (·.atop ground) where
  active _ := rfl
  pointer _ := rfl
  moveOn _ := rfl
  say _ _ := rfl
  feedFrom _ _ := rfl
  readLine _ _ := rfl

/-- One instruction: over a ground without operands a run goes on as it does alone, unless it is at a return
that has only the ground to return to. -/
theorem advance_atop {state : State} {ground : Ground} (bare : ground.stack = [])
    (supported : ∀ function, state.fetch? = some (function, .of .ret []) →
      state.machine.frames ≠ [] ∧ state.machine.saved ≠ []) (lead : String) (echo : Bool) :
    advance lead echo (state.atop ground) = (advance lead echo state).map (·.atop ground) := by
  apply advance_of_transparent (transparent_atop ground)
  intro function instruction asked fetched asks
  obtain ⟨machine, -⟩ := machine_of_ask asks
  have executed : (asked.atop ground).execute function instruction =
      (asked.execute function instruction).atop ground := by
    refine Machine.execute_atop (.inl bare) ?_
    rintro rfl
    rw [machine]
    exact .inr (supported function fetched)
  rw [executed]
  exact ⟨rfl, rfl⟩

/-- The matching return: it takes the caller's frame and return point from the ground. -/
theorem advance_ret_atop {state : State} {function : Function}
    (fetched : state.fetch? = some (function, .of .ret [])) (noFrames : state.machine.frames = [])
    (noPlaces : state.machine.saved = []) (caller : Machine) (lead : String) (echo : Bool) :
    advance lead echo (state.atop caller.ground) =
      .moved { state with
        machine := { caller with stack := state.machine.stack, ip := caller.ip + 1 } } (.of .ret []) := by
  have executed : (state.atop caller.ground).execute function (.of .ret []) =
      .done { caller with stack := state.machine.stack } state.console := by
    simp only [State.execute, Machine.execute, Instruction.of, Machine.perform, Machine.ret, State.atop,
      Machine.atop, Machine.ground, noFrames, noPlaces, List.nil_append, List.append_nil]
  have fetchedOver : (state.atop caller.ground).fetch? = some (function, .of .ret []) := fetched
  have moved := advance_of_silent fetchedOver rfl (congrArg Outcome.fault executed) lead echo
  rw [executed] at moved
  exact moved

/-- A call either fails before anything is changed or starts a fresh machine over the ground of its
caller. -/
theorem advance_call {state : State} {function : Function} {call : Instruction}
    (fetched : state.fetch? = some (function, call)) (isCall : call.is .call = true) (lead : String)
    (echo : Bool) :
    advance lead echo state =
      match call.args, state.machine.stack with
      | [], called :: stack =>
        .moved (({ state with machine := { stack, ip := 0, current := called } } : State).atop
          state.machine.ground) call
      | [], [] => .stopped state .emptyPop
      | _ :: _, _ => .stopped state (.arity .call call.args) := by
  obtain ⟨active, inside, found⟩ := State.fetch?_eq_some fetched
  have silent : call.reads = false := Instruction.reads_of_is isCall (by decide) (by decide)
  obtain ⟨mnemonic, args⟩ := call
  obtain rfl : mnemonic = .known .call := of_decide_eq_true isCall
  simp only [advance, active, inside, found, ask_of_silent silent, if_true, State.execute,
    Machine.execute]
  cases args with
  | cons _ _ => rfl
  | nil =>
      cases operands : state.machine.stack with
      | nil => simp only [Machine.perform, Machine.call, Machine.pop, operands, Outcome.fail]; rfl
      | cons called stack =>
          simp only [Machine.perform, Machine.call, Machine.pop, operands, Outcome.done]
          simp only [State.atop, Machine.atop, Machine.ground, List.nil_append, List.append_nil]
          rfl

section

variable (lead : String) (echo : Bool) (fuel : Nat)

/-- What can be told of the way that a run takes over the ground of a caller, up to the return to it. -/
def wayOver (caller : Machine) (state : State) : List (Instruction × List Keystroke × View) × View × Halt :=
  ((travel lead echo (fun _ _ => some ()) fuel () (state.atop caller.ground)).upToReturn
    caller.frames.length).view

end

section

variable {lead : String} {echo : Bool} {fuel : Nat} {state : State} (caller : Machine)

private theorem view_atop_ground (state : State) : (state.atop caller.ground).view = state.view :=
  state.view_atop rfl

private theorem wayOver_of_ret {function : Function}
    (fetched : state.fetch? = some (function, .of .ret [])) (noFrames : state.machine.frames = [])
    (noPlaces : state.machine.saved = []) :
    wayOver lead echo (fuel + 1) caller state =
      ([(.of .ret [], linesRead state state,
          ⟨state.machine.stack, caller.ip + 1, caller.current, state.console⟩)],
        ⟨state.machine.stack, caller.ip + 1, caller.current, state.console⟩, .arrived) := by
  simp only [wayOver, travel, advance_ret_atop fetched noFrames noPlaces]
  exact congrArg Journey.view (Journey.upToReturn_of_back (Nat.le_refl caller.frames.length) _)

private theorem view_of_moved {start next : State} {instruction : Instruction}
    (moved : advance lead echo start = .moved (next.atop caller.ground) instruction) :
    ((travel lead echo (fun _ _ => some ()) (fuel + 1) () start).upToReturn caller.frames.length).view =
      ((instruction, linesRead start next, next.view) :: (wayOver lead echo fuel caller next).1,
        (wayOver lead echo fuel caller next).2) := by
  have deep : caller.frames.length < (next.atop caller.ground).machine.frames.length := by
    simp only [State.atop, Machine.atop, Machine.ground, List.length_append, List.length_cons]
    omega
  simp only [travel, moved]
  rw [← view_atop_ground caller next]
  exact congrArg Journey.view (Journey.upToReturn_of_deep deep _)

end

/-- Inside a call the way of a run does not depend on the caller: over the grounds of two callers that made
the call from one place, it is the same up to the matching return. -/
theorem wayOver_eq {left right : Machine} (sameFunction : left.current = right.current)
    (samePlace : left.ip = right.ip) (lead : String) (echo : Bool) (fuel : Nat) {state : State}
    (paired : state.machine.frames.length = state.machine.saved.length) :
    wayOver lead echo fuel left state = wayOver lead echo fuel right state := by
  induction fuel generalizing state with
  | zero =>
      simp only [wayOver, travel, Journey.upToReturn, legsUpToReturn, Journey.view, view_atop_ground]
  | succ fuel ih =>
      by_cases matching : ∃ function, state.fetch? = some (function, .of .ret []) ∧
          state.machine.frames = []
      · obtain ⟨function, fetched, noFrames⟩ := matching
        have noPlaces : state.machine.saved = [] := by
          rw [noFrames] at paired
          exact List.eq_nil_of_length_eq_zero paired.symm
        rw [wayOver_of_ret left fetched noFrames noPlaces, wayOver_of_ret right fetched noFrames noPlaces,
          sameFunction, samePlace]
      · have supported : ∀ function, state.fetch? = some (function, .of .ret []) →
            state.machine.frames ≠ [] ∧ state.machine.saved ≠ [] := by
          intro function fetched
          have someFrames : state.machine.frames ≠ [] :=
            fun noFrames => matching ⟨function, fetched, noFrames⟩
          refine ⟨someFrames, fun noPlaces => someFrames ?_⟩
          rw [noPlaces] at paired
          exact List.eq_nil_of_length_eq_zero paired
        have advanceOver (caller : Machine) : advance lead echo (state.atop caller.ground) =
            (advance lead echo state).map (·.atop caller.ground) := advance_atop rfl supported lead echo
        cases advanced : advance lead echo state with
        | ended final =>
            simp only [wayOver, travel, advanceOver, advanced, Progress.map, Journey.upToReturn,
              legsUpToReturn, Journey.view, view_atop_ground]
        | stopped final fault =>
            simp only [wayOver, travel, advanceOver, advanced, Progress.map, Journey.upToReturn,
              legsUpToReturn, Journey.view, view_atop_ground]
        | moved next instruction =>
            rw [advanced] at advanceOver
            have goesOn (caller : Machine) : wayOver lead echo (fuel + 1) caller state =
                ((instruction, linesRead state next, next.view) :: (wayOver lead echo fuel caller next).1,
                  (wayOver lead echo fuel caller next).2) := view_of_moved caller (advanceOver caller)
            obtain ⟨callee, after, -, effect, machine, -⟩ := advance_effect advanced
            have nextPaired : next.machine.frames.length = next.machine.saved.length := by
              rw [machine]
              exact effect.paired paired
            rw [goesOn left, goesOn right, ih nextPaired]

theorem settle_map_view {left right : State} (same : left.view = right.view) (fault : Fault) :
    (settle left fault).map State.view = (settle right fault).map State.view := by
  obtain ⟨stack, ip, current, console⟩ := View.mk.inj same
  unfold settle
  cases fault.classOf with
  | stop => simp only [Turn.map, State.view, State.moveOn, State.say, stack, ip, current, console]
  | index => simp only [Turn.map, State.view, State.say, stack, ip, current, console]
  | _ => simp only [Turn.map, same]

theorem Journey.turn_map_view {left right : Journey} (same : left.view = right.view) :
    left.turn.map State.view = right.turn.map State.view := by
  obtain ⟨-, same⟩ := Prod.mk.inj same
  obtain ⟨sameState, sameHalt⟩ := Prod.mk.inj same
  unfold Journey.turn
  rw [sameHalt]
  cases right.halt with
  | stopped fault => exact settle_map_view sameState fault
  | arrived | ended | escaped | exhausted => simp only [Turn.map, sameState]

/-- The state with other variables, frames and return points in the machine. -/
def State.withMemory (state : State) (bindings : Bindings) (frames : List Bindings)
    (saved : List ReturnPoint) : State :=
  { state with machine := { state.machine with bindings, frames, saved } }

theorem callJourney_view_withMemory {state : State} {function : Function} {call : Instruction}
    (fetched : state.fetch? = some (function, call)) (isCall : call.is .call = true)
    (bindings : Bindings) (frames : List Bindings) (saved : List ReturnPoint) :
    (callJourney (state.withMemory bindings frames saved)).view = (callJourney state).view := by
  have fetchedThere : (state.withMemory bindings frames saved).fetch? = some (function, call) := fetched
  have advanced := advance_call fetched isCall "" false
  have advancedThere := advance_call fetchedThere isCall "" false
  have stackThere : (state.withMemory bindings frames saved).machine.stack = state.machine.stack := rfl
  have fuelThere : (state.withMemory bindings frames saved).settings.fuel = state.settings.fuel := rfl
  unfold callJourney runJourney
  rw [fuelThere]
  cases state.settings.fuel with
  | zero => rfl
  | succ fuel =>
      rw [stackThere] at advancedThere
      cases args : call.args with
      | cons _ _ =>
          simp only [args] at advanced advancedThere
          simp only [travel, advanced, advancedThere]
          rfl
      | nil =>
          cases operands : state.machine.stack with
          | nil =>
              simp only [args, operands] at advanced advancedThere
              simp only [travel, advanced, advancedThere]
              rfl
          | cons called stack =>
              simp only [args, operands] at advanced advancedThere
              rw [view_of_moved state.machine advanced, view_of_moved _ advancedThere]
              let entered : State := { state with machine := { stack, ip := 0, current := called } }
              let caller := (state.withMemory bindings frames saved).machine
              have sameFunction : caller.current = state.machine.current := rfl
              have samePlace : caller.ip = state.machine.ip := rfl
              have fresh : entered.machine.frames.length = entered.machine.saved.length := rfl
              have same := wayOver_eq sameFunction samePlace "" false fuel fresh
              exact congrArg (fun way => ((call, linesRead state entered, entered.view) :: way.1, way.2)) same

/-- A run that starts at a call takes the same way through the call whatever variables, frames and return
points the machine has besides: up to the matching return it carries out the same instructions on the same
lines, and after each of them operands, place and console are the same. If the call is not returned from,
a fault, a breakpoint or the end of a function cuts both runs short at the same instruction for the same
reason, and the command comes to the same answer. Frames and return points need not pair up. -/
theorem call_cannot_observe_caller (state : State) (function : Function) (call : Instruction)
    (fetched : state.fetch? = some (function, call)) (isCall : call.is .call = true)
    (bindings : Bindings) (frames : List Bindings) (saved : List ReturnPoint) (argument : List Char) :
    (callJourney (state.withMemory bindings frames saved)).view = (callJourney state).view ∧
      ((callJourney state).halt ≠ .arrived →
        (answer (state.withMemory bindings frames saved) ⟨.run, argument⟩).map State.view =
          (answer state ⟨.run, argument⟩).map State.view) := by
  have same := callJourney_view_withMemory fetched isCall bindings frames saved
  refine ⟨same, fun unreturned => ?_⟩
  have unreturnedThere : (callJourney (state.withMemory bindings frames saved)).halt ≠ .arrived := by
    intro arrived
    exact unreturned ((congrArg (·.2.2) same).symm.trans arrived)
  have whole : callJourney state = runJourney state := Journey.upToReturn_eq_self unreturned
  have wholeThere : callJourney (state.withMemory bindings frames saved) =
      runJourney (state.withMemory bindings frames saved) := Journey.upToReturn_eq_self unreturnedThere
  rw [answer_run, answer_run, ← whole, ← wholeThere]
  exact Journey.turn_map_view same

/-- At a call of a function that calls another one and then asks for a variable of its caller. -/
def prying : State where
  settings := ⟨false, true, .adaptive, 20⟩
  files := ⟨[]⟩
  machine := { stack := [.text "outer", .int 5], bindings := ⟨[(.text "x", .int 1)]⟩, ip := 1 }
  console := {}
  program := ⟨[
    (entryPoint, .linked ⟨[.of .loadConst [.text "outer"], .of .call []], .empty⟩),
    ("outer", .linked ⟨[.of .loadConst [.text "inner"], .of .call [], .of .print [],
      .of .loadVar [.text "x"], .of .ret []], .empty⟩),
    ("inner", .linked ⟨[.of .loadConst [.text "hello"], .of .ret []], .empty⟩)]⟩

/-- Six instructions succeed, and then the variable is not there, with the caller that has it and with one
that has not. -/
theorem call_cannot_observe_caller_prying :
    let other := prying.withMemory .empty [.empty] [⟨.text "inner", 3⟩]
    (callJourney prying).legs.length = 6 ∧
      (callJourney prying).halt = .stopped (.undefinedVariable (.text "x")) ∧
      (callJourney other).view = (callJourney prying).view ∧
      (answer other ⟨.run, []⟩).map State.view = (answer prying ⟨.run, []⟩).map State.view := by
  obtain ⟨sameWay, sameAnswer⟩ := call_cannot_observe_caller prying _ (.of .call []) rfl rfl .empty [.empty]
    [⟨.text "inner", 3⟩] []
  exact ⟨rfl, rfl, sameWay, sameAnswer nofun⟩

end Functions

end Debugger

end StackMachine

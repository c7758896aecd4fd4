import StackMachine.Proofs.Debugger.FlatEnding
import StackMachine.Proofs.Debugger.FlatLabels
import StackMachine.Proofs.Debugger.History
import StackMachine.Proofs.Debugger.Pairing
import StackMachine.Proofs.Machine.Likeness

/-!
What a load of the debugger for a single list leaves of what was before it. Operands and variables are taken away, and
calls that have not returned stay open. If there is none, the debugger goes on as one does that has a new machine
(`load_starts_anew_iff_no_call_open`): what is left of the machine is where it was, and the debugger does not go by
that.
-/

set_option autoImplicit false

namespace StackMachine

/-- The active function and those that wait for a call to return, the latest first. -/
def Machine.openFunctions (machine : Machine) : List Value :=
  machine.current :: machine.saved.map ReturnPoint.function

def Machine.Rooted (machine : Machine) : Prop :=
  machine.openFunctions.getLast? = some (.text entryPoint)

theorem Effect.rooted {labels : Labels} {machine after : Machine} {instruction : Instruction} {fault : Option Fault}
    (effect : Effect labels machine instruction after fault) (rooted : machine.Rooted) : after.Rooted := by
  unfold Machine.Rooted Machine.openFunctions at rooted ⊢
  cases effect with
  | failed | worked | stored | jumped => exact rooted
  | called =>
      rw [List.map_cons, List.getLast?_cons_cons]
      exact rooted
  | returned _ places | unpaired places =>
      rw [places, List.map_cons, List.getLast?_cons_cons] at rooted
      exact rooted

namespace Machine

theorem Excursion.rooted {depth : Nat} {start machine : Machine} (rooted : start.Rooted)
    (excursion : Excursion depth start machine) : machine.Rooted := by
  induction excursion with
  | start => exact rooted
  | @execute machine _ labels console instruction _ ih =>
      exact (execute_effect labels machine console instruction).rooted ih
  | moveTo _ _ ih => exact ih

/-- Without an open call the function that all began with is the active one. -/
theorem Rooted.unsaved {machine : Machine} (rooted : machine.Rooted) (paired : machine.Paired)
    (closed : machine.frames = []) : machine.saved = [] ∧ machine.current = .text entryPoint := by
  rw [Paired, closed] at paired
  have unsaved : machine.saved = [] := List.eq_nil_of_length_eq_zero paired.symm
  unfold Rooted openFunctions at rooted
  rw [unsaved] at rooted
  exact ⟨unsaved, Option.some.inj rooted⟩

end Machine

namespace Debugger

/-- Turns of the same kind whose states are related. -/
inductive Turn.Lift {σ τ : Type} (Related : σ → τ → Prop) : Turn σ → Turn τ → Prop where
  | prompt {left : σ} {right : τ} (related : Related left right) : Lift Related (.prompt left) (.prompt right)
  | returned {left : σ} {right : τ} (related : Related left right) : Lift Related (.returned left) (.returned right)
  | failed {left : σ} {right : τ} (related : Related left right) (fault : Fault) :
      Lift Related (.failed left fault) (.failed right fault)
  | exhausted {left : σ} {right : τ} (related : Related left right) :
      Lift Related (.exhausted left) (.exhausted right)

theorem Frontend.converse_lift {σ : Type} (frontend : Frontend σ) {Related : σ → σ → Prop}
    (turns : ∀ left right, Related left right → Turn.Lift Related (frontend.turn left) (frontend.turn right))
    (count : Nat) {left right : σ} (related : Related left right) :
    Related (frontend.converse count left).1 (frontend.converse count right).1 ∧
      (frontend.converse count left).2 = (frontend.converse count right).2 := by
  induction count generalizing left right with
  | zero => exact ⟨related, rfl⟩
  | succ count ih =>
      have turned := turns left right related
      rw [Frontend.converse, Frontend.converse]
      generalize frontend.turn left = first, frontend.turn right = second at turned
      cases turned with
      | prompt related => exact ih related
      | returned related | failed related | exhausted related => exact ⟨related, rfl⟩

namespace Flat

/-- A state that differs from `twin` in what has been printed and written before, and in where its machine is. -/
inductive State.Echo (past : Past) (twin : State) : State → Prop where
  | intro {machine : Machine} (alike : machine.Alike twin.machine) (unfed : twin.console.feed = none) :
      Echo past twin { twin with machine, console := twin.console.following past }

section

open State (Echo)
open Turn (Lift)

variable {past : Past} {twin state : State}

theorem State.Echo.say (echo : Echo past twin state) (line : String) : Echo past (twin.say line) (state.say line) := by
  obtain ⟨alike, unfed⟩ := echo
  exact .intro alike unfed

theorem State.Echo.moveTo (echo : Echo past twin state) {ip place : Int} (same : ip = place) :
    Echo past { twin with ip := place } { state with ip } := by
  obtain ⟨alike, unfed⟩ := echo
  subst same
  exact .intro alike unfed

theorem report_echo (echo : Echo past twin state) (printout : Printout) :
    Lift (Echo past) (twin.report printout) (state.report printout) := by
  have said : Echo past (printout.lines.foldl State.say twin) (printout.lines.foldl State.say state) := by
    generalize printout.lines = lines
    induction lines generalizing twin state with
    | nil => exact echo
    | cons line lines ih => exact ih (echo.say line)
  unfold State.report report
  cases printout.fault with
  | none => exact .prompt said
  | some fault => exact .failed said fault

theorem carryOut_echo (fresh : past.feed = none) (echo : Echo past twin state) (instruction : Instruction) :
    (state.carryOut instruction).fault = (twin.carryOut instruction).fault ∧
      Echo past (twin.after (twin.carryOut instruction)) (state.after (state.carryOut instruction)) := by
  obtain @⟨machine, alike, unfed⟩ := echo
  have stillUnfed : (twin.carryOut instruction).console.feed = none :=
    twin.machine.unfed_of_execute twin.labels unfed instruction
  have follows : machine.execute twin.labels (twin.console.following past) instruction =
      (machine.execute twin.labels twin.console instruction).following past :=
    machine.execute_following past twin.labels fun _ _ => fresh
  have executed := Machine.execute_alike alike twin.labels twin.console instruction
  change Outcome.Alike _ (twin.carryOut instruction) at executed
  change (machine.execute twin.labels (twin.console.following past) instruction).fault = _ ∧ Echo past _
    { twin with
      machine := (machine.execute twin.labels (twin.console.following past) instruction).machine
      console := (machine.execute twin.labels (twin.console.following past) instruction).console }
  rw [follows]
  generalize machine.execute twin.labels twin.console instruction = outcome, twin.carryOut instruction = other
    at executed stillUnfed
  obtain ⟨alike, console, fault⟩ := executed
  exact ⟨rfl, .intro alike stillUnfed⟩

theorem State.Echo.place (echo : Echo past twin state) : state.ip = twin.ip := by
  cases echo
  rfl

theorem State.Echo.code (echo : Echo past twin state) : state.code = twin.code := by
  cases echo
  rfl

theorem State.Echo.machine (echo : Echo past twin state) : state.machine.Alike twin.machine := by
  obtain ⟨alike, -⟩ := echo
  exact alike

theorem State.Echo.unfed (echo : Echo past twin state) : twin.console.feed = none := by
  obtain ⟨-, unfed⟩ := echo
  exact unfed

theorem State.Echo.segments (echo : Echo past twin state) :
    state.console.terminal.segments = past.segments.reverse ++ twin.console.terminal.segments := by
  cases echo
  simp only [Console.following, Terminal.segments, List.reverse_cons, List.reverse_append, List.append_assoc]

theorem settle_echo (echo : Echo past twin state) (fault : Fault) :
    Lift (Echo past) (settle twin fault) (settle state fault) := by
  unfold settle
  rw [echo.place]
  cases fault.classOf with
  | stop => exact .prompt (echo.say _)
  | index => exact .prompt (echo.say _)
  | _ => exact .failed echo fault

theorem settleCall_echo (echo : Echo past twin state) (fault : Fault) :
    Lift (Echo past) (settleCall twin fault) (settleCall state fault) := by
  unfold settleCall
  rw [echo.place]
  cases fault.classOf with
  | stop => exact .prompt (echo.say _)
  | assertion => exact .prompt (echo.say _)
  | _ => exact .failed echo fault

theorem runRest_echo (fresh : past.feed = none) (echo : Echo past twin state) (rest : List Instruction) :
    Lift (Echo past) (runRest twin rest) (runRest state rest) := by
  induction rest generalizing twin state with
  | nil => exact .prompt (echo.say _)
  | cons instruction rest ih =>
      obtain ⟨faults, after⟩ := carryOut_echo fresh echo instruction
      unfold State.carryOut at faults
      rw [runRest, runRest, faults]
      cases (twin.machine.execute twin.labels twin.console instruction).fault with
      | none =>
          exact ih (after.moveTo (congrArg (· + 1) after.place))
      | some fault => exact settle_echo after fault

theorem stepped_echo (fresh : past.feed = none) (echo : Echo past twin state) :
    state.tryStep.fault = twin.tryStep.fault ∧ Echo past twin.stepped state.stepped := by
  have executed := fun instruction =>
    carryOut_echo fresh (echo.say (announcement twin.ip instruction)) instruction
  have said := echo.say
  obtain @⟨machine, alike, unfed⟩ := echo
  -- Code and place are the twin's own, so that each split settles both steps.
  unfold State.stepped State.tryStep step
  dsimp only
  split
  · exact ⟨rfl, (said _).moveTo rfl⟩
  · split
    · exact ⟨rfl, (said _).moveTo rfl⟩
    · split
      · exact ⟨rfl, .intro alike unfed⟩
      · split
        · exact ⟨rfl, .intro alike unfed⟩
        · split
          · exact ⟨rfl, (said _).moveTo rfl⟩
          · next instruction _ _ _ =>
              obtain ⟨faults, after⟩ := executed instruction
              dsimp only [State.carryOut, State.say] at faults after
              rw [faults]
              split
              · exact ⟨rfl, after.moveTo rfl⟩
              · split
                · exact ⟨rfl, (after.say _).moveTo rfl⟩
                · exact ⟨rfl, (after.say _).moveTo rfl⟩
                · exact ⟨rfl, after.moveTo rfl⟩

theorem afterStep_echo (fresh : past.feed = none) (echo : Echo past twin state) {next : State → Turn State}
    {other : State → Turn State}
    (onward : Echo past twin.stepped state.stepped → Lift (Echo past) (other twin.stepped) (next state.stepped)) :
    Lift (Echo past) (twin.afterStep twin.tryStep other) (state.afterStep state.tryStep next) := by
  obtain ⟨faults, stepped⟩ := stepped_echo fresh echo
  cases sound : twin.tryStep.fault with
  | none =>
      rw [afterStep_of_sound sound, afterStep_of_sound (faults.trans sound)]
      exact onward stepped
  | some fault =>
      rw [afterStep_of_fault sound, afterStep_of_fault (faults.trans sound)]
      exact .failed stepped fault

theorem stepOnce_echo (fresh : past.feed = none) (echo : Echo past twin state) :
    Lift (Echo past) (stepOnce twin) (stepOnce state) :=
  afterStep_echo fresh echo .prompt

theorem stepOver_echo (fresh : past.feed = none) (echo : Echo past twin state) (depth count : Nat) :
    Lift (Echo past) (stepOver depth count twin) (stepOver depth count state) := by
  induction count generalizing twin state with
  | zero => exact .exhausted echo
  | succ count ih =>
      have found : itemAt? state.code state.ip = itemAt? twin.code twin.ip := by rw [echo.code, echo.place]
      rw [stepOver, stepOver, echo.machine.frames, found]
      split
      · exact .prompt echo
      · cases itemAt? twin.code twin.ip with
        | none => exact .prompt (echo.say _)
        | some instruction =>
            dsimp only
            split
            · rw [echo.place]
              exact .prompt (echo.say _)
            · refine afterStep_echo fresh echo ?_
              intro stepped
              rw [stepped.place, stepped.machine.frames, echo.place]
              split
              · exact .prompt stepped
              · exact ih stepped

theorem called_echo (fresh : past.feed = none) (echo : Echo past twin state) (instruction : Instruction) :
    ((state.announceOver instruction).carryOut instruction).fault =
        ((twin.announceOver instruction).carryOut instruction).fault ∧
      Echo past (twin.called instruction) (state.called instruction) := by
  have announced : Echo past (twin.announceOver instruction) (state.announceOver instruction) := by
    unfold State.announceOver
    rw [echo.place]
    exact echo.say _
  exact carryOut_echo fresh announced instruction

theorem next_echo_of_announces (fresh : past.feed = none) (echo : Echo past twin state) {instruction : Instruction}
    (announces : twin.Announces instruction) (announcesThere : state.Announces instruction) :
    Lift (Echo past) (next twin) (next state) := by
  cases isCall : instruction.is .call with
  | false =>
      rw [next_of_other announces isCall, next_of_other announcesThere isCall]
      exact stepOnce_echo fresh echo
  | true =>
      obtain ⟨faults, called⟩ := called_echo fresh echo instruction
      cases carried : ((twin.announceOver instruction).carryOut instruction).fault with
      | some fault =>
          rw [next_of_refused announces isCall carried, next_of_refused announcesThere isCall (faults.trans carried)]
          exact settleCall_echo called fault
      | none =>
          -- Both machines are set back to the same place, wherever they were.
          rw [next_of_entered announces isCall carried,
            next_of_entered announcesThere isCall (faults.trans carried), echo.machine.frames, echo.code, echo.place]
          exact stepOver_echo fresh (called.moveTo rfl) _ _

theorem next_echo (fresh : past.feed = none) (echo : Echo past twin state) :
    Lift (Echo past) (next twin) (next state) := by
  cases found : itemAt twin.code twin.ip with
  | error fault =>
      unfold next
      rw [echo.code, echo.place, found]
      split
      · exact .prompt (echo.say _)
      · split
        · exact .prompt (echo.say _)
        · exact .failed echo fault
  | ok instruction =>
      have foundThere : itemAt state.code state.ip = .ok instruction := by rw [echo.code, echo.place, found]
      cases written : instruction.printable with
      | false =>
          rw [next_of_unwritten found written, next_of_unwritten foundThere written]
          exact .failed echo .writtenTooLong
      | true => exact next_echo_of_announces fresh echo ⟨found, written⟩ ⟨foundThere, written⟩

theorem load_echo (echo : Echo past twin state) (argument : List Char) :
    Lift (Echo past) (load twin argument) (load state argument) := by
  obtain ⟨alike, unfed⟩ := echo
  unfold load
  dsimp only
  split
  · exact .failed (.intro alike unfed) _
  · split
    · exact .failed (.intro alike unfed) _
    · exact .prompt (.intro alike unfed)
    · split
      · exact .prompt (.intro alike unfed)
      · split
        · exact .prompt (.intro alike unfed)
        · refine .prompt (.intro ?_ unfed)
          exact { alike with stack := rfl, bindings := rfl }

theorem exec_echo (echo : Echo past twin state) (argument : List Char) :
    Lift (Echo past) (exec twin argument) (exec state argument) := by
  unfold exec
  split
  · exact .prompt (echo.say _)
  · split
    · exact .prompt (echo.say _)
    · exact .prompt ((echo.say _).say _)

theorem frame_echo (echo : Echo past twin state) : Lift (Echo past) (frame twin) (frame state) := by
  unfold frame inFunction
  rw [echo.machine.bindings, echo.machine.current, echo.machine.frames]
  split
  · exact report_echo echo _
  · exact .prompt (echo.say _)

theorem answer_echo (fresh : past.feed = none) (echo : Echo past twin state) (line : CommandLine) :
    Lift (Echo past) (answer twin line) (answer state line) := by
  obtain ⟨command, argument⟩ := line
  cases command with
  | quit => exact .returned (echo.say _)
  | unknown word => exact .prompt (echo.say _)
  | info => exact report_echo echo (.of ("Commands:" :: overview))
  | load => exact load_echo echo argument
  | run =>
      change Lift (Echo past) (runRest twin _) (runRest state _)
      rw [echo.code, echo.place]
      exact runRest_echo fresh echo _
  | step => exact stepOnce_echo fresh echo
  | next => exact next_echo fresh echo
  | print =>
      unfold answer inFunction
      rw [echo.machine.bindings, echo.machine.current, echo.machine.frames]
      exact report_echo echo _
  | exec => exact exec_echo echo argument
  | frame => exact frame_echo echo
  | list =>
      unfold answer
      dsimp only
      rw [echo.code, echo.place]
      split
      · exact .returned (echo.say _)
      · exact report_echo echo _
  | stack =>
      unfold answer Machine.showStack
      dsimp only
      rw [echo.machine.stack]
      exact report_echo echo _
  | memory =>
      unfold answer
      dsimp only
      rw [echo.machine.bindings]
      split
      · exact .prompt (echo.say _)
      · exact report_echo echo _

theorem read_echo (echo : Echo past twin state) :
    (frontend.read state).2 = (frontend.read twin).2 ∧ Echo past (frontend.read twin).1 (frontend.read state).1 := by
  obtain ⟨alike, unfed⟩ := echo
  have read := twin.console.readLine_following past "xvm > "
  unfold frontend
  dsimp only
  rw [read]
  exact ⟨rfl, .intro alike unfed⟩

theorem turn_echo (fresh : past.feed = none) (echo : Echo past twin state) :
    Lift (Echo past) (frontend.turn twin) (frontend.turn state) := by
  obtain ⟨results, read⟩ := read_echo echo
  unfold Frontend.turn
  generalize frontend.read twin = first, frontend.read state = second at results read
  obtain ⟨asked, result⟩ := first
  obtain ⟨askedThere, other⟩ := second
  obtain rfl : other = result := results
  cases other with
  | error fault => exact .returned (read.say _)
  | ok line =>
      dsimp only
      cases CommandLine.parse? line.toList with
      | none => exact .prompt read
      | some command => exact answer_echo fresh read command

theorem State.Echo.self (unfed : state.console.feed = none) : Echo ⟨none, [], []⟩ state state := by
  have same : state.console.following ⟨none, [], []⟩ = state.console := by
    simp only [Console.following, Option.or_none, List.nil_append, List.append_nil]
  have echo : Echo ⟨none, [], []⟩ state { state with console := state.console.following ⟨none, [], []⟩ } :=
    .intro (.refl state.machine) unfed
  rwa [same] at echo

theorem unfed_of_turn {final : State} (unfed : state.console.feed = none)
    (turned : frontend.turn state = .prompt final) : final.console.feed = none := by
  -- A state is its own twin without a past, and a twin has no feed.
  have lifted := turn_echo rfl (.self unfed)
  rw [turned] at lifted
  cases lifted with
  | prompt echo => exact echo.unfed

end

theorem rooted_of_turn {state final : State} (rooted : state.machine.Rooted)
    (turned : frontend.turn state = .prompt final) : final.machine.Rooted := by
  rcases machine_of_turn turned with excursion | cleared
  · exact excursion.rooted rooted
  · rw [cleared]
    exact rooted

section

variable {files : FileStore} {terminal : Terminal} {turns : Nat} {state : State}
  (reached : frontend.promptAfter turns (opening files terminal) = some state)
include reached

theorem unsaved_of_promptAfter (closed : state.machine.frames = []) :
    state.machine.saved = [] ∧ state.machine.current = .text entryPoint := by
  have startPaired : (opening files terminal).machine.Paired := rfl
  have startRooted : (opening files terminal).machine.Rooted := rfl
  have paired := frontend.invariant_at_every_prompt (fun _ _ => paired_of_turn) startPaired reached
  have rooted := frontend.invariant_at_every_prompt (fun _ _ => rooted_of_turn) startRooted reached
  exact rooted.unsaved paired closed

theorem unfed_of_promptAfter : state.console.feed = none := by
  have startUnfed : (opening files terminal).console.feed = none := rfl
  exact frontend.invariant_at_every_prompt (fun _ _ => unfed_of_turn) startUnfed reached

end

/-- The prompt after a load into a debugger that has just been started. -/
def freshlyLoaded (files : FileStore) (labels : Labels) (code : List Instruction) (script : List Keystroke) : State :=
  let start : State := {
    files
    machine := {}
    console := { terminal := { script } }
    code
    labels
    ip := 0 }
  start.say "File loaded succesfully"

theorem current_of_read (state : State) : (frontend.read state).1.console.terminal.current = "" := by
  obtain ⟨files, machine, ⟨feed, printed, script, finished, current⟩, code, labels, ip⟩ := state
  cases script with
  | nil => rfl
  | cons keystroke rest => cases keystroke <;> rfl

theorem echo_of_reloaded {state : State} (written : state.console.terminal.current = "")
    (unfed : state.console.feed = none) (closed : state.machine.frames = []) (unsaved : state.machine.saved = [])
    (outside : state.machine.current = .text entryPoint) (labels : Labels) (code : List Instruction) :
    State.Echo ⟨none, state.console.printed, state.console.terminal.finished⟩
      (freshlyLoaded state.files labels code state.script) (state.reloaded labels code) := by
  obtain ⟨files, machine, ⟨feed, printed, script, finished, current⟩, replaced, lagging, ip⟩ := state
  obtain rfl : current = "" := written
  obtain rfl : feed = none := unfed
  have alike : Machine.Alike { machine with stack := [], bindings := .empty } {} :=
    ⟨rfl, rfl, closed, outside, congrArg (List.map ReturnPoint.function) unsaved⟩
  have echo := @State.Echo.intro ⟨none, printed, finished⟩ (freshlyLoaded files labels code script) _ alike rfl
  simp only [freshlyLoaded, State.say, Console.writeLine, Terminal.writeLine, Terminal.write, Console.following,
    List.append_nil, Option.none_or, List.nil_append] at echo
  exact echo

/-- If no call is open, the load leaves what it leaves in a debugger that has just been started. -/
theorem Loads.echo {files : FileStore} {terminal : Terminal} {before loaded : State} {code : List Instruction}
    (loads : Loads files terminal before loaded code) (closed : before.machine.frames = []) :
    ∃ printed, State.Echo ⟨none, printed, loaded.console.terminal.finished⟩
      (freshlyLoaded files loaded.labels code loaded.script) loaded := by
  obtain ⟨labels, -, rfl⟩ := loads.reloaded
  obtain ⟨reached, -, -, -, -, -⟩ := loads
  obtain ⟨unsaved, outside⟩ := unsaved_of_promptAfter reached closed
  have sameFiles : (frontend.read before).1.files = files := files_of_promptAfter reached
  have unfed := unfed_of_promptAfter reached
  rw [← sameFiles]
  exact ⟨_, @echo_of_reloaded (frontend.read before).1 (current_of_read before) unfed closed unsaved outside
    labels code⟩

theorem inFunction_of_new {machine : Machine} (closed : machine.frames = [])
    (outside : machine.current = .text entryPoint) : inFunction machine = false := by
  unfold inFunction
  rw [closed, outside]
  decide

theorem inFunction_of_open {machine : Machine} (deep : machine.frames ≠ []) : inFunction machine = true := by
  have nonempty : machine.frames.isEmpty = false := List.isEmpty_eq_false_iff.mpr deep
  unfold inFunction
  rw [nonempty, Bool.not_false, Bool.or_true]

theorem current_of_foldl (lines : List String) (state : State) :
    ∃ more, (lines.foldl State.say state).console.terminal.current = state.console.terminal.current ++ more := by
  induction lines generalizing state with
  | nil => exact ⟨"", String.append_empty.symm⟩
  | cons line lines ih =>
      obtain ⟨more, written⟩ := ih (state.say line)
      refine ⟨line ++ "\n" ++ more, written.trans ?_⟩
      exact String.append_assoc

/-- Inside a call `frame` begins with the name of the function. -/
theorem frame_of_open {state : State} (deep : state.machine.frames ≠ []) :
    frame state ≠ .prompt (state.say "(No active frame)") := by
  unfold frame
  rw [if_pos (inFunction_of_open deep)]
  cases state.machine.current.show with
  | error fault => nofun
  | ok shown =>
      dsimp only
      generalize (if state.machine.bindings.isEmpty then _ else _ : Printout) = rest
      intro same
      obtain ⟨lines, fault⟩ := rest
      cases fault with
      | some fault => cases same
      | none =>
          have written := congrArg (fun turn : Turn State => turn.state.console.terminal.current) same
          change (([_] ++ lines).foldl State.say state).console.terminal.current = _ at written
          rw [List.singleton_append, List.foldl_cons] at written
          obtain ⟨more, current⟩ := current_of_foldl lines (state.say ("Active frame: " ++ String.ofList shown))
          have texts := congrArg String.toList (current.symm.trans written)
          change String.toList
            (state.console.terminal.current ++ ("Active frame: " ++ String.ofList shown ++ "\n") ++ more) =
            String.toList (state.console.terminal.current ++ ("(No active frame)" ++ "\n")) at texts
          -- Behind what was there before, the two texts differ in their first character.
          simp only [String.toList_append, List.append_assoc, List.append_cancel_left_eq] at texts
          simp at texts

/-- A load takes operands and variables away, and leaves every call open that has not returned. So the machine is a new
one, up to where it is, if and only if no call was open, and `frame` shows whether one was. If none was, what is written
from there on is the same, segment by segment, as with a debugger that has just been started, and so is the end. -/
theorem load_starts_anew_iff_no_call_open (files : FileStore) (terminal : Terminal) (before loaded : State)
    (code : List Instruction) (loads : Loads files terminal before loaded code) :
    loaded.machine = { before.machine with stack := [], bindings := .empty } ∧
    (loaded.machine.Alike {} ↔ before.machine.frames = []) ∧
    (frame loaded = .prompt (loaded.say "(No active frame)") ↔ before.machine.frames = []) ∧
    (before.machine.frames = [] → ∀ turns,
      let kept := frontend.converse turns loaded
      let anew := frontend.converse turns (freshlyLoaded files loaded.labels code loaded.script)
      kept.1.console.terminal.segments =
          loaded.console.terminal.finished.reverse ++ anew.1.console.terminal.segments ∧
        kept.2 = anew.2 ∧ kept.1.machine.Alike anew.1.machine ∧ kept.1.ip = anew.1.ip) := by
  have cleared : loaded.machine = { before.machine with stack := [], bindings := .empty } := by
    obtain ⟨labels, -, rfl⟩ := loads.reloaded
    rfl
  have sameFrames : loaded.machine.frames = before.machine.frames := by rw [cleared]
  refine ⟨cleared, ⟨?_, ?_⟩, ⟨?_, ?_⟩, ?_⟩
  · intro alike
    exact sameFrames.symm.trans alike.frames
  · intro closed
    obtain ⟨printed, echo⟩ := loads.echo closed
    exact echo.machine
  · intro shown
    by_contra deep
    rw [← sameFrames] at deep
    exact frame_of_open deep shown
  · intro closed
    obtain ⟨printed, echo⟩ := loads.echo closed
    have outside : inFunction loaded.machine = false := inFunction_of_new echo.machine.frames echo.machine.current
    unfold frame
    rw [outside]
    rfl
  · intro closed turns kept anew
    obtain ⟨printed, echo⟩ := loads.echo closed
    obtain ⟨related, endings⟩ := frontend.converse_lift (fun _ _ => turn_echo rfl) turns echo
    exact ⟨related.segments, endings.symm, related.machine, related.place⟩

def callingLists : FileStore :=
  FileStore.add (FileStore.add ⟨[]⟩ "open" (String.toUTF8 "LOAD_CONST f\nCALL").toList) "closed"
    (String.toUTF8 "LOAD_CONST 1\nSTORE_VAR x\nLOAD_CONST f\nCALL\nRET\nLOAD_VAR x\nPRINT\nLOAD_CONST 2").toList

def closedTerminal : Terminal :=
  { script := [.line "load closed", .line "run", .line "load open", .line "next", .line "frame", .line "print x"] }

def openTerminal : Terminal :=
  { script := [.line "load open", .line "run", .line "load open", .line "frame"] }

theorem exists_read {text : List Char} (readable : (Listing.read text).toOption.isSome = true) :
    ∃ code, Listing.read text = .ok code := by
  obtain ⟨code, read⟩ := Option.isSome_iff_exists.mp readable
  exact ⟨code, eq_ok_of_toOption read⟩

/-- A call has been made and has returned, and a number is still on the stack and another one in a variable. -/
theorem load_starts_anew_iff_no_call_open_closed :
    ∃ before loaded code, Loads callingLists closedTerminal before loaded code ∧
      before.machine.frames = [] ∧ before.machine.stack.length = 1 ∧ before.machine.bindings.entries.length = 1 ∧
      loaded.machine.Alike {} ∧ frame loaded = .prompt (loaded.say "(No active frame)") ∧
      ∀ turns,
        let kept := frontend.converse turns loaded
        let anew := frontend.converse turns (freshlyLoaded callingLists loaded.labels code loaded.script)
        kept.1.console.terminal.segments =
            loaded.console.terminal.finished.reverse ++ anew.1.console.terminal.segments ∧
          kept.2 = anew.2 ∧ kept.1.machine.Alike anew.1.machine ∧ kept.1.ip = anew.1.ip := by
  obtain ⟨code, read⟩ := @exists_read "LOAD_CONST f\nCALL".toList (by decide +kernel)
  obtain ⟨before, loaded, loads, seen⟩ := @loads_of_shown callingLists closedTerminal 2 "open".toList _
    (0, 1, 1) (String.toUTF8 "LOAD_CONST f\nCALL").toList "LOAD_CONST f\nCALL".toList code
    (fun before _ => (before.machine.frames.length, before.machine.stack.length,
      before.machine.bindings.entries.length))
    (by decide +kernel) (by decide +kernel) (by decide +kernel) read
  obtain ⟨noFrame, seen⟩ := Prod.mk.inj seen
  obtain ⟨operands, stored⟩ := Prod.mk.inj seen
  have closed : before.machine.frames = [] := List.eq_nil_of_length_eq_zero noFrame
  obtain ⟨-, anew, shown, onward⟩ :=
    load_starts_anew_iff_no_call_open callingLists closedTerminal before loaded code loads
  exact ⟨before, loaded, code, loads, closed, operands, stored, anew.mpr closed, shown.mpr closed, onward closed⟩

theorem load_leaves_call_open :
    ¬ ∀ (files : FileStore) (terminal : Terminal) (before loaded : State) (code : List Instruction),
      Loads files terminal before loaded code → loaded.machine.Alike {} := by
  intro new
  obtain ⟨code, read⟩ := @exists_read "LOAD_CONST f\nCALL".toList (by decide +kernel)
  obtain ⟨before, loaded, loads, frames⟩ := @loads_of_shown callingLists openTerminal 2 "open".toList _
    1 (String.toUTF8 "LOAD_CONST f\nCALL").toList "LOAD_CONST f\nCALL".toList code
    (fun _ loaded => loaded.machine.frames.length) (by decide +kernel) (by decide +kernel) (by decide +kernel) read
  have alike := new callingLists openTerminal before loaded code loads
  rw [alike.frames] at frames
  cases frames

end Flat

end Debugger

end StackMachine

import Mathlib.Data.List.TakeWhile
import StackMachine.Proofs.Debugger.FlatEnding
import StackMachine.Proofs.Debugger.FlatLabels

/-!
Resuming a run of the debugger for a single list. A run that is stopped by a breakpoint leaves the debugger's place at
that breakpoint, so that the next run begins with it and is stopped again. However often `run` is given, it does not
get past the first breakpoint (`run_stuck_at_breakpoint`); only `step` and `next` do.
-/

set_option autoImplicit false

namespace StackMachine

/-- Whether instructions can be carried out one after the other without a fault. -/
def Machine.carriesOut (labels : Labels) (machine : Machine) (console : Console) : List Instruction → Bool
  | [] => true
  | instruction :: rest =>
    let outcome := machine.execute labels console instruction
    outcome.fault.isNone && outcome.machine.carriesOut labels outcome.console rest

namespace Debugger.Flat

/-- The instructions from the debugger's place on. -/
def State.left (state : State) : List Instruction :=
  state.code.drop state.ip.toNat

def State.atBreakpoint (state : State) : Bool :=
  state.left.head?.any (·.is .breakpoint)

/-- The instructions up to the next breakpoint. -/
def State.stretch (state : State) : List Instruction :=
  state.left.takeWhile fun instruction => !instruction.is .breakpoint

/-- Whether the instructions up to the next breakpoint can be carried out. -/
def State.unfailing (state : State) : Bool :=
  state.machine.carriesOut state.labels state.console state.stretch

def State.breakpointsLeft (state : State) : Nat :=
  state.left.countP (·.is .breakpoint)

section

variable {state : State}

theorem left_of_atBreakpoint (here : state.atBreakpoint = true) :
    ∃ breakpoint rest, state.left = breakpoint :: rest ∧ breakpoint.is .breakpoint = true := by
  unfold State.atBreakpoint at here
  cases left : state.left with
  | nil => simp [left] at here
  | cons instruction rest =>
      rw [left, List.head?_cons, Option.any_some] at here
      exact ⟨instruction, rest, rfl, here⟩

theorem announces_of_atBreakpoint (natural : 0 ≤ state.ip) (printable : state.Printable)
    (here : state.atBreakpoint = true) :
    ∃ breakpoint, state.Announces breakpoint ∧ breakpoint.is .breakpoint = true := by
  obtain ⟨breakpoint, rest, left, isBreakpoint⟩ := left_of_atBreakpoint here
  have found : itemAt state.code state.ip = .ok breakpoint := by
    apply itemAt_of_getElem? natural
    rw [← List.head?_drop]
    exact congrArg List.head? left
  exact ⟨breakpoint, ⟨found, printable breakpoint (mem_of_itemAt found)⟩, isBreakpoint⟩

theorem run_at_breakpoint (here : state.atBreakpoint = true) :
    run state = .prompt ((state.say "[Breakpoint reached]").say
      ("Stopped at instruction " ++ toString state.ip ++ " (BREAKPOINT)")) := by
  obtain ⟨breakpoint, rest, left, isBreakpoint⟩ := left_of_atBreakpoint here
  change runRest state state.left = _
  rw [left, runRest, Machine.execute_breakpoint isBreakpoint]
  rfl

theorem run_at_end (ended : state.left = []) : run state = .prompt (state.say "End of program reached.") := by
  change runRest state state.left = _
  rw [ended, runRest]

/-- At a breakpoint and behind the last instruction a run does nothing but write. -/
theorem run_rests (rests : state.atBreakpoint = true ∨ state.left = []) :
    ∃ console, run state = .prompt { state with console } := by
  rcases rests with here | ended
  · exact ⟨_, run_at_breakpoint here⟩
  · exact ⟨_, run_at_end ended⟩

theorem stepOnce_at_breakpoint (natural : 0 ≤ state.ip) (printable : state.Printable)
    (here : state.atBreakpoint = true) :
    ∃ console, stepOnce state = .prompt { state with ip := state.ip + 1, console } := by
  obtain ⟨breakpoint, ⟨found, written⟩, isBreakpoint⟩ := announces_of_atBreakpoint natural printable here
  obtain ⟨loaded, unended⟩ := within_of_itemAt found
  refine ⟨state.console.writeLine (announcement state.ip breakpoint ++ "  # BREAKPOINT consumed"), ?_⟩
  unfold stepOnce step
  rw [if_neg loaded, if_neg unended, found]
  dsimp only
  rw [written, if_pos isBreakpoint]
  rfl

theorem next_at_breakpoint (natural : 0 ≤ state.ip) (printable : state.Printable)
    (here : state.atBreakpoint = true) : next state = stepOnce state := by
  obtain ⟨breakpoint, announces, isBreakpoint⟩ := announces_of_atBreakpoint natural printable here
  exact next_of_other announces (Instruction.is_eq_false_of_is isBreakpoint (by decide))

theorem runs_rest {turns : Nat} {later : State} (rests : state.atBreakpoint = true ∨ state.left = [])
    (reached : frontend.promptAfter turns state = some later)
    (runs : ∀ line ∈ frontend.commands turns state, line.command = .run) :
    ∃ console, later = { state with console } := by
  have kept : ∀ before after : State, (∃ console, before = { state with console }) →
      (∀ line, frontend.command? before = some line → line.command = .run) →
      frontend.turn before = .prompt after → ∃ console, after = { state with console } := by
    rintro before after ⟨console, rfl⟩ onlyRun turned
    rcases frontend.answer_of_turn turned with rfl | ⟨⟨command, argument⟩, given, answered⟩
    · exact ⟨_, rfl⟩
    · obtain rfl : command = .run := onlyRun _ given
      have ran : run (frontend.read { state with console }).1 = .prompt after := answered
      have restsThere : (frontend.read { state with console }).1.atBreakpoint = true ∨
          (frontend.read { state with console }).1.left = [] := rests
      obtain ⟨written, same⟩ := run_rests restsThere
      exact ⟨written, (Turn.prompt.inj (same.symm.trans ran)).symm⟩
  exact frontend.invariant_at_prompt kept ⟨state.console, rfl⟩ runs reached

/-- A run goes over instructions that can be carried out. -/
theorem runRest_of_carriesOut {first : List Instruction}
    (carries : state.machine.carriesOut state.labels state.console first = true) (rest : List Instruction) :
    ∃ machine console, runRest state (first ++ rest) =
      runRest { state with machine, console, ip := state.ip + first.length } rest := by
  induction first generalizing state with
  | nil => exact ⟨state.machine, state.console, by simp⟩
  | cons instruction first ih =>
      rw [Machine.carriesOut, Bool.and_eq_true, Option.isNone_iff_eq_none] at carries
      obtain ⟨carried, onward⟩ := carries
      let next : State := { state.after (state.carryOut instruction) with ip := state.ip + 1 }
      obtain ⟨machine, console, ran⟩ := @ih next onward
      refine ⟨machine, console, ?_⟩
      rw [List.cons_append, runRest, carried]
      refine ran.trans ?_
      have place : next.ip + first.length = state.ip + (instruction :: first).length := by
        change state.ip + 1 + _ = _
        rw [List.length_cons]
        omega
      rw [place]
      rfl

theorem head_of_dropWhile (code : List Instruction) :
    (code.dropWhile fun instruction => !instruction.is .breakpoint).head?.any (·.is .breakpoint) = true ∨
      (code.dropWhile fun instruction => !instruction.is .breakpoint) = [] := by
  cases dropped : code.dropWhile fun instruction => !instruction.is .breakpoint with
  | nil => exact .inr rfl
  | cons instruction rest =>
      have first := List.head?_dropWhile_not (fun instruction : Instruction => !instruction.is .breakpoint) code
      rw [dropped] at first
      refine .inl ?_
      simpa using first

theorem left_behind_stretch (natural : 0 ≤ state.ip) :
    State.left { state with ip := state.ip + state.stretch.length } =
      state.left.dropWhile fun instruction => !instruction.is .breakpoint := by
  have place : (state.ip + state.stretch.length).toNat = state.ip.toNat + state.stretch.length := by omega
  have split : state.stretch ++ (state.left.dropWhile fun instruction => !instruction.is .breakpoint) = state.left :=
    List.takeWhile_append_dropWhile
  calc
    state.code.drop (state.ip + state.stretch.length).toNat = state.left.drop state.stretch.length := by
      rw [place, ← List.drop_drop]
      rfl
    _ = state.left.dropWhile fun instruction => !instruction.is .breakpoint := by
      rw [← split, List.drop_left, split]

/-- A run whose instructions up to the next breakpoint can be carried out comes to rest at that breakpoint, or behind
the last instruction if there is none. -/
theorem run_of_unfailing (natural : 0 ≤ state.ip) (unfailing : state.unfailing = true) :
    ∃ stopped, run state = .prompt stopped ∧ (stopped.atBreakpoint = true ∨ stopped.left = []) ∧
      (stopped.left = [] ↔ state.breakpointsLeft = 0) := by
  obtain ⟨machine, console, ran⟩ := runRest_of_carriesOut unfailing
    (state.left.dropWhile fun instruction => !instruction.is .breakpoint)
  -- What is left to run is the run of the state at that place, and it rests there.
  let stopped : State := { state with machine, console, ip := state.ip + state.stretch.length }
  have left : stopped.left = state.left.dropWhile fun instruction => !instruction.is .breakpoint :=
    left_behind_stretch natural
  have rests := head_of_dropWhile state.left
  rw [← left] at rests
  obtain ⟨written, rested⟩ := @run_rests stopped rests
  have split : state.stretch ++ stopped.left = state.left := by
    rw [left]
    exact List.takeWhile_append_dropWhile
  have resumed : run state = run stopped := by
    rw [← left, split] at ran
    exact ran
  refine ⟨{ stopped with console := written }, resumed.trans rested, rests, ?_⟩
  change stopped.left = [] ↔ _
  rw [left, State.breakpointsLeft, List.countP_eq_zero, List.dropWhile_eq_nil_iff]
  simp

end

theorem natural_of_promptAfter {files : FileStore} {terminal : Terminal} {turns : Nat} {state : State}
    (reached : frontend.promptAfter turns (opening files terminal) = some state) : 0 ≤ state.ip := by
  have kept : ∀ before after : State, 0 ≤ before.ip → frontend.turn before = .prompt after → 0 ≤ after.ip := by
    intro before after natural turned
    have place := (turn_onward natural).1.place
    rwa [turned] at place
  exact frontend.invariant_at_every_prompt kept (Int.le_refl 0) reached

/-- A run that stops at a breakpoint stays there. However many runs follow, nothing but the console changes, and each
of them stops where the first one did; a step passes over the breakpoint. So if the instructions up to the next
breakpoint can be carried out, one run or more get to the end of the code if and only if no breakpoint is left. -/
theorem run_stuck_at_breakpoint (files : FileStore) (terminal : Terminal) (turns : Nat) (before : State)
    (argument : List Char) (reached : frontend.promptAfter turns (opening files terminal) = some before)
    (given : frontend.command? before = some ⟨.run, argument⟩) :
    let asked := (frontend.read before).1
    (∀ stopped, frontend.turn before = .prompt stopped → stopped.atBreakpoint = true →
      ∀ more later, frontend.promptAfter more stopped = some later →
        (∀ line ∈ frontend.commands more stopped, line.command = .run) →
        (∃ console, later = { stopped with console }) ∧
        ∀ line, frontend.command? later = some line →
          (line.command = .run → frontend.turn later =
            .prompt (((frontend.read later).1.say "[Breakpoint reached]").say
              ("Stopped at instruction " ++ toString stopped.ip ++ " (BREAKPOINT)"))) ∧
          (line.command = .step ∨ line.command = .next →
            ∃ console, frontend.turn later = .prompt { stopped with ip := stopped.ip + 1, console })) ∧
    (asked.unfailing = true →
      (∃ stopped, frontend.turn before = .prompt stopped) ∧
      ∀ more last, frontend.promptAfter (more + 1) before = some last →
        (∀ line ∈ frontend.commands (more + 1) before, line.command = .run) →
        (last.left = [] ↔ asked.breakpointsLeft = 0)) := by
  intro asked
  have turned : frontend.turn before = run asked := frontend.turn_of_command? given
  constructor
  · intro stopped stops here more later onward runs
    have there := frontend.promptAfter_succ reached stops
    have natural : 0 ≤ stopped.ip := natural_of_promptAfter there
    have printable : stopped.Printable := printable_of_promptAfter there
    obtain ⟨console, rfl⟩ := runs_rest (.inl here) onward runs
    refine ⟨⟨console, rfl⟩, ?_⟩
    rintro ⟨command, argument⟩ goesOn
    rw [frontend.turn_of_command? goesOn]
    let again : State := (frontend.read { stopped with console }).1
    have hereAgain : again.atBreakpoint = true := here
    constructor
    · rintro rfl
      exact run_at_breakpoint hereAgain
    · rintro (rfl | rfl)
      · exact @stepOnce_at_breakpoint again natural printable hereAgain
      · change ∃ console, next again = _
        rw [@next_at_breakpoint again natural printable hereAgain]
        exact @stepOnce_at_breakpoint again natural printable hereAgain
  · intro unfailing
    have natural := natural_of_promptAfter reached
    change 0 ≤ asked.ip at natural
    obtain ⟨stopped, ran, rests, ended⟩ := run_of_unfailing natural unfailing
    rw [← turned] at ran
    refine ⟨⟨stopped, ran⟩, ?_⟩
    intro more last onward runs
    rw [Frontend.promptAfter, ran] at onward
    rw [Frontend.commands, ran] at runs
    obtain ⟨console, rfl⟩ := runs_rest rests onward (fun line among => runs line (List.mem_append_right _ among))
    exact ended

def stuckFiles : FileStore :=
  FileStore.add ⟨[]⟩ "p" (String.toUTF8 "LOAD_CONST 1\nBREAKPOINT\nPRINT").toList

def stuckTerminal : Terminal :=
  { script := [.line "load p", .line "run", .line "run", .line "run", .line "step"] }

/-- Three runs do not get past the one breakpoint of a code list, and a step does. -/
theorem run_stuck_at_breakpoint_thrice :
    ∃ before stopped later, frontend.promptAfter 1 (opening stuckFiles stuckTerminal) = some before ∧
      frontend.command? before = some ⟨.run, []⟩ ∧ frontend.turn before = .prompt stopped ∧
      stopped.atBreakpoint = true ∧ frontend.promptAfter 2 stopped = some later ∧
      (∀ line ∈ frontend.commands 2 stopped, line.command = .run) ∧
      (∃ console, later = { stopped with console }) ∧
      (∃ console, frontend.turn later = .prompt { stopped with ip := stopped.ip + 1, console }) ∧
      (frontend.read before).1.unfailing = true ∧ (frontend.read before).1.breakpointsLeft = 1 ∧
      later.left ≠ [] := by
  have shown : ((frontend.promptAfter 1 (opening stuckFiles stuckTerminal)).bind fun before =>
      (frontend.promptAfter 1 before).bind fun stopped => (frontend.promptAfter 2 stopped).map fun later =>
        ((frontend.command? before, stopped.atBreakpoint, frontend.commands 2 stopped, frontend.command? later),
          (frontend.read before).1.unfailing, (frontend.read before).1.breakpointsLeft, frontend.commands 3 before)) =
      some ((some ⟨.run, []⟩, true, [⟨.run, []⟩, ⟨.run, []⟩], some ⟨.step, []⟩), true, 1,
        [⟨.run, []⟩, ⟨.run, []⟩, ⟨.run, []⟩]) := by decide +kernel
  obtain ⟨before, reached, rest⟩ := Option.bind_eq_some_iff.mp shown
  obtain ⟨stopped, turned, rest⟩ := Option.bind_eq_some_iff.mp rest
  obtain ⟨later, onward, rest⟩ := Option.map_eq_some_iff.mp rest
  obtain ⟨seen, rest⟩ := Prod.mk.inj rest
  obtain ⟨given, seen⟩ := Prod.mk.inj seen
  obtain ⟨here, seen⟩ := Prod.mk.inj seen
  obtain ⟨commands, goesOn⟩ := Prod.mk.inj seen
  obtain ⟨unfailing, rest⟩ := Prod.mk.inj rest
  obtain ⟨count, allCommands⟩ := Prod.mk.inj rest
  have stops := frontend.turn_of_promptAfter turned
  have runs : ∀ line ∈ frontend.commands 2 stopped, line.command = .run := by
    rw [commands]
    decide
  have allRuns : ∀ line ∈ frontend.commands (2 + 1) before, line.command = .run := by
    rw [allCommands]
    decide
  have allOnward : frontend.promptAfter (2 + 1) before = some later := by
    rw [Frontend.promptAfter, stops]
    exact onward
  obtain ⟨stuck, ends⟩ := run_stuck_at_breakpoint stuckFiles stuckTerminal 1 before [] reached given
  obtain ⟨same, after⟩ := stuck stopped stops here 2 later onward runs
  have ended := (ends unfailing).2 2 later allOnward allRuns
  refine ⟨before, stopped, later, reached, given, stops, here, onward, runs, same, ?_, unfailing, count, ?_⟩
  · exact (after ⟨.step, []⟩ goesOn).2 (.inl rfl)
  · intro nothingLeft
    have none := ended.mp nothingLeft
    omega

theorem second_run_without_progress :
    ¬ ∀ (files : FileStore) (terminal : Terminal) (turns : Nat) (before stopped again : State),
      frontend.promptAfter turns (opening files terminal) = some before →
      frontend.command? before = some ⟨.run, []⟩ → frontend.turn before = .prompt stopped →
      stopped.atBreakpoint = true → frontend.command? stopped = some ⟨.run, []⟩ →
      frontend.turn stopped = .prompt again →
      stopped.ip < again.ip ∨ "End of program reached.\n".toList <:+ again.console.terminal.current.toList := by
  intro progress
  have shown : ((frontend.promptAfter 1 (opening stuckFiles stuckTerminal)).bind fun before =>
      (frontend.promptAfter 1 before).bind fun stopped => (frontend.promptAfter 1 stopped).map fun again =>
        (frontend.command? before, stopped.atBreakpoint, frontend.command? stopped, decide (stopped.ip < again.ip),
          decide ("End of program reached.\n".toList <:+ again.console.terminal.current.toList))) =
      some (some ⟨.run, []⟩, true, some ⟨.run, []⟩, false, false) := by decide +kernel
  obtain ⟨before, reached, rest⟩ := Option.bind_eq_some_iff.mp shown
  obtain ⟨stopped, turned, rest⟩ := Option.bind_eq_some_iff.mp rest
  obtain ⟨again, onward, rest⟩ := Option.map_eq_some_iff.mp rest
  obtain ⟨given, rest⟩ := Prod.mk.inj rest
  obtain ⟨here, rest⟩ := Prod.mk.inj rest
  obtain ⟨goesOn, rest⟩ := Prod.mk.inj rest
  obtain ⟨still, unended⟩ := Prod.mk.inj rest
  rcases progress stuckFiles stuckTerminal 1 before stopped again reached given (frontend.turn_of_promptAfter turned)
    here goesOn (frontend.turn_of_promptAfter onward) with moved | ended
  · exact of_decide_eq_false still moved
  · exact of_decide_eq_false unended ended

end Debugger.Flat

end StackMachine

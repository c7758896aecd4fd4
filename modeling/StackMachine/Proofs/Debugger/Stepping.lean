import StackMachine.Proofs.Debugger.Journey
import StackMachine.Proofs.Machine.Naming

/-!
Running is repeated stepping. The two commands are written apart: they announce, ask and treat
breakpoints in ways of their own. Still, each leg of a run is what one `step` does that finds the lines
of that leg at the terminal, so that a journey can be retraced command by command. Only `step` announces,
so all this is about programs whose instructions can be written, as those are that have been read.
-/

set_option autoImplicit false

namespace StackMachine.Debugger

/-- The state after a number of turns, if every one of them comes back to the prompt. -/
def Frontend.promptAfter {σ : Type} (frontend : Frontend σ) : Nat → σ → Option σ
  | 0, state => some state
  | turns + 1, state =>
    match frontend.turn state with
    | .prompt next => frontend.promptAfter turns next
    | _ => none

theorem Frontend.promptAfter_succ {σ : Type} (frontend : Frontend σ) {turns : Nat}
    {state middle last : σ} (before : frontend.promptAfter turns state = some middle)
    (turned : frontend.turn middle = .prompt last) :
    frontend.promptAfter (turns + 1) state = some last := by
  induction turns generalizing state with
  | zero =>
      obtain rfl := Option.some.inj before
      simp only [Frontend.promptAfter, turned]
  | succ turns ih =>
      rw [Frontend.promptAfter] at before ⊢
      cases first : frontend.turn state with
      | prompt next => exact ih (by simpa only [first] using before)
      | returned | failed | exhausted => simp [first] at before

theorem Frontend.turn_of_promptAfter {σ : Type} (frontend : Frontend σ) {state next : σ}
    (reached : frontend.promptAfter 1 state = some next) : frontend.turn state = .prompt next := by
  rw [Frontend.promptAfter] at reached
  cases turned : frontend.turn state with
  | prompt middle =>
      simp only [turned, Frontend.promptAfter, Option.some.injEq] at reached
      rw [reached]
  | returned | failed | exhausted => simp [turned] at reached

namespace Functions

/-- A waiting command line is read and answered. -/
theorem turn_of_line (state : State) {line : String} {rest : List Keystroke} {command : CommandLine}
    (waiting : state.script = .line line :: rest)
    (parsed : CommandLine.parse? line.toList = some command) :
    ∃ read : Terminal, read.script = rest ∧
      frontend.turn state = answer (state.onTerminal read) command := by
  rcases state.console.terminal.read_cases (if state.settings.interactive then "xvm > " else "")
    with ⟨after, other, read, script⟩ | ⟨_, _, _, _, unwaiting⟩
  · obtain ⟨same, left⟩ := List.cons.inj (script.symm.trans waiting)
    cases same
    refine ⟨after, left, ?_⟩
    simp only [Frontend.turn, frontend, Console.readLine, State.onTerminal, read, parsed]
  · exact absurd waiting (unwaiting _ _)

theorem State.printable_of_fetch? {state : State} {function : Function} {instruction : Instruction}
    (printable : state.program.Printable) (fetched : state.fetch? = some (function, instruction)) :
    instruction.printable = true := by
  obtain ⟨active, -, found⟩ := State.fetch?_eq_some fetched
  exact printable _ function active instruction (mem_of_itemAt found)

/-- A waiting `step` is read, and the instruction at the instruction pointer is stepped into. -/
private theorem turn_of_fetch? {state : State} {function : Function} {instruction : Instruction}
    (printable : state.program.Printable) (fetched : state.fetch? = some (function, instruction))
    {terminal : Terminal} {rest : List Keystroke} (waiting : terminal.script = .line "step" :: rest) :
    ∃ read : Terminal, read.script = rest ∧
      frontend.turn (state.onTerminal terminal) =
        stepInto (state.onTerminal read) function instruction := by
  have parsed : CommandLine.parse? "step".toList = some ⟨.step, []⟩ := by decide
  obtain ⟨active, inside, found⟩ := State.fetch?_eq_some fetched
  have loaded := State.program_of_fetch? fetched
  have notPast : ¬ (function.instructions.length : Int) ≤ state.machine.ip := by omega
  have announced := state.printable_of_fetch? printable fetched
  have stepped : ∀ read : Terminal, step (state.onTerminal read) false =
      stepInto (state.onTerminal (read.writeLine "")) function instruction := by
    intro read
    simp only [step, State.program_onTerminal, State.active_onTerminal, State.machine_onTerminal,
      loaded, active, notPast, found, announced, Bool.not_true, Bool.false_and, Bool.false_eq_true, if_false]
    rfl
  obtain ⟨read, script, answered⟩ := turn_of_line (state.onTerminal terminal) waiting parsed
  exact ⟨read.writeLine "", script, answered.trans (stepped read)⟩

private theorem stepInto_of_ask (state : State) {asked : State} {function : Function}
    {instruction : Instruction} (noBreakpoint : instruction.is .breakpoint = false)
    (asks : ask (state.say (announcement state.machine.ip instruction)) "\n" false instruction =
      (asked, none))
    (carried : (asked.execute function instruction).fault = none) :
    stepInto state function instruction =
      .prompt (asked.after (asked.execute function instruction)).moveOn := by
  simp only [stepInto, noBreakpoint, Bool.false_eq_true, if_false, asks, carried]

/-- One leg: a `step` that is fed the lines of the leg comes to the same state, terminal apart. -/
theorem turn_of_moved {lead : String} {echo : Bool} {state next : State} {instruction : Instruction}
    (printable : state.program.Printable) (moved : advance lead echo state = .moved next instruction)
    {terminal : Terminal} {rest : List Keystroke}
    (waiting : terminal.script = .line "step" :: (linesRead state next ++ rest)) :
    ∃ written : Terminal, written.script = rest ∧
      frontend.turn (state.onTerminal terminal) = .prompt (next.onTerminal written) := by
  obtain ⟨function, asked, fetched, asks, carried, rfl⟩ := advance_moved moved
  have fed := feed_of_ask asks
  have noBreakpoint : instruction.is .breakpoint = false := by
    cases isBreakpoint : instruction.is .breakpoint with
    | false => rfl
    | true =>
        rw [State.execute, Machine.execute_breakpoint isBreakpoint] at carried
        cases carried
  -- Carrying out the instruction reads nothing more, so all lines of the leg go to the question.
  have lines : linesRead state (asked.after (asked.execute function instruction)).moveOn =
      linesRead state asked := by
    have script := Machine.execute_script function.labels asked.machine fed
    simp only [linesRead, State.script, State.moveOn, State.after, State.execute, script]
  rw [lines] at waiting
  obtain ⟨read, readScript, turned⟩ := turn_of_fetch? printable fetched waiting
  have announced : (read.writeLine (announcement state.machine.ip instruction)).script =
      linesRead state asked ++ rest := readScript
  obtain ⟨answered, answeredScript, askedThere⟩ := ask_onTerminal asks announced "\n" false
  obtain ⟨written, writtenScript, executed⟩ :=
    Machine.execute_onTerminal function.labels asked.machine fed answered
  have executedThere : (asked.onTerminal answered).execute function instruction =
      ⟨(asked.execute function instruction).machine,
        { (asked.execute function instruction).console with terminal := written },
        (asked.execute function instruction).fault⟩ := executed
  have carriedThere : ((asked.onTerminal answered).execute function instruction).fault = none := by
    rw [executedThere]
    exact carried
  refine ⟨written, writtenScript.trans answeredScript, ?_⟩
  rw [turned, stepInto_of_ask (state.onTerminal read) noBreakpoint askedThere carriedThere,
    executedThere]
  rfl

/-- A breakpoint is passed over by a `step` as it is by the run that it stops. -/
theorem turn_of_breakpoint {lead : String} {echo : Bool} {state stopped : State}
    (printable : state.program.Printable) (met : advance lead echo state = .stopped stopped .breakpoint)
    {terminal : Terminal} {rest : List Keystroke} (waiting : terminal.script = .line "step" :: rest) :
    ∃ written : Terminal, written.script = rest ∧
      frontend.turn (state.onTerminal terminal) = .prompt (state.moveOn.onTerminal written) ∧
      state.moveOn.machine = stopped.moveOn.machine := by
  obtain ⟨function, instruction, fetched, isBreakpoint, unchanged, -⟩ := advance_breakpoint met
  obtain ⟨read, readScript, turned⟩ := turn_of_fetch? printable fetched waiting
  refine ⟨read.writeLine (announcement state.machine.ip instruction ++ "  # BREAKPOINT consumed"),
    readScript, ?_, ?_⟩
  · rw [turned, stepInto, if_pos isBreakpoint]
    rfl
  · simp only [State.moveOn, unchanged]

/-- The lines that retrace legs: for each a `step` and what was read in it. -/
def stepLines (legs : List Leg) : List Keystroke :=
  legs.flatMap fun leg => .line "step" :: leg.fed

theorem promptAfter_of_moves {lead : String} {echo : Bool} {state last : State} {legs : List Leg}
    (printable : state.program.Printable) (moves : Moves lead echo state legs last) (terminal : Terminal)
    (rest : List Keystroke) (waiting : terminal.script = stepLines legs ++ rest) :
    ∃ written : Terminal, written.script = rest ∧
      frontend.promptAfter legs.length (state.onTerminal terminal) =
        some (last.onTerminal written) := by
  induction moves generalizing terminal with
  | refl => exact ⟨terminal, waiting, rfl⟩
  | cons moved moves ih =>
      obtain ⟨-, -, -, -, -, program⟩ := advance_effect moved
      obtain ⟨written, script, turned⟩ := turn_of_moved printable moved (by simpa [stepLines] using waiting)
      obtain ⟨final, finalScript, stepped⟩ := ih (program ▸ printable) written script
      exact ⟨final, finalScript, by simp only [List.length_cons, Frontend.promptAfter, turned, stepped]⟩

def Halt.atBreakpoint : Halt → Bool
  | .stopped .breakpoint => true
  | _ => false

namespace Journey

/-- How many instructions a journey took, a breakpoint at its end counted. -/
def count (journey : Journey) : Nat :=
  journey.legs.length + if journey.halt.atBreakpoint then 1 else 0

def fed (journey : Journey) : List Keystroke :=
  journey.legs.flatMap Leg.fed

/-- The lines that retrace a journey: a `step` for each instruction, with what was read for it. -/
def retrace (journey : Journey) : List Keystroke :=
  stepLines journey.legs ++ if journey.halt.atBreakpoint then [.line "step"] else []

end Journey

def State.withScript (state : State) (script : List Keystroke) : State :=
  state.onTerminal { state.console.terminal with script }

/-- If `run` comes back to the prompt at the end of a function or behind a breakpoint, then as many
`step`s as it took instructions, fed the lines that it read, come back to the prompt one and all and end
with the same machine. Whatever follows those lines is left waiting. For this the instructions of the
program have to be short enough for `step` to announce them, as all that are read are. -/
theorem run_eq_repeated_step (state final : State) (argument : List Char)
    (returned : answer state ⟨.run, argument⟩ = .prompt final)
    (cause : (runJourney state).halt = .ended ∨ (runJourney state).halt = .stopped .breakpoint)
    (rest : List Keystroke) :
    (runJourney state).fed ++ final.script = state.script ∧
      (state.program.Printable →
        ∃ last, frontend.promptAfter (runJourney state).count
            (state.withScript ((runJourney state).retrace ++ rest)) = some last ∧
          last.machine = final.machine ∧ last.script = rest) := by
  rw [answer_run] at returned
  obtain ⟨last, moves, closes⟩ : ∃ last, Moves "" false state (runJourney state).legs last ∧
      (runJourney state).Closes "" false last := travel_moves _ _ _ _ _ _
  have read : (runJourney state).fed ++ last.script = state.script := moves.script
  unfold Journey.turn at returned
  unfold Journey.Closes at closes
  unfold Journey.count Journey.retrace State.withScript
  rcases cause with ended | stopped
  · rw [ended] at returned closes ⊢
    obtain rfl := Turn.prompt.inj returned
    obtain ⟨same, -⟩ := advance_ended closes
    rw [same]
    refine ⟨read, ?_⟩
    intro printable
    obtain ⟨written, script, stepped⟩ := promptAfter_of_moves printable moves
      { state.console.terminal with script := stepLines (runJourney state).legs ++ [] ++ rest } rest
      (by rw [List.append_nil])
    exact ⟨last.onTerminal written, stepped, rfl, script⟩
  · rw [stopped] at returned closes ⊢
    obtain rfl := Turn.prompt.inj returned
    obtain ⟨_, _, -, -, -, unread⟩ := advance_breakpoint closes
    refine ⟨(congrArg _ unread).trans read, ?_⟩
    intro printable
    obtain ⟨written, script, stepped⟩ := promptAfter_of_moves printable moves
      { state.console.terminal with
        script := stepLines (runJourney state).legs ++ [.line "step"] ++ rest }
      (.line "step" :: rest) (List.append_assoc _ _ _)
    have stillPrintable : last.program.Printable := moves.program ▸ printable
    obtain ⟨passed, passedScript, turned, machine⟩ := turn_of_breakpoint stillPrintable closes script
    exact ⟨last.moveOn.onTerminal passed, frontend.promptAfter_succ stepped turned, machine, passedScript⟩

def echoing : State where
  settings := ⟨false, true, .adaptive, 10⟩
  files := ⟨[]⟩
  machine := {}
  console := { terminal := { script := [.line "hello", .line "list"] } }
  program := ⟨[
    (entryPoint, .linked ⟨[.of .inputString [], .of .print [], .of .loadConst [.text "f"],
      .of .call [], .of .breakpoint []], .empty⟩),
    ("f", .linked ⟨[.of .ret []], .empty⟩)]⟩

/-- Six steps, the first with the line that the run was given, end behind the breakpoint. -/
theorem run_eq_repeated_step_echoing :
    ∃ final last, answer echoing ⟨.run, []⟩ = .prompt final ∧ final.machine = { ip := 5 } ∧
      (runJourney echoing).halt = .stopped .breakpoint ∧
      frontend.promptAfter 6 (echoing.withScript
        (.line "step" :: .line "hello" :: List.replicate 5 (.line "step"))) = some last ∧
      last.machine = final.machine := by
  obtain ⟨-, retraced⟩ := run_eq_repeated_step echoing _ [] rfl (.inr rfl) []
  obtain ⟨last, stepped, machine, -⟩ := retraced (Program.printable_of_bodies (by decide))
  exact ⟨_, last, rfl, rfl, rfl, stepped, machine⟩

end Functions

end StackMachine.Debugger

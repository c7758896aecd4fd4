import StackMachine.Proofs.Debugger.Journey
import StackMachine.Proofs.Program.Leads

/-!
Running a program under the debugger, instruction by instruction. What a program does without the console
it also does under the debugger, which then changes nothing but the machine; reading a number and printing
are added here. A state from which a run gets to the end of a function is one from which `run` comes back
to the prompt, if only it has fuel enough.
-/

set_option autoImplicit false

namespace StackMachine.Debugger.Functions

def numberQuestion : String := "Input for INPUT_NUMBER (one arg): \n"

namespace State

/-- A run gets from one state to the other. -/
def Reaches (state last : State) : Prop :=
  ∃ legs, Moves "" false state legs last

theorem Reaches.trans {state middle last : State} (first : state.Reaches middle)
    (second : middle.Reaches last) : state.Reaches last := by
  obtain ⟨legs, moves⟩ := first
  induction moves with
  | refl => exact second
  | cons moved _ ih =>
      obtain ⟨legs, moves⟩ := ih second
      exact ⟨_, .cons moved moves⟩

theorem reaches_of_moved {state next : State} {instruction : Instruction}
    (moved : advance "" false state = .moved next instruction) : state.Reaches next :=
  ⟨_, .cons moved .refl⟩

/-- Under the debugger a program does what it does without the console. -/
theorem reaches_of_leads {program : Program} {machine last : Machine} (leads : program.Leads machine last)
    {state : State} (loaded : state.program = program) (here : state.machine = machine) :
    state.Reaches { state with machine := last } := by
  induction leads generalizing state with
  | refl =>
      subst here
      exact ⟨[], .refl⟩
  | step active found silent carried _ ih =>
      subst here loaded
      have carriedHere := carried state.console
      have moved := advance_of_silent (fetch?_of_itemAt? active found) silent
        (congrArg Outcome.fault carriedHere) "" false
      rw [execute, carriedHere] at moved
      exact (reaches_of_moved moved).trans (ih rfl rfl)

/-- The state after a line of numbers has been asked for and read. -/
def afterNumbers (state : State) (numbers : List Value) (rest : List Keystroke) : State :=
  (state.feedFrom (.list numbers)).onTerminal {
    script := rest
    finished := (state.console.terminal.current ++ numberQuestion) :: state.console.terminal.finished
    current := "" }

theorem ask_number {state : State} {line : String} {rest : List Keystroke} {numbers : List Value}
    (waiting : state.script = .line line :: rest) (read : readNumbers line.toList = .ok numbers) :
    ask state "" false (.of .inputNumber []) = (state.afterNumbers numbers rest, none) := by
  have script : state.console.terminal.script = .line line :: rest := waiting
  have isNumber : (Instruction.of .inputNumber []).is .inputNumber = true := rfl
  simp only [ask, isNumber, if_true, say, Console.readLine, Console.writeLine, Terminal.read,
    Terminal.writeLine, Terminal.write, script, read, Bool.false_eq_true, if_false, String.append_empty,
    String.empty_append]
  rfl

theorem reaches_of_inputNumber {state : State} {function : Function} {line : String}
    {rest : List Keystroke} {n : Int} {more : List Value}
    (fetched : state.fetch? = some (function, .of .inputNumber []))
    (waiting : state.script = .line line :: rest)
    (read : readNumbers line.toList = .ok (.int n :: more))
    (style : state.settings.feedStyle ≠ .silent) :
    state.Reaches { state.afterNumbers more rest with
      machine := { state.machine with
        stack := .int n :: state.machine.stack
        ip := state.machine.ip + 1 } } := by
  obtain ⟨active, inside, found⟩ := fetch?_eq_some fetched
  have asked := ask_number waiting read
  have taken : (⟨state.settings.feedStyle, .list (.int n :: more)⟩ : Feed).take 1 =
      .ok (.int n, ⟨state.settings.feedStyle, .list more⟩) := by
    cases choice : state.settings.feedStyle with
    | silent => exact absurd choice style
    | prompted | adaptive => rfl
  have executed : (state.afterNumbers (.int n :: more) rest).execute function (.of .inputNumber []) =
      .done (state.machine.push (.int n)) (state.afterNumbers more rest).console := by
    simp only [execute, Machine.execute, Instruction.of, Machine.perform, Machine.readNumber,
      Console.input, afterNumbers, feedFrom, onTerminal, taken, Value.number?, Outcome.done]
  have moved : advance "" false state = .moved
      ((state.afterNumbers (.int n :: more) rest).after (.done (state.machine.push (.int n))
        (state.afterNumbers more rest).console)).moveOn (.of .inputNumber []) := by
    simp only [advance, active, inside, found, asked, executed, Outcome.done, if_true]
  exact reaches_of_moved moved

theorem reaches_of_print {state : State} {function : Function} {value : Value} {stack : List Value}
    {text : List Char} (fetched : state.fetch? = some (function, .of .print []))
    (operands : state.machine.stack = value :: stack) (shown : value.show = .ok text) :
    state.Reaches { state with
      machine := { state.machine with stack, ip := state.machine.ip + 1 }
      console := { state.console.writeLine (String.ofList text) with
        printed := state.console.printed ++ [value] } } := by
  have executed : state.execute function (.of .print []) =
      .done { state.machine with stack } { state.console.writeLine (String.ofList text) with
        printed := state.console.printed ++ [value] } :=
    Machine.execute_print function.labels state.console operands shown
  have moved := advance_of_silent fetched rfl (congrArg Outcome.fault executed) "" false
  rw [executed] at moved
  exact reaches_of_moved moved

end State

theorem run_of_moves {state last : State} {legs : List Leg} (moves : Moves "" false state legs last)
    (fuel : Nat) : run (fuel + legs.length) state = run fuel last := by
  induction moves with
  | refl => rfl
  | cons moved _ ih =>
      rw [List.length_cons, ← Nat.add_assoc, run, moved]
      exact ih

theorem run_of_reaches {state last : State} (reaches : state.Reaches last) {function : Function}
    (active : last.active = .ok function)
    (past : (function.instructions.length : Int) ≤ last.machine.ip) :
    ∃ bound, ∀ fuel, bound ≤ fuel → run fuel state = .prompt last := by
  obtain ⟨legs, moves⟩ := reaches
  have ended : advance "" false last = .ended last := by
    simp only [advance, active, Int.not_lt.mpr past, if_false]
  refine ⟨1 + legs.length, ?_⟩
  intro fuel enough
  obtain ⟨left, rfl⟩ := Nat.exists_eq_add_of_le' enough
  rw [← Nat.add_assoc, run_of_moves moves, run, ended]

end StackMachine.Debugger.Functions

import StackMachine.Debugger.Functions
import StackMachine.Proofs.Listing.Reading
import StackMachine.Proofs.Machine.Breakpoint
import StackMachine.Proofs.Machine.Console

/-!
Asking for what an instruction is going to read. A line that waits at the terminal becomes a buffer by
a rule of the instruction, and everything else about the state stays, whatever has been written.
-/

set_option autoImplicit false

namespace StackMachine

/-- The buffer that a line gives an instruction that reads. -/
def Instruction.buffer (instruction : Instruction) (line : String) : Except Fault Value :=
  if instruction.is .inputNumber then (readNumbers line.toList).map Value.list else .ok (.text line)

def Instruction.question (instruction : Instruction) : String :=
  if instruction.is .inputNumber then "Input for INPUT_NUMBER (one arg): "
  else "Input for INPUT_STRING (one arg): "

/-- Whether a fault is neither that of a breakpoint nor a failed assertion. Nothing but an instruction has
those. -/
def Fault.outside (fault : Fault) : Bool :=
  match fault.classOf with
  | .stop | .assertion => false
  | _ => true

theorem Terminal.read_cases (terminal : Terminal) (prompt : String) :
    (∃ after line, terminal.read prompt = (after, .ok line) ∧
      terminal.script = .line line :: after.script) ∨
    (∃ after fault, terminal.read prompt = (after, .error fault) ∧ fault.outside = true ∧
      ∀ line rest, terminal.script ≠ .line line :: rest) := by
  unfold Terminal.read
  cases terminal.script with
  | nil => exact .inr ⟨_, _, rfl, rfl, nofun⟩
  | cons keystroke rest =>
      cases keystroke with
      | line text => exact .inl ⟨_, _, rfl, rfl⟩
      | interrupt => exact .inr ⟨_, _, rfl, rfl, nofun⟩

private theorem outside_of_readNumbers {line : List Char} {fault : Fault}
    (failed : readNumbers line = .error fault) : fault.outside = true := by
  obtain ⟨before, word, after, -, -, notANumber⟩ := exists_of_mapM_eq_error failed
  split at notANumber
  · cases notANumber
  · split at notANumber <;> cases notANumber
    rfl

namespace Debugger.Functions

def State.script (state : State) : List Keystroke :=
  state.console.terminal.script

def State.onTerminal (state : State) (terminal : Terminal) : State :=
  { state with console := { state.console with terminal } }

def State.onConsole (state : State) (console : Console) : State :=
  { state with console }

/-- The state after a line has been read, and the line. -/
def State.readLine (state : State) (prompt : String) : State × Except Fault String :=
  (state.onConsole (state.console.readLine prompt).1, (state.console.readLine prompt).2)

/-- What becomes of the answer to the question that an instruction asks. -/
def takeAnswer (echo : Bool) (instruction : Instruction) :
    State × Except Fault String → State × Option Fault
  | (state, .error fault) => (state, some fault)
  | (state, .ok line) =>
    match instruction.buffer line with
    | .error fault => (state, some fault)
    | .ok buffer =>
      let fed := state.feedFrom buffer
      (if echo && instruction.is .inputNumber then fed.say (String.ofList buffer.literal) else fed, none)

/-- A change of the state that makes no difference to where it stands, and to what is said, read and fed. -/
structure Transparent (embed : State → State) : Prop where
  active : ∀ state, (embed state).active = state.active
  pointer : ∀ state, (embed state).machine.ip = state.machine.ip
  moveOn : ∀ state, (embed state).moveOn = embed state.moveOn
  say : ∀ state line, (embed state).say line = embed (state.say line)
  feedFrom : ∀ state buffer, (embed state).feedFrom buffer = embed (state.feedFrom buffer)
  readLine : ∀ state prompt,
    (embed state).readLine prompt = (embed (state.readLine prompt).1, (state.readLine prompt).2)

section

variable (state : State) (terminal : Terminal)

@[simp] theorem State.machine_onTerminal : (state.onTerminal terminal).machine = state.machine := rfl

@[simp] theorem State.program_onTerminal : (state.onTerminal terminal).program = state.program := rfl

@[simp] theorem State.active_onTerminal : (state.onTerminal terminal).active = state.active := rfl

@[simp] theorem State.script_onTerminal : (state.onTerminal terminal).script = terminal.script := rfl

end

inductive Asked (state : State) (instruction : Instruction) : State × Option Fault → Prop where
  | silent (reads : instruction.reads = false) : Asked state instruction (state, none)
  | answered {line : String} {buffer : Value} {written : Terminal} (reads : instruction.reads = true)
      (waiting : state.script = .line line :: written.script)
      (buffered : instruction.buffer line = .ok buffer) :
      Asked state instruction ((state.feedFrom buffer).onTerminal written, none)
  | failed {written : Terminal} {fault : Fault} (reads : instruction.reads = true)
      (unanswered : ∀ line buffer rest, state.script = .line line :: rest →
        instruction.buffer line ≠ .ok buffer)
      (outside : fault.outside = true) :
      Asked state instruction (state.onTerminal written, some fault)

theorem ask_of_silent {instruction : Instruction} (reads : instruction.reads = false) (state : State)
    (lead : String) (echo : Bool) : ask state lead echo instruction = (state, none) := by
  obtain ⟨number, text⟩ := Bool.or_eq_false_iff.mp reads
  simp only [ask, number, text, Bool.false_eq_true, if_false]

theorem ask_of_reads {instruction : Instruction} (reads : instruction.reads = true) (state : State)
    (lead : String) (echo : Bool) :
    ask state lead echo instruction =
      takeAnswer echo instruction ((state.say (lead ++ instruction.question)).readLine "") := by
  cases number : instruction.is .inputNumber with
  | true =>
      simp only [ask, number, if_true, Instruction.question, State.readLine]
      generalize (state.say (lead ++ "Input for INPUT_NUMBER (one arg): ")).console.readLine "" = reading
      obtain ⟨console, answer⟩ := reading
      cases answer with
      | error fault => rfl
      | ok line =>
          simp only [takeAnswer, Instruction.buffer, number, if_true, Bool.and_true]
          cases readNumbers line.toList <;> rfl
  | false =>
      have text : instruction.is .inputString = true := by
        simpa only [Instruction.reads, number, Bool.false_or] using reads
      simp only [ask, number, text, Bool.false_eq_true, if_false, if_true, Instruction.question,
        State.readLine]
      generalize (state.say (lead ++ "Input for INPUT_STRING (one arg): ")).console.readLine "" = reading
      obtain ⟨console, answer⟩ := reading
      cases answer with
      | error fault => rfl
      | ok line =>
          simp only [takeAnswer, Instruction.buffer, number, Bool.false_eq_true, if_false, Bool.and_false]
          rfl

private theorem outside_of_buffer {instruction : Instruction} {line : String} {fault : Fault}
    (failed : instruction.buffer line = .error fault) : fault.outside = true := by
  unfold Instruction.buffer at failed
  split at failed
  · exact outside_of_readNumbers (eq_error_of_map failed)
  · cases failed

theorem ask_asked (state : State) (lead : String) (echo : Bool) (instruction : Instruction) :
    Asked state instruction (ask state lead echo instruction) := by
  cases reads : instruction.reads with
  | false =>
      rw [ask_of_silent reads]
      exact .silent reads
  | true =>
      rw [ask_of_reads reads]
      rcases (state.say (lead ++ instruction.question)).console.terminal.read_cases ""
        with ⟨after, line, read, waiting⟩ | ⟨after, fault, read, outside, unwaiting⟩
      · simp only [State.readLine, Console.readLine, read, takeAnswer]
        cases buffered : instruction.buffer line with
        | error fault =>
            refine .failed reads ?_ (outside_of_buffer buffered)
            intro other value rest otherWaiting
            obtain ⟨same, -⟩ := List.cons.inj (waiting.symm.trans otherWaiting)
            cases same
            rw [buffered]
            exact nofun
        | ok buffer =>
            dsimp only
            split
            · exact .answered reads waiting buffered
            · exact .answered reads waiting buffered
      · simp only [State.readLine, Console.readLine, read, takeAnswer]
        exact .failed reads (fun line buffer rest waiting => absurd waiting (unwaiting line rest)) outside

theorem ask_of_transparent {embed : State → State} (transparent : Transparent embed) (state : State)
    (lead : String) (echo : Bool) (instruction : Instruction) :
    ask (embed state) lead echo instruction =
      (embed (ask state lead echo instruction).1, (ask state lead echo instruction).2) := by
  cases reads : instruction.reads with
  | false => rw [ask_of_silent reads, ask_of_silent reads]
  | true =>
      rw [ask_of_reads reads, ask_of_reads reads, transparent.say, transparent.readLine]
      generalize (state.say (lead ++ instruction.question)).readLine "" = reading
      obtain ⟨read, answer⟩ := reading
      cases answer with
      | error fault => rfl
      | ok line =>
          simp only [takeAnswer]
          cases instruction.buffer line with
          | error fault => rfl
          | ok buffer =>
              dsimp only
              rw [transparent.feedFrom, transparent.say]
              split <;> rfl

theorem machine_of_ask {state asked : State} {lead : String} {echo : Bool} {instruction : Instruction}
    {trouble : Option Fault} (asks : ask state lead echo instruction = (asked, trouble)) :
    asked.machine = state.machine ∧ asked.program = state.program := by
  have result := ask_asked state lead echo instruction
  rw [asks] at result
  cases result with
  | silent | answered | failed => exact ⟨rfl, rfl⟩

theorem outside_of_ask {state asked : State} {lead : String} {echo : Bool} {instruction : Instruction}
    {fault : Fault} (asks : ask state lead echo instruction = (asked, some fault)) :
    fault.outside = true := by
  have result := ask_asked state lead echo instruction
  rw [asks] at result
  cases result with
  | failed _ _ outside => exact outside

/-- A waiting line that gives a buffer answers the question, however it is put. -/
theorem ask_of_line {state : State} {instruction : Instruction} {line : String} {buffer : Value}
    {rest : List Keystroke} (reads : instruction.reads = true)
    (waiting : state.script = .line line :: rest) (buffered : instruction.buffer line = .ok buffer)
    (lead : String) (echo : Bool) :
    ∃ written : Terminal, written.script = rest ∧
      ask state lead echo instruction = ((state.feedFrom buffer).onTerminal written, none) := by
  have asked := ask_asked state lead echo instruction
  generalize ask state lead echo instruction = result at asked
  cases asked with
  | silent silent => simp [reads] at silent
  | @answered otherLine otherBuffer written _ otherWaiting otherBuffered =>
      obtain ⟨same, left⟩ := List.cons.inj (otherWaiting.symm.trans waiting)
      cases same
      obtain rfl := Except.ok.inj (otherBuffered.symm.trans buffered)
      exact ⟨written, left, rfl⟩
  | failed _ unanswered other => exact absurd buffered (unanswered line buffer rest waiting)

theorem feed_of_ask {state asked : State} {lead : String} {echo : Bool} {instruction : Instruction}
    (asks : ask state lead echo instruction = (asked, none)) (reads : instruction.reads = true) :
    ∃ feed, asked.console.feed = some feed := by
  have result := ask_asked state lead echo instruction
  rw [asks] at result
  cases result with
  | silent silent => simp [reads] at silent
  | answered => exact ⟨_, rfl⟩

/-- The lines that were read on the way from one state to another. -/
def linesRead (before after : State) : List Keystroke :=
  before.script.take (before.script.length - after.script.length)

theorem linesRead_of_cons {before after : State} {keystroke : Keystroke}
    (read : before.script = keystroke :: after.script) : linesRead before after = [keystroke] := by
  simp [linesRead, read]

/-- The same lines at another terminal give the same answer to the question, however it is put. -/
theorem ask_onTerminal {state asked : State} {lead : String} {echo : Bool} {instruction : Instruction}
    (asks : ask state lead echo instruction = (asked, none)) {terminal : Terminal}
    {rest : List Keystroke} (waiting : terminal.script = linesRead state asked ++ rest)
    (otherLead : String) (otherEcho : Bool) :
    ∃ written : Terminal, written.script = rest ∧
      ask (state.onTerminal terminal) otherLead otherEcho instruction =
        (asked.onTerminal written, none) := by
  have result := ask_asked state lead echo instruction
  rw [asks] at result
  cases result with
  | silent reads =>
      have none : linesRead state state = [] := by simp [linesRead]
      rw [none] at waiting
      exact ⟨terminal, waiting, ask_of_silent reads _ otherLead otherEcho⟩
  | @answered line buffer written reads readLine buffered =>
      have one : linesRead state ((state.feedFrom buffer).onTerminal written) = [.line line] :=
        linesRead_of_cons readLine
      have waits : (state.onTerminal terminal).script = .line line :: rest := by
        rw [one] at waiting
        exact waiting
      exact ask_of_line reads waits buffered otherLead otherEcho

end Debugger.Functions

end StackMachine

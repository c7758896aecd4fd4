import StackMachine.Debugger.Session
import StackMachine.FileStore
import StackMachine.Program

/-!
The debugger for programs of several functions. It works on the machine's own instruction pointer and
active function. A run need not end, so whatever runs more than one instruction takes fuel.
-/

set_option autoImplicit false

namespace StackMachine.Debugger.Functions

/-- How a session is set up: whether a prompt is shown, whether functions are linked when they are
loaded, how the feeds of the machine take prompts, and how many instructions a command may carry out. -/
structure Settings where
  interactive : Bool
  link : Bool
  feedStyle : FeedStyle
  fuel : Nat

structure State where
  settings : Settings
  files : FileStore
  machine : Machine
  console : Console
  program : Program

namespace State

def say (state : State) (line : String) : State :=
  { state with console := state.console.writeLine line }

def report (state : State) (printout : Printout) : Turn State :=
  Debugger.report say state printout

def after (state : State) (outcome : Outcome) : State :=
  { state with machine := outcome.machine, console := outcome.console }

def moveOn (state : State) : State :=
  { state with machine := { state.machine with ip := state.machine.ip + 1 } }

def active (state : State) : Except Fault Function :=
  state.program.function state.machine.current

def feedFrom (state : State) (buffer : Value) : State :=
  { state with console := { state.console with feed := some ⟨state.settings.feedStyle, buffer⟩ } }

def execute (state : State) (function : Function) (instruction : Instruction) : Outcome :=
  state.machine.execute function.labels state.console instruction

end State

/-- Asks for what an instruction is going to read: a line of numbers, or a line of text. The line
becomes the buffer that the machine reads from. With `echo` a line of numbers is shown again. -/
def ask (state : State) (lead : String) (echo : Bool) (instruction : Instruction) :
    State × Option Fault :=
  if instruction.is .inputNumber then
    let state := state.say (lead ++ "Input for INPUT_NUMBER (one arg): ")
    let (console, line) := state.console.readLine ""
    let state := { state with console }
    match line with
    | .error fault => (state, some fault)
    | .ok line =>
      match readNumbers line.toList with
      | .error fault => (state, some fault)
      | .ok numbers =>
        let state := state.feedFrom (.list numbers)
        (if echo then state.say (String.ofList (Value.list numbers).literal) else state, none)
  else if instruction.is .inputString then
    let state := state.say (lead ++ "Input for INPUT_STRING (one arg): ")
    let (console, line) := state.console.readLine ""
    let state := { state with console }
    match line with
    | .error fault => (state, some fault)
    | .ok line => (state.feedFrom (.text line), none)
  else (state, none)

/-- What becomes of a fault inside a run: a breakpoint stops it behind itself, anything out of range
passes for the end of the program, and other faults leave the debugger. -/
def settle (state : State) (fault : Fault) : Turn State :=
  match fault.classOf with
  | .stop =>
    .prompt (state.say
      ("\nStopped at instruction " ++ toString state.machine.ip ++ " (BREAKPOINT)")).moveOn
  | .index => .prompt (state.say "\nEnd of program reached.")
  | _ => .failed state fault

/-- What trying the next instruction of a run comes to. -/
inductive Progress where
  /-- The instruction was carried out and the instruction pointer moved on. -/
  | moved (state : State) (instruction : Instruction)
  /-- The end of the active function was reached. -/
  | ended (state : State)
  /-- A fault stopped the run. -/
  | stopped (state : State) (fault : Fault)

/-- Carries out the instruction at the instruction pointer as part of a run. -/
def advance (lead : String) (echo : Bool) (state : State) : Progress :=
  match state.active with
  | .error fault => .stopped state fault
  | .ok function =>
    if state.machine.ip < function.instructions.length then
      match itemAt function.instructions state.machine.ip with
      | .error fault => .stopped state fault
      | .ok instruction =>
        match ask state lead echo instruction with
        | (state, some fault) => .stopped state fault
        | (state, none) =>
          let outcome := state.execute function instruction
          let state := state.after outcome
          match outcome.fault with
          | some fault => .stopped state fault
          | none => .moved state.moveOn instruction
    else .ended state

def run : Nat → State → Turn State
  | 0, state => .exhausted state
  | fuel + 1, state =>
    match advance "" false state with
    | .moved state _ => run fuel state
    | .ended state => .prompt state
    | .stopped state fault => settle state fault

/-- Announces and carries out one instruction that can be written; a breakpoint is passed over. A failed
assertion is reported and leaves the instruction pointer where it is. -/
def stepInto (state : State) (function : Function) (instruction : Instruction) : Turn State :=
  let announced := announcement state.machine.ip instruction
  if instruction.is .breakpoint then
    .prompt (state.say (announced ++ "  # BREAKPOINT consumed")).moveOn
  else
    match ask (state.say announced) "\n" false instruction with
    | (state, some fault) => .failed state fault
    | (state, none) =>
      let outcome := state.execute function instruction
      let state := state.after outcome
      match outcome.fault with
      | none => .prompt state.moveOn
      | some fault =>
        match fault.classOf with
        | .assertion => .prompt (state.say ("\nRuntime error: " ++ fault.message))
        | _ => .failed state fault

/-- Carries out instructions until as many returns as calls have been met, the first call included. -/
def stepOver : Nat → (calls returns : Nat) → State → Turn State
  | 0, _, _, state => .exhausted state
  | fuel + 1, calls, returns, state =>
    match advance "\n" true state with
    | .moved state instruction =>
      let calls := if instruction.is .call then calls + 1 else calls
      let returns := if instruction.is .ret then returns + 1 else returns
      if calls = returns then .prompt state else stepOver fuel calls returns state
    | .ended state => .prompt state
    | .stopped state fault => settle state fault

/-- Carries out the instruction at the instruction pointer, a call with all that it calls if `whole`. -/
def step (state : State) (whole : Bool) : Turn State :=
  if state.program.isEmpty then .prompt (state.say "\nNo program loaded. Use: load <path>")
  else
    match state.active with
    | .error fault => .failed state fault
    | .ok function =>
      if function.instructions.length ≤ state.machine.ip then
        .prompt (state.say "\nIP at end; nothing to execute.")
      else
        match itemAt function.instructions state.machine.ip with
        | .error fault => .failed state fault
        | .ok instruction =>
          let state := state.say ""
          -- Whichever way it is carried out, the instruction is announced first.
          if !instruction.printable then .failed state .writtenTooLong
          else if whole && instruction.is .call then
            let state := state.say
              ("\n" ++ announcement state.machine.ip instruction ++ "  # CALL (step over)")
            let outcome := state.execute function instruction
            let state := state.after outcome
            match outcome.fault with
            | some fault => .failed state fault
            | none => stepOver state.settings.fuel 1 0 state.moveOn
          else stepInto state function instruction

/-- Loads a program and resets the machine. The success is announced before the functions are read, and
a function that cannot be read leaves the debugger. -/
def load (state : State) (argument : List Char) : Turn State :=
  if argument.isEmpty then .prompt (state.say "Usage: load <path>")
  else
    match state.files.lookup (bareFileName (Text.trim argument)) with
    | .error fault => .failed state fault
    | .ok none => .prompt (state.say "File not found")
    | .ok (some bytes) =>
      match fileText bytes with
      | .error fault => .prompt (state.say ("\nFailed to read file: " ++ fault.message))
      | .ok text =>
        let state := state.say "\nFile loaded succesfully"
        match Program.read state.settings.link text with
        | .error fault => .failed state fault
        | .ok program => .prompt { state with program, machine := {} }

/-- Shows the variables that a call saved, by the name of the function that made the call. -/
def savedFrame (place : ReturnPoint) (bindings : Bindings) : Printout :=
  if bindings.isEmpty then
    .ofText place.function.show fun shown => "\nFrame " ++ shown ++ "' memory is empty\n"
  else
    (Printout.ofText place.function.show fun shown => "\nFrame " ++ shown ++ " variables").append
      (bindingLines "  " bindings.entries)

/-- Shows saved frames, the first call first. -/
def savedFrames (machine : Machine) : Printout :=
  if machine.frames.isEmpty then .of []
  else if machine.frames.length ≠ machine.saved.length then ⟨[], some .framesMismatch⟩
  else
    (machine.saved.zip machine.frames).reverse.foldl
      (fun shown (place, bindings) => shown.append (savedFrame place bindings)) (.of [])

/-- Shows all variables: those of the active function, then those that calls saved. -/
def memory (state : State) : Turn State :=
  let machine := state.machine
  let own :=
    if machine.bindings.isEmpty then
      .ofText machine.current.show fun shown => "\nFrame " ++ shown ++ " has no variables"
    else
      (Printout.ofText machine.current.show fun shown => "\nFrame " ++ shown ++ " variables:").append
        (bindingLines "  " machine.bindings.entries)
  state.report (own.append (savedFrames machine))

/-- What becomes of a fault of the instruction that `exec` spells: a key that is not found, whatever for, is
reported as an unknown operation code, and only an interruption leaves the debugger. -/
def settleExec (word : List Char) (state : State) (fault : Fault) : Turn State :=
  match fault.classOf with
  | .key => .prompt (state.say ("\nUnknown opcode: " ++ String.ofList word))
  | .interrupt => .failed state fault
  | _ => .prompt (state.say ("\nExecution failed: " ++ fault.message))

/-- Spells an instruction and carries it out with the labels of the active function. -/
def exec (state : State) (argument : List Char) : Turn State :=
  match Text.words argument with
  | [] => .prompt (state.say "\nUsage: exec <OPCODE> <arg1, arg2, ..., argN>")
  | word :: args =>
    match Opcode.ofName? (String.ofList word) with
    | none => .prompt (state.say ("\nUnknown opcode: " ++ String.ofList word))
    | some op =>
      let instruction := Instruction.of op (args.map Value.ofWord)
      let state := state.say ("\nExecuting: " ++ String.ofList instruction.literal)
      match state.active with
      | .error fault => settleExec word state fault
      | .ok function =>
        let outcome := state.execute function instruction
        let state := state.after outcome
        match outcome.fault with
        | none => .prompt state
        | some fault => settleExec word state fault

def lengthOf? : Value → Option Nat
  | .text s => some s.length
  | .list items => some items.length
  | .dict entries => some entries.length
  | _ => none

def frame (state : State) : Turn State :=
  let machine := state.machine
  match lengthOf? machine.current with
  | none => .failed state (.noLength machine.current.kind)
  | some 0 => .prompt (state.say "\nThere are no active frames")
  | some _ =>
    let heading := Printout.ofText machine.current.show fun shown => "Active frame: " ++ shown
    let bindings :=
      if machine.bindings.isEmpty then .of ["\n Current frame has no variables"]
      else bindingLines "  " machine.bindings.entries
    state.report (heading.append bindings)

/-- Shows the instructions around the instruction pointer. Without a program this ends the session. -/
def list (state : State) : Turn State :=
  if state.program.isEmpty then .returned (state.say "\nNo program loaded. Use: load <path>")
  else
    match state.active with
    | .error fault => .failed state fault
    | .ok function => state.report (.of ("" :: nearby function.instructions state.machine.ip))

def answer (state : State) (line : CommandLine) : Turn State :=
  match line.command with
  | .quit => .returned (state.say "\nDebug was stopped")
  | .info => state.report (.of ("\nCommands:" :: overview))
  | .load => load state line.argument
  | .run => run state.settings.fuel state
  | .step => step state false
  | .next => step state true
  | .list => list state
  | .print => state.report (variableView state.machine.bindings line.argument "\n" "")
  | .stack =>
    state.report (viewStack ⟨"\n", state.machine.stack.length⟩ state.machine.stack line.argument)
  | .memory => memory state
  | .exec => exec state line.argument
  | .frame => frame state
  | .unknown word => .prompt (state.say ("\nUnknown command: " ++ word ++ ". Type 'info'."))

def frontend : Frontend State where
  read state :=
    let (console, result) := state.console.readLine (if state.settings.interactive then "xvm > " else "")
    ({ state with console }, result)
  answer := answer
  farewell state := if state.settings.interactive then state.say "\nDebug was stopped" else state

/-- The state at the first prompt: nothing is loaded, and the greeting has been written. -/
def opening (settings : Settings) (files : FileStore) (terminal : Terminal) : State :=
  let start : State := {
    settings
    files
    machine := {}
    console := { terminal }
    program := .empty }
  start.say "XVM Debugger. Type 'info' or 'exit'."

/-- A session over files and a terminal, from the greeting on. Every turn reads from the terminal, so
there is at most one turn more than lines to read. -/
def session (settings : Settings) (files : FileStore) (terminal : Terminal) : State × Ending :=
  frontend.converse (terminal.script.length + 1) (opening settings files terminal)

end StackMachine.Debugger.Functions

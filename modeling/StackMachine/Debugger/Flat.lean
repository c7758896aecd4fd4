import StackMachine.Debugger.Session
import StackMachine.FileStore

/-!
The debugger for a single list of instructions. It keeps an instruction pointer of its own, which only
a step-over sets back, so every command ends.
-/

set_option autoImplicit false

namespace StackMachine.Debugger.Flat

/-- What one step gives: where the debugger's instruction pointer goes, the machine, the console, and a
fault that the step does not report itself. -/
structure Step where
  ip : Int
  machine : Machine
  console : Console
  fault : Option Fault

/-- Announces one instruction, carries it out and moves on by one, wherever the machine's own pointer goes. A
breakpoint is passed over; a failed assertion is reported and leaves the place where it is. An instruction that is too
long to be announced is not carried out. -/
def step (labels : Labels) (code : List Instruction) (ip : Int) (machine : Machine) (console : Console) :
    Step :=
  if code.isEmpty then ⟨ip, machine, console.writeLine "No program loaded. Use: load <path>", none⟩
  else if code.length ≤ ip then ⟨ip, machine, console.writeLine "IP at end; nothing to execute.", none⟩
  else
    match itemAt code ip with
    | .error fault => ⟨ip, machine, console, some fault⟩
    | .ok instruction =>
      if !instruction.printable then ⟨ip, machine, console, some .writtenTooLong⟩
      else if instruction.is .breakpoint then
        ⟨ip + 1, machine, console.writeLine (announcement ip instruction ++ "  # BREAKPOINT consumed"), none⟩
      else
        let outcome := machine.execute labels (console.writeLine (announcement ip instruction)) instruction
        match outcome.fault with
        | none => ⟨ip + 1, outcome.machine, outcome.console, none⟩
        | some fault =>
          match fault.classOf with
          | .stop =>
            ⟨ip, outcome.machine,
              outcome.console.writeLine
                ("Stopped at instruction " ++ toString ip ++ " (BREAKPOINT)"), none⟩
          | .assertion =>
            ⟨ip, outcome.machine, outcome.console.writeLine ("Runtime error: " ++ fault.message), none⟩
          | _ => ⟨ip, outcome.machine, outcome.console, some fault⟩

structure State where
  files : FileStore
  machine : Machine
  console : Console
  code : List Instruction
  labels : Labels
  ip : Int

namespace State

def say (state : State) (line : String) : State :=
  { state with console := state.console.writeLine line }

def report (state : State) (printout : Printout) : Turn State :=
  Debugger.report say state printout

def after (state : State) (outcome : Outcome) : State :=
  { state with machine := outcome.machine, console := outcome.console }

/-- Goes on with the state that a step left, unless a fault leaves the debugger. -/
def afterStep (state : State) (result : Step) (next : State → Turn State) : Turn State :=
  let state := { state with ip := result.ip, machine := result.machine, console := result.console }
  match result.fault with
  | none => next state
  | some fault => .failed state fault

end State

def load (state : State) (argument : List Char) : Turn State :=
  -- The labels are those of the code that was there before.
  match Listing.labels state.code with
  | .error fault => .failed state fault
  | .ok labels =>
    let state := { state with labels }
    match state.files.lookup (bareFileName argument) with
    | .error fault => .failed state fault
    | .ok none => .prompt (state.say "File not found")
    | .ok (some bytes) =>
      match fileText bytes with
      | .error fault => .prompt (state.say ("Failed to read file: " ++ fault.message))
      | .ok text =>
        match Listing.read text with
        | .error fault => .prompt (state.say ("Failed to parse: " ++ fault.message))
        | .ok code =>
          let state := state.say "File loaded succesfully"
          .prompt { state with
            code
            ip := 0
            machine := { state.machine with stack := [], bindings := .empty } }

/-- Carries out the instructions that are left. -/
def runRest (state : State) : List Instruction → Turn State
  | [] => .prompt (state.say "End of program reached.")
  | instruction :: rest =>
    let outcome := state.machine.execute state.labels state.console instruction
    let state := state.after outcome
    match outcome.fault with
    | none => runRest { state with ip := state.ip + 1 } rest
    | some fault =>
      match fault.classOf with
      | .stop =>
        .prompt (state.say ("Stopped at instruction " ++ toString state.ip ++ " (BREAKPOINT)"))
      -- Anything out of range, also inside an instruction, passes for the end.
      | .index => .prompt (state.say "End of program reached.")
      | _ => .failed state fault

def run (state : State) : Turn State :=
  runRest state (state.code.drop state.ip.toNat)

def stepOnce (state : State) : Turn State :=
  state.afterStep (step state.labels state.code state.ip state.machine state.console) .prompt

/-- Takes steps until the number of frames is back to `depth`, a breakpoint or the end comes up, or a
step gets stuck; `count` steps are left, and every step that does not end this moves on in the code. -/
def stepOver (depth : Nat) : Nat → State → Turn State
  | 0, state => .exhausted state
  | count + 1, state =>
    if state.machine.frames.length ≤ depth then .prompt state
    else
      match itemAt? state.code state.ip with
      | none => .prompt (state.say "Program finished while stepping over call.")
      | some instruction =>
        if instruction.is .breakpoint then
          .prompt (state.say
            ("Stopped at BREAKPOINT @ " ++ toString state.ip ++ " (inside called function)"))
        else
          let before := state.ip
          state.afterStep (step state.labels state.code state.ip state.machine state.console) fun state =>
            if state.ip = before ∧ depth < state.machine.frames.length then .prompt state
            else stepOver depth count state

/-- Takes a step, over a call with all that it calls. -/
def next (state : State) : Turn State :=
  if state.code.isEmpty then .prompt (state.say "No program loaded. Use: load <path>")
  else if state.code.length ≤ state.ip then .prompt (state.say "IP at end; nothing to execute.")
  else
    match itemAt state.code state.ip with
    | .error fault => .failed state fault
    | .ok instruction =>
      if !instruction.printable then .failed state .writtenTooLong
      else if instruction.is .call then
        let depth := state.machine.frames.length
        let state := state.say (announcement state.ip instruction ++ "  # CALL (step over)")
        let outcome := state.machine.execute state.labels state.console instruction
        let state := state.after outcome
        match outcome.fault with
        | some fault =>
          match fault.classOf with
          | .stop =>
            .prompt (state.say ("Stopped at instruction " ++ toString state.ip ++ " (BREAKPOINT)"))
          | .assertion => .prompt (state.say ("Runtime error: " ++ fault.message))
          | _ => .failed state fault
        | none =>
          -- Here alone the place is taken from the machine, which a call has set back.
          let ip := if state.machine.ip = state.ip then state.ip + 1 else state.machine.ip + 1
          stepOver depth (state.code.length + 2) { state with ip }
      else stepOnce state

/-- Whether a function has been called and not returned. -/
def inFunction (machine : Machine) : Bool :=
  !machine.current.same (.text entryPoint) || !machine.frames.isEmpty

def exec (state : State) (argument : List Char) : Turn State :=
  match Text.words argument with
  | [] => .prompt (state.say "Usage: exec <OPCODE> <arg1, arg2, ..., argN>")
  | word :: args =>
    match Opcode.ofName? (String.ofList word) with
    | none => .prompt (state.say ("Unknown opcode: " ++ String.ofList word))
    | some op =>
      let instruction := Instruction.of op (args.map Value.ofWord)
      let state := state.say ("Executing: " ++ String.ofList instruction.literal)
      -- Carrying it out would need labels, and none are given.
      .prompt (state.say ("Execution failed: " ++ Fault.message .missingLabels))

def frame (state : State) : Turn State :=
  if inFunction state.machine then
    let heading := Printout.ofText state.machine.current.show fun shown => "Active frame: " ++ shown
    let bindings :=
      if state.machine.bindings.isEmpty then .of ["(Current frame has no variables)"]
      else bindingLines "  " state.machine.bindings.entries
    state.report (heading.append bindings)
  else .prompt (state.say "(No active frame)")

def answer (state : State) (line : CommandLine) : Turn State :=
  match line.command with
  | .quit => .returned (state.say "\nDebug was stopped")
  | .info => state.report (.of ("Commands:" :: overview))
  | .load => load state line.argument
  | .run => run state
  | .step => stepOnce state
  | .next => next state
  | .list =>
    if state.code.isEmpty then .returned (state.say "No program loaded. Use: load <path>")
    else state.report (.of (nearby state.code state.ip))
  | .print =>
    let place := if inFunction state.machine then " in local frame" else ""
    state.report (variableView state.machine.bindings line.argument "" place)
  | .stack =>
    state.report
      ((state.machine.showStack (some (.text (String.ofList line.argument)))).append (.of ["None"]))
  | .memory =>
    if state.machine.bindings.isEmpty then .prompt (state.say "(The memory is empty)")
    else state.report (bindingLines "" state.machine.bindings.entries)
  | .exec => exec state line.argument
  | .frame => frame state
  | .unknown word => .prompt (state.say ("Unknown command: " ++ word ++ ". Type 'info'."))

def frontend : Frontend State where
  read state :=
    let (console, result) := state.console.readLine "xvm > "
    ({ state with console }, result)
  answer := answer
  farewell state := state.say "\nDebug was stopped"

/-- The state at the first prompt: nothing is loaded, and the greeting has been written. -/
def opening (files : FileStore) (terminal : Terminal) : State :=
  let start : State := {
    files
    machine := {}
    console := { terminal }
    code := []
    labels := .empty
    ip := 0 }
  start.say "XVM Debugger (minimal). Type 'info' or 'exit'."

/-- A session over files and a terminal, from the greeting on. Every turn reads from the terminal, so
there is at most one turn more than lines to read. -/
def session (files : FileStore) (terminal : Terminal) : State × Ending :=
  frontend.converse (terminal.script.length + 1) (opening files terminal)

end StackMachine.Debugger.Flat

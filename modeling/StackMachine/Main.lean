import StackMachine.Pocket.Listing
import StackMachine.Power.Listing
import StackMachine.Shell.Calculator
import StackMachine.Shell.Items

/-!
The command line: two shells, the demonstration of the pocket machine, and the power program.
-/

set_option autoImplicit false

namespace StackMachine.CommandLine

/-- Reads a line without its end, or nothing at the end of input. -/
def readLine : IO (Option String) := do
  let line ← (← IO.getStdin).getLine
  if line.isEmpty then return none
  return some (String.ofList (line.toList.filter (· != '\n')))

/-- Writes what a terminal holds, and reports a fault. The result is the exit code. -/
def finish (terminal : Terminal) (fault : Option Fault) : IO UInt32 := do
  IO.print terminal.transcript
  match fault with
  | none => return 0
  | some fault =>
    IO.eprintln fault.message
    return 1

/-- Answers lines until the shell is left, a command fails or the input ends. -/
partial def converse {σ : Type} (shell : Shell σ) (state : ShellState σ) : IO UInt32 := do
  IO.print Shell.prompt
  (← IO.getStdout).flush
  match ← readLine with
  | none => return 0
  | some line =>
    let reply := shell.answer state {} line.toList
    match reply.result with
    | .error fault => finish reply.terminal (some fault)
    | .ok true => finish reply.terminal none
    | .ok false =>
      IO.print reply.terminal.transcript
      converse shell reply.state

def runShell {σ : Type} (shell : Shell σ) (start : σ) : IO UInt32 := do
  IO.println Shell.greeting
  converse shell ⟨start, []⟩

def runPower : IO UInt32 := do
  let script := (← readLine).toList.map Keystroke.line
  let (attempt, terminal) := Power.attempt "can't" { script }
  finish terminal attempt.fault

end StackMachine.CommandLine

open StackMachine in
def main (args : List String) : IO UInt32 :=
  match args with
  | ["items"] => CommandLine.runShell Shell.Items.shell []
  | ["calculator"] => CommandLine.runShell Shell.Calculator.shell {}
  | ["demo"] =>
    let (terminal, fault) := Pocket.demonstrate {}
    CommandLine.finish terminal fault
  | ["power"] => CommandLine.runPower
  | _ => do
    IO.eprintln "usage: (items | calculator | demo | power)"
    return 2

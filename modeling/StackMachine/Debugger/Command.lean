import StackMachine.Fault
import StackMachine.Text.Blank
import StackMachine.Text.Lowercase

/-!
Command lines of the debuggers: a word in any letter case, and an argument after it.
-/

set_option autoImplicit false

namespace StackMachine.Debugger

open Text

inductive Command where
  | quit
  | info
  | load
  | run
  | step
  | next
  | list
  | print
  | stack
  | memory
  | exec
  | frame
  | unknown (word : String)
  deriving Repr, DecidableEq

def Command.ofWord (word : String) : Command :=
  if word = "exit" ∨ word = "quit" then .quit
  else if word = "info" ∨ word = "help" then .info
  else if word = "load" then .load
  else if word = "run" then .run
  else if word = "step" then .step
  else if word = "next" then .next
  else if word = "list" then .list
  else if word = "print" then .print
  else if word = "stack" then .stack
  else if word = "memory" then .memory
  else if word = "exec" then .exec
  else if word = "frame" then .frame
  else .unknown word

structure CommandLine where
  command : Command
  argument : List Char
  deriving Repr, DecidableEq

/-- Takes a line apart; a blank line is none. -/
def CommandLine.parse? (line : List Char) : Option CommandLine :=
  let line := trim line
  if line.isEmpty then none
  else
    let (word, argument) := firstWord line
    some ⟨.ofWord (String.ofList (lower word)), argument⟩

/-- The overview of the commands, after its heading. -/
def overview : List String := [
  "  1) Operations: ",
  "    load path   - load program from file (input 'load <path>')",
  "    run         - run program to the end (input 'run')",
  "    step        - run 1 instruction (input 'step')",
  "    next        - run one next line from loaded code, if the next function is a function call (input 'next')",
  "    exec        - do instruction OpCode (input 'exec <OpCode> <arg1, arg2, ..., argN>')",
  "  2) Information: ",
  "    list        - show up to 5 instructions before and after current instruction (input 'list')",
  "    stack[N]    - show top N items (input 'stack N') or whole stack (input 'stack')",
  "    memory      - dump all VM variables (input 'memory')",
  "    print sth   - show variable value (input 'print <name>')",
  "    frame       - dump all variables in current frame (input 'frame')",
  "  Exit"]

/-- Strips quote marks of both kinds from the ends of a path. -/
def bareFileName (path : List Char) : List Char :=
  trimBy (fun c => c == '\'' || c == '"') path

end StackMachine.Debugger

import StackMachine.Pocket.Listing
import StackMachine.Shell

/-!
A shell over a pocket machine.
-/

set_option autoImplicit false

namespace StackMachine.Shell.Calculator

/-- Shows a value after a heading. If the value is too long to be written, the heading has already been
written when that is found. -/
def showUnder (heading : String) (value : Value) (pocket : Pocket) (terminal : Terminal) :
    ShellReply Pocket :=
  let terminal := terminal.write (heading ++ " ")
  match value.show with
  | .ok text => goOn pocket (terminal.writeLine (String.ofList text))
  | .error fault => ⟨pocket, terminal, .error fault⟩

/-- Reads instructions and carries out the first of them. -/
def exec (pocket : Pocket) (terminal : Terminal) (argument : List Char) : ShellReply Pocket :=
  match Pocket.read argument with
  | .error fault => ⟨pocket, terminal, .error fault⟩
  | .ok [] => ⟨pocket, terminal, .error .indexOutOfRange⟩
  | .ok (instruction :: _) =>
    match pocket.execute terminal instruction with
    | (pocket, terminal, none) => goOn pocket terminal
    | (pocket, terminal, some fault) => ⟨pocket, terminal, .error fault⟩

def shell : Shell Pocket where
  commands := [
    { name := "exec", help := "Exec OP_CODE <arg1> <arg2>...", act := exec },
    { name := "exit"
      help := "Exit the shell."
      act := fun pocket terminal _ => ⟨pocket, terminal.writeLine "Exiting...", .ok true⟩ },
    { name := "memory"
      help := "Show current memory contents."
      act := fun pocket terminal _ => showUnder "Memory:" pocket.bindings pocket terminal },
    { name := "stack"
      help := "Show current stack contents."
      act := fun pocket terminal _ => showUnder "Stack:" pocket.stack pocket terminal }]

end StackMachine.Shell.Calculator

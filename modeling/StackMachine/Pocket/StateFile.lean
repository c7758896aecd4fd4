import StackMachine.FileStore
import StackMachine.Json.Reader
import StackMachine.Pocket

/-!
The state file of a pocket machine. Loading replaces the machine's memory by what the file holds; saving
empties the file and then fails, because the names it wants to save are not bound.
-/

set_option autoImplicit false

namespace StackMachine.Pocket

/-- The name of the state file. -/
def stateFile : String := "stack_and_vars.json"

/-- Takes stack and variables from a saved state. The stack is replaced before the variables are looked
for. -/
def restore (pocket : Pocket) (state : Value) : Pocket × Option Fault :=
  match item state (.text "stack") with
  | .error fault => (pocket, some fault)
  | .ok stack =>
    let pocket := { pocket with stack }
    match item state (.text "variables") with
    | .error fault => (pocket, some fault)
    | .ok bindings => ({ pocket with bindings }, none)

def readState (bytes : List UInt8) : Except Fault Value := do
  let text ← fileText bytes
  Json.read text

/-- Loads the memory of a machine from the state file, which may be missing. -/
def load (pocket : Pocket) (file : Option (List UInt8)) : Pocket × Option Fault :=
  match file with
  | none => (pocket, some (.fileNotFound stateFile))
  | some bytes =>
    match readState bytes with
    | .error fault => (pocket, some fault)
    | .ok state => pocket.restore state

/-- Saves the memory of a machine in the state file: what becomes of the file, and the fault if it
fails. The file has been emptied when the failure comes. -/
def dump (_ : Pocket) (_ : Option (List UInt8)) : Option (List UInt8) × Option Fault :=
  (some [], some (.unboundName "stack"))

end StackMachine.Pocket

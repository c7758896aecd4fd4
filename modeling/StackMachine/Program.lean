import StackMachine.Listing
import StackMachine.Source

/-!
Programs of several functions. A function is *linked* when the places of its labels are known; a
function that is not linked is only a list of instructions, and nothing of it can be looked up.
-/

set_option autoImplicit false

namespace StackMachine

/-- A function ready to be run. -/
structure Function where
  instructions : List Instruction
  labels : Labels

/-- What a program has under a name. -/
inductive Body where
  | linked (function : Function)
  | unlinked (instructions : List Instruction)

/-- A program: bodies by function name, in the order of first definition. -/
structure Program where
  bodies : List (String × Body)

namespace Program

def empty : Program := ⟨[]⟩

def isEmpty (program : Program) : Bool :=
  program.bodies.isEmpty

def body? (program : Program) (name : String) : Option Body :=
  program.bodies.lookup name

/-- The function that a machine's active function names. -/
def function (program : Program) (name : Value) : Except Fault Function :=
  match name with
  | .text text =>
    match program.body? text with
    | some (.linked function) => .ok function
    | some (.unlinked _) => .error (.listIndexKind .text)
    | none => .error (.missingKey name)
  | other => .error (if other.hashable then .missingKey other else .unhashable other.kind)

def readBody (link : Bool) (text : List Char) : Except Fault Body := do
  let instructions ← Listing.read text
  if link then
    let labels ← Listing.labels instructions
    return .linked ⟨instructions, labels⟩
  else
    return .unlinked instructions

/-- Reads a source. The first function that cannot be read decides the fault. -/
def read (link : Bool) (text : List Char) : Except Fault Program := do
  let bodies ← (Source.bodies text).mapM fun (name, text) => do
    let body ← readBody link text
    return (name, body)
  return ⟨bodies⟩

end Program

end StackMachine

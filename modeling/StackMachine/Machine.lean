import StackMachine.Machine.Feed
import StackMachine.Machine.Operation

/-!
The stack machine: its memory, and what one instruction does to it.

An instruction that fails may have taken operands from the stack before; they stay taken. So carrying
out an instruction always gives a machine and a console, and a fault if it failed.
-/

set_option autoImplicit false

namespace StackMachine

/-- Where a call was made: the function that was active and the index of the call. -/
structure ReturnPoint where
  function : Value
  ip : Int

/-- The name of the function that a program starts with. -/
def entryPoint : String := "$entrypoint$"

/-- The memory of a machine. The operand stack has its top first. A call saves the variables in
`frames` and the place to return to in `saved`, both with the latest call first. -/
structure Machine where
  stack : List Value := []
  bindings : Bindings := .empty
  frames : List Bindings := []
  saved : List ReturnPoint := []
  ip : Int := 0
  current : Value := .text entryPoint

structure Outcome where
  machine : Machine
  console : Console
  fault : Option Fault

namespace Outcome

def done (machine : Machine) (console : Console) : Outcome :=
  ⟨machine, console, none⟩

def fail (machine : Machine) (console : Console) (fault : Fault) : Outcome :=
  ⟨machine, console, some fault⟩

end Outcome

namespace Machine

def push (machine : Machine) (value : Value) : Machine :=
  { machine with stack := value :: machine.stack }

def pop (machine : Machine) (console : Console) (next : Value → Machine → Outcome) : Outcome :=
  match machine.stack with
  | [] => .fail machine console .emptyPop
  | value :: rest => next value { machine with stack := rest }

/-- Puts the result of an operation on the stack, or fails with its fault. -/
def deliver (machine : Machine) (console : Console) : Except Fault Value → Outcome
  | .ok value => .done (machine.push value) console
  | .error fault => .fail machine console fault

def load (machine : Machine) (console : Console) (name : Value) : Outcome :=
  if name.hashable then
    match machine.bindings.get? name with
    | some value => .done (machine.push value) console
    | none => .fail machine console (.undefined name)
  else .fail machine console (.unhashable name.kind)

def store (machine : Machine) (console : Console) (name : Value) : Outcome :=
  machine.pop console fun value machine =>
    if name.hashable then
      .done { machine with bindings := machine.bindings.insert name value } console
    else .fail machine console (.unhashable name.kind)

def jump (machine : Machine) (console : Console) (labels : Labels) (target : Value) : Outcome :=
  match labels.get? target with
  -- Whoever carries out instructions moves on by one after each, also after a jump.
  | some index => .done { machine with ip := index - 1 } console
  | none => .fail machine console (.missingKey target)

/-- Calls the function named on the stack: variables and place are saved, and the function starts with
no variables. -/
def call (machine : Machine) (console : Console) : Outcome :=
  machine.pop console fun function machine =>
    .done { machine with
      saved := ⟨machine.current, machine.ip⟩ :: machine.saved
      frames := machine.bindings :: machine.frames
      current := function
      bindings := .empty
      ip := -1 } console

def ret (machine : Machine) (console : Console) : Outcome :=
  match machine.saved with
  | [] => .fail machine console .emptyPop
  | place :: saved =>
    -- The place is taken before the variables, and stays taken if there are none.
    let machine := { machine with saved, current := place.function, ip := place.ip }
    match machine.frames with
    | [] => .fail machine console .emptyPop
    | bindings :: frames => .done { machine with frames, bindings } console

def readText (machine : Machine) (console : Console) : Outcome :=
  match console.input with
  | (console, .ok (.text text)) => .done (machine.push (.text text)) console
  | (console, .ok other) => .fail machine console (.inputNotText other.kind)
  | (console, .error fault) => .fail machine console fault

def readNumber (machine : Machine) (console : Console) : Outcome :=
  match console.input with
  | (console, .ok value) =>
    match value.number? with
    | some _ => .done (machine.push value) console
    | none => .fail machine console (.inputNotNumber value.kind)
  | (console, .error fault) => .fail machine console fault

def printTop (machine : Machine) (console : Console) : Outcome :=
  machine.pop console fun value machine =>
    let (console, fault) := console.print value
    ⟨machine, console, fault⟩

def perform (labels : Labels) (machine : Machine) (console : Console) :
    Opcode → List Value → Outcome
  | .loadConst, [value] => .done (machine.push value) console
  | .loadVar, [name] => machine.load console name
  | .storeVar, [name] => machine.store console name
  | .arithmetic op, [] =>
    machine.pop console fun first machine =>
      machine.pop console fun second machine => machine.deliver console (op.apply first second)
  | .compare op, [] =>
    machine.pop console fun first machine =>
      machine.pop console fun second machine => machine.deliver console (op.apply first second)
  | .function op, [] =>
    machine.pop console fun operand machine => machine.deliver console (op.apply operand)
  | .print, [] => machine.printTop console
  | .inputString, [] => machine.readText console
  | .inputNumber, [] => machine.readNumber console
  | .branch, [target] =>
    match target with
    | .text _ =>
      machine.pop console fun flag machine =>
        if flag.isOne then machine.jump console labels target else .done machine console
    | other => .fail machine console (.targetNotText .branch other.kind)
  | .jump, [target] =>
    match target with
    | .text _ => machine.jump console labels target
    | other => .fail machine console (.targetNotText .jump other.kind)
  | .call, [] => machine.call console
  | .ret, [] => machine.ret console
  | .breakpoint, _ => .fail machine (console.writeLine "[Breakpoint reached]") .breakpoint
  | .label, _ => .done machine console
  -- What is left are the operations whose number of arguments does not suit them.
  | op, args => .fail machine console (.arity op args)

def execute (labels : Labels) (machine : Machine) (console : Console) (instruction : Instruction) :
    Outcome :=
  match instruction.mnemonic with
  | .known op => machine.perform labels console op instruction.args
  | .unknown _ => .fail machine console (.unknown instruction)

end Machine

end StackMachine

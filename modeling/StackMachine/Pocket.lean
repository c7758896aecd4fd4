import StackMachine.Machine.Run
import StackMachine.Value.Arithmetic

/-!
The pocket machine: five operations, no jumps and no calls, and no demands on the kinds of operands. It
announces every instruction. Its stack and its variables can be replaced by whatever a state file holds,
so both are values, and an operation fails as the value at hand makes it fail.
-/

set_option autoImplicit false

namespace StackMachine

/-- The entries of a dictionary with one more stored. Lists and dictionaries are refused as keys. -/
def addEntry (entries : List (Value × Value)) (name content : Value) : Except Fault (List (Value × Value)) :=
  if name.hashable then .ok (Table.store name content entries) else .error (.unhashable name.kind)

/-- The memory of a pocket machine. The stack is a list with its top last. -/
structure Pocket where
  stack : Value := .list []
  bindings : Value := .dict []

namespace Pocket

def append (stack value : Value) : Except Fault Value :=
  match stack with
  | .list items => .ok (.list (items ++ [value]))
  | other => .error (.noMember other.kind "append")

/-- Takes the top value from a stack. -/
def takeTop (stack : Value) : Except Fault (Value × Value) :=
  match stack with
  | .list items =>
    match items.getLast? with
    | some top => .ok (top, .list items.dropLast)
    | none => .error .emptyPop
  | .dict _ => .error .popNeedsKey
  | other => .error (.noMember other.kind "pop")

def occursIn (part : List Char) : List Char → Bool
  | [] => part.isEmpty
  | c :: rest => part.isPrefixOf (c :: rest) || occursIn part rest

/-- Whether a collection holds a name. -/
def holds (collection name : Value) : Except Fault Bool :=
  match collection with
  | .dict entries =>
    if name.hashable then .ok (Table.find? name.key? entries).isSome else .error (.unhashable name.kind)
  | .list items => .ok (items.any name.same)
  | .text whole =>
    match name with
    | .text part => .ok (occursIn part.toList whole.toList)
    | other => .error (.textSearchKind other.kind)
  | other => .error (.notSearchable other.kind)

/-- The integer that a value is as an index. -/
def indexOf? : Value → Option Int
  | .int n => some n
  | .bool b => some b.toNat
  | _ => none

/-- What a collection has under a name. -/
def item (collection name : Value) : Except Fault Value :=
  match collection with
  | .dict entries =>
    if name.hashable then
      match Table.find? name.key? entries with
      | some value => .ok value
      | none => .error (.missingKey name)
    else .error (.unhashable name.kind)
  | .list items =>
    match indexOf? name with
    | none => .error (.listIndexKind name.kind)
    | some index => itemAt items index
  | .text whole =>
    match indexOf? name with
    | none => .error (.textIndexKind name.kind)
    | some index => (itemAt whole.toList index).map fun c => .text (String.ofList [c])
  | other => .error (.notSubscriptable other.kind)

/-- A collection with a value put under a name. A text takes no values, and an index that is too large for
it is refused first. -/
def assign (collection name value : Value) : Except Fault Value :=
  match collection with
  | .dict entries => (addEntry entries name value).map .dict
  | .list items =>
    match indexOf? name with
    | none => .error (.listIndexKind name.kind)
    | some index =>
      if !fitsIndex index then .error .indexTooLarge
      else
        let place := if index < 0 then items.length + index else index
        if 0 ≤ place ∧ place < items.length then .ok (.list (items.set place.toNat value))
        else .error .assignmentOutOfRange
  | .text whole =>
    if (indexOf? name).all fitsIndex then .error (.noItemAssignment (Value.text whole).kind)
    else .error .indexTooLarge
  | other => .error (.noItemAssignment other.kind)

def pop (pocket : Pocket) (next : Value → Pocket → Pocket × Option Fault) : Pocket × Option Fault :=
  match takeTop pocket.stack with
  | .ok (top, stack) => next top { pocket with stack }
  | .error fault => (pocket, some fault)

def deliver (pocket : Pocket) (result : Except Fault Value) : Pocket × Option Fault :=
  match result >>= append pocket.stack with
  | .ok stack => ({ pocket with stack }, none)
  | .error fault => (pocket, some fault)

/-- Combines the two top values, the topmost first. -/
def combine (pocket : Pocket) (operation : Value → Value → Except Fault Value) : Pocket × Option Fault :=
  pocket.pop fun first pocket => pocket.pop fun second pocket => pocket.deliver (operation first second)

/-- Stores the top value in a variable. -/
def store (pocket : Pocket) (name : Value) : Pocket × Option Fault :=
  pocket.pop fun value pocket =>
    match assign pocket.bindings name value with
    | .ok bindings => ({ pocket with bindings }, none)
    | .error fault => (pocket, some fault)

def valueOf (pocket : Pocket) (name : Value) : Except Fault Value := do
  if ← holds pocket.bindings name then item pocket.bindings name else throw (.undefined name)

def perform (pocket : Pocket) (instruction : Instruction) : Pocket × Option Fault :=
  match instruction.mnemonic, instruction.args with
  | .known .loadConst, [value] => pocket.deliver (.ok value)
  | .known (.arithmetic .add), [] => pocket.combine Value.plus
  | .known (.arithmetic .sub), [] => pocket.combine Value.minus
  | .known .storeVar, [name] => pocket.store name
  | .known .loadVar, [name] => pocket.deliver (pocket.valueOf name)
  | .known .loadConst, args => (pocket, some (.arity .loadConst args))
  | .known (.arithmetic .add), args => (pocket, some (.arity (.arithmetic .add) args))
  | .known (.arithmetic .sub), args => (pocket, some (.arity (.arithmetic .sub) args))
  | .known .storeVar, args => (pocket, some (.arity .storeVar args))
  | .known .loadVar, args => (pocket, some (.arity .loadVar args))
  | _, _ => (pocket, some (.unknown instruction))

def execute (pocket : Pocket) (terminal : Terminal) (instruction : Instruction) :
    Pocket × Terminal × Option Fault :=
  match instruction.write with
  | .error fault => (pocket, terminal, some fault)
  | .ok literal =>
    let (pocket, fault) := pocket.perform instruction
    (pocket, terminal.writeLine (String.ofList literal), fault)

def run (pocket : Pocket) (terminal : Terminal) : List Instruction → Pocket × Terminal × Option Fault
  | [] => (pocket, terminal, none)
  | instruction :: rest =>
    match pocket.execute terminal instruction with
    | (pocket, terminal, none) => pocket.run terminal rest
    | failed => failed

end Pocket

end StackMachine

import StackMachine.Listing
import StackMachine.Machine

/-!
Views of the operand stack and of variables: lines to be written, and a fault if a value among them is
too long to be written. Lines before such a value are still written.
-/

set_option autoImplicit false

namespace StackMachine

/-- Lines to be written, and the fault that cut them short. -/
structure Printout where
  lines : List String
  fault : Option Fault

namespace Printout

def of (lines : List String) : Printout :=
  ⟨lines, none⟩

def cons (line : String) (rest : Printout) : Printout :=
  { rest with lines := line :: rest.lines }

/-- One printout after the other; the second is left out if the first was cut short. -/
def append (first second : Printout) : Printout :=
  match first.fault with
  | some _ => first
  | none => ⟨first.lines ++ second.lines, second.fault⟩

/-- A line built from a value that may be too long. -/
def ofText (text : Except Fault (List Char)) (line : String → String) : Printout :=
  match text with
  | .ok shown => .of [line (String.ofList shown)]
  | .error fault => ⟨[], some fault⟩

end Printout

/-- Values on numbered lines, from a number on. -/
def numberedLines (index : Nat) : List Value → Printout
  | [] => .of []
  | value :: rest =>
    (Printout.ofText value.write fun shown => "[" ++ toString index ++ "] " ++ shown).append
      (numberedLines (index + 1) rest)

def bindingLines (indent : String) : List (Value × Value) → Printout
  | [] => .of []
  | (name, value) :: rest =>
    (Printout.ofText (do
        let name ← name.show
        let value ← value.write
        return name ++ " = ".toList ++ value) fun shown => indent ++ shown).append
      (bindingLines indent rest)

/-- How a view of the stack is worded: what leads each message, and the largest number of top values
that may be asked for. -/
structure StackWording where
  lead : String
  bound : Nat

/-- The top values of a stack. A value that is too long to be written is taken for a bad number. -/
def viewTop (wording : StackWording) (stack : List Value) (count : Int) : Printout :=
  if count < 0 ∨ wording.bound < count then
    .of [wording.lead ++ "Index out of range (0.." ++ toString wording.bound ++ ")"]
  else if count = 0 then .of [wording.lead ++ "There are no elements"]
  else
    let shown := Printout.cons (wording.lead ++ "Stack slice (top is [0]):")
      (numberedLines 0 (stack.take count.toNat))
    match shown.fault with
    | some _ => .of (shown.lines ++ [wording.lead ++ "Arguments must be numbers!"])
    | none => shown

/-- The stack as asked for by a text: all of it without a text, else as many top values as it says. -/
def viewStackBy (wording : StackWording) (stack : List Value) (request : List Char) : Printout :=
  if request.isEmpty then
    .cons (wording.lead ++ "Stack (top is [0]):") (numberedLines 0 stack)
  else
    match Text.words request with
    | [word] =>
      match Numeral.integer? word with
      | some count => viewTop wording stack count
      | none => .of [wording.lead ++ "Arguments must be numbers!"]
    | _ => .of [wording.lead ++ "Incorrect input. Usage: stack [N]"]

/-- The stack as asked for by a text, the top first. -/
def viewStack (wording : StackWording) (stack : List Value) (request : List Char) : Printout :=
  if stack.isEmpty then .of [wording.lead ++ "Stack: []"] else viewStackBy wording stack request

/-- The machine's own view of its stack, asked for by any value. At most all but one of the values can
be asked for by number. -/
def Machine.showStack (machine : Machine) (request : Option Value) : Printout :=
  let stack := machine.stack
  let wording : StackWording := ⟨"", stack.length - 1⟩
  match request with
  | none | some .null => viewStack wording stack []
  | some request =>
    if stack.isEmpty then viewStack wording stack []
    else
      match request.show with
      | .error fault => ⟨[], some fault⟩
      | .ok text => viewStackBy wording stack text

end StackMachine

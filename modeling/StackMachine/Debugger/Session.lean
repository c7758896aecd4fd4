import StackMachine.Debugger.Command
import StackMachine.Machine.Run
import StackMachine.Machine.StackView

/-!
Sessions: a debugger reads command lines from the terminal until a command ends it, a fault leaves it,
or nothing is left to be read. Both debuggers answer a command with a turn.
-/

set_option autoImplicit false

namespace StackMachine.Debugger

/-- What answering a command comes to: back to the prompt, the end of the session, a fault that leaves
the debugger, or a run that was given up for want of fuel. -/
inductive Turn (σ : Type) where
  | prompt (state : σ)
  | returned (state : σ)
  | failed (state : σ) (fault : Fault)
  | exhausted (state : σ)

inductive Ending where
  | returned
  | failed (fault : Fault)
  | exhausted

/-- A debugger: how it reads a line, how it answers one, and what it says when reading ends. -/
structure Frontend (σ : Type) where
  read : σ → σ × Except Fault String
  answer : σ → CommandLine → Turn σ
  farewell : σ → σ

/-- The turn that reading one line and answering it takes. A blank line changes nothing. -/
def Frontend.turn {σ : Type} (frontend : Frontend σ) (state : σ) : Turn σ :=
  match frontend.read state with
  | (state, .error _) => .returned (frontend.farewell state)
  | (state, .ok line) =>
    match CommandLine.parse? line.toList with
    | none => .prompt state
    | some command => frontend.answer state command

/-- Takes at most `turns` turns. -/
def Frontend.converse {σ : Type} (frontend : Frontend σ) : Nat → σ → σ × Ending
  | 0, state => (state, .exhausted)
  | turns + 1, state =>
    match frontend.turn state with
    | .prompt state => frontend.converse turns state
    | .returned state => (state, .returned)
    | .failed state fault => (state, .failed fault)
    | .exhausted state => (state, .exhausted)

/-- Writes a printout line by line; the fault that cut it short leaves the debugger. -/
def report {σ : Type} (say : σ → String → σ) (state : σ) (printout : Printout) : Turn σ :=
  let state := printout.lines.foldl say state
  match printout.fault with
  | none => .prompt state
  | some fault => .failed state fault

/-- The instructions that a listing around an instruction pointer shows: five before it and five after. -/
def nearby (code : List Instruction) (ip : Int) : List String :=
  let first := max 0 (ip - 5)
  let last := min (code.length : Int) (ip + 6)
  (List.range (last - first).toNat).filterMap fun (offset : Nat) =>
    let index : Int := first + (offset : Nat)
    code[index.toNat]?.map fun instruction =>
      let mark := if index = ip then "->" else "  "
      let shown := if instruction.printable then String.ofList instruction.literal else "<bad op>"
      mark ++ " " ++ String.ofList (Numeral.zeroPadded 4 index) ++ ": " ++ shown

/-- How an instruction is announced before it is carried out. Whoever announces it has to refuse an instruction that
is too long to be written. -/
def announcement (ip : Int) (instruction : Instruction) : String :=
  String.ofList (Numeral.zeroPadded 4 ip) ++ ": " ++ String.ofList instruction.literal

def nameIn (argument : List Char) : Option (List Char) :=
  (Text.words argument).head?

/-- What is shown of the variable that the first word of an argument names. `lead` and `place` word the messages. -/
def variableView (bindings : Bindings) (argument : List Char) (lead place : String) : Printout :=
  match nameIn argument with
  | none => .of [lead ++ "Usage: print <name>"]
  | some name =>
    match bindings.get? (.text (String.ofList name)) with
    | some value => .ofText value.write id
    | none => .of [lead ++ String.ofList name ++ " is not defined" ++ place]

end StackMachine.Debugger

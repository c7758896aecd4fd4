import Mathlib.Data.List.Forall2
import StackMachine.Index
import StackMachine.Proofs.Machine.Console
import StackMachine.Proofs.Machine.Destination
import StackMachine.Proofs.Program.Labels

/-!
Programs whose breakpoints are cleared. A label that no jump uses stands in the place of each of them, so
that both programs have the same functions with equally many instructions, and their jumps lead to the same
places.
-/

set_option autoImplicit false

namespace StackMachine

/-- What becomes of an instruction when the breakpoints of its function are cleared. -/
inductive Instruction.ClearsTo (code : List Instruction) : Instruction → Instruction → Prop where
  | kept {instruction : Instruction} (other : instruction.is .breakpoint = false) :
      ClearsTo code instruction instruction
  | replaced {breakpoint : Instruction} {name : Value} (isBreakpoint : breakpoint.is .breakpoint = true)
      (unused : ∀ jump ∈ code, ¬ jump.JumpsTo name) :
      ClearsTo code breakpoint (.of .label [name])

def Function.ClearsTo (function cleared : Function) : Prop :=
  List.Forall₂ (Instruction.ClearsTo function.instructions) function.instructions cleared.instructions

inductive Body.ClearsTo : Body → Body → Prop where
  | linked {function cleared : Function} (clears : function.ClearsTo cleared) :
      ClearsTo (.linked function) (.linked cleared)

/-- Whether one program is the other with its breakpoints cleared. -/
def Program.ClearsTo (program cleared : Program) : Prop :=
  List.Forall₂ (fun body clearedBody => body.1 = clearedBody.1 ∧ body.2.ClearsTo clearedBody.2)
    program.bodies cleared.bodies

theorem Listing.get?_addLabels_of_clearsTo {code rest clearedRest : List Instruction}
    (clears : List.Forall₂ (Instruction.ClearsTo code) rest clearedRest)
    {labels clearedLabels result clearedResult : Labels} {index : Nat}
    (added : addLabels labels index rest = .ok result)
    (clearedAdded : addLabels clearedLabels index clearedRest = .ok clearedResult)
    {jump : Instruction} {text : String} (member : jump ∈ code) (jumps : jump.JumpsTo (.text text))
    (same : labels.get? (.text text) = clearedLabels.get? (.text text)) :
    result.get? (.text text) = clearedResult.get? (.text text) := by
  induction clears generalizing labels clearedLabels index with
  | nil =>
      obtain rfl := Except.ok.inj added
      obtain rfl := Except.ok.inj clearedAdded
      exact same
  | @cons instruction _ _ _ clears _ ih =>
      rw [addLabels] at added clearedAdded
      cases clears with
      | kept other =>
          by_cases isLabel : instruction.is .label = true
          · rw [if_pos isLabel] at added clearedAdded
            cases args : instruction.args with
            | nil => simp [args] at added
            | cons name others =>
                simp only [args] at added clearedAdded
                by_cases hashable : name.hashable = true
                · rw [if_pos hashable] at added clearedAdded
                  refine ih added clearedAdded ?_
                  rw [Table.get?_insert, Table.get?_insert, same]
                · rw [if_neg hashable] at added
                  cases added
          · rw [if_neg isLabel] at added clearedAdded
            exact ih added clearedAdded same
      | @replaced name isBreakpoint unused =>
          have noLabel : ¬ instruction.is .label = true := by
            rw [Instruction.is_eq_false_of_is isBreakpoint (by decide)]
            exact Bool.false_ne_true
          have isLabel : (Instruction.of .label [name]).is .label = true := rfl
          rw [if_neg noLabel] at added
          rw [if_pos isLabel] at clearedAdded
          simp only [Instruction.of] at clearedAdded
          by_cases hashable : name.hashable = true
          · rw [if_pos hashable] at clearedAdded
            refine ih added clearedAdded ?_
            -- The label that was put in has a name that this jump does not look for.
            have different : ¬ sameKey name.key? (Value.text text).key? = true := by
              intro sameKeys
              obtain rfl := Value.eq_text_of_sameKey sameKeys
              exact unused jump member jumps
            rw [Table.get?_insert, if_neg different, same]
          · rw [if_neg hashable] at clearedAdded
            cases clearedAdded

/-- A jump finds the same place in a function and in the one with its breakpoints cleared. -/
theorem Function.ClearsTo.get?_labels {function cleared : Function} (clears : function.ClearsTo cleared)
    (linked : Listing.labels function.instructions = .ok function.labels)
    (clearedLinked : Listing.labels cleared.instructions = .ok cleared.labels)
    {jump : Instruction} {text : String} (member : jump ∈ function.instructions)
    (jumps : jump.JumpsTo (.text text)) :
    function.labels.get? (.text text) = cleared.labels.get? (.text text) :=
  Listing.get?_addLabels_of_clearsTo clears linked clearedLinked member jumps rfl

theorem itemAt?_of_forall₂ {α β : Type} {related : α → β → Prop} {items : List α} {others : List β}
    (each : List.Forall₂ related items others) (index : Int) :
    Option.Rel related (itemAt? items index) (itemAt? others index) := by
  have at_ : ∀ place : Nat, Option.Rel related items[place]? others[place]? := by
    intro place
    induction each generalizing place with
    | nil => exact .none
    | cons first _ ih =>
        cases place with
        | zero => exact .some first
        | succ place => exact ih place
  unfold itemAt?
  rw [each.length_eq]
  split
  · exact at_ _
  · split
    · exact at_ _
    · exact .none

namespace Program

theorem lookup_of_clearsTo {bodies cleared : List (String × Body)}
    (clears : List.Forall₂
      (fun body clearedBody => body.1 = clearedBody.1 ∧ body.2.ClearsTo clearedBody.2) bodies cleared)
    (name : String) : Option.Rel Body.ClearsTo (bodies.lookup name) (cleared.lookup name) := by
  induction clears with
  | nil => exact .none
  | @cons body clearedBody _ _ first _ ih =>
      obtain ⟨title, content⟩ := body
      obtain ⟨clearedTitle, clearedContent⟩ := clearedBody
      obtain ⟨rfl, contents⟩ := first
      rw [List.lookup_cons, List.lookup_cons]
      cases name == title with
      | true => exact .some contents
      | false => exact ih

/-- A program and the one with its breakpoints cleared have functions under the same names. -/
theorem ClearsTo.function {program cleared : Program} (clears : program.ClearsTo cleared) (name : Value) :
    (∃ fault, program.function name = .error fault ∧ cleared.function name = .error fault) ∨
      ∃ function clearedFunction, program.function name = .ok function ∧
        cleared.function name = .ok clearedFunction ∧ function.ClearsTo clearedFunction := by
  cases name with
  | text title =>
      simp only [Program.function, body?]
      have found := lookup_of_clearsTo clears title
      generalize program.bodies.lookup title = body at found
      generalize cleared.bodies.lookup title = clearedBody at found
      cases found with
      | none => exact .inl ⟨_, rfl, rfl⟩
      | some bodies =>
          cases bodies with
          | linked functions => exact .inr ⟨_, _, rfl, rfl, functions⟩
  | _ => exact .inl ⟨_, rfl, rfl⟩

/-- Whether no instruction of a program reads. -/
def Silent (program : Program) : Prop :=
  ∀ name function, program.function name = .ok function →
    ∀ instruction ∈ function.instructions, instruction.reads = false

/-- Whether a machine stands at a breakpoint of a program. -/
def breaksAt (program : Program) (machine : Machine) : Bool :=
  match program.function machine.current with
  | .error _ => false
  | .ok function =>
    match itemAt function.instructions machine.ip with
    | .error _ => false
    | .ok instruction => instruction.is .breakpoint

end Program

end StackMachine

import StackMachine.Machine
import StackMachine.Proofs.Machine.OperandFault

/-!
The forms of an instruction with a known operation code. Either the arguments suit the operation, and what it does is
one of the machine's own functions, or they do not, and the instruction is refused and changes nothing.
`Opcode.form` is the one place that looks at all operation codes with all numbers of arguments.
-/

set_option autoImplicit false

namespace StackMachine

/-- How many operands an instruction works on, if its arguments are accepted. -/
def Instruction.demand (instruction : Instruction) : Nat :=
  match instruction.mnemonic, instruction.args with
  | .known (.arithmetic _), [] | .known (.compare _), [] => 2
  | .known .storeVar, [_] | .known (.function _), [] | .known .print, [] | .known .call, [] => 1
  | .known .branch, [target] =>
    match target with
    | .text _ => 1
    | _ => 0
  | _, _ => 0

theorem Instruction.demand_le_two (instruction : Instruction) : instruction.demand ≤ 2 := by
  unfold demand
  split
  any_goals decide
  split <;> decide

namespace Opcode

/-- An operation whose arguments do not suit it. It is refused before it takes an operand. -/
structure Refused (op : Opcode) (args : List Value) (fault : Fault) : Prop where
  idle : (Instruction.of op args).demand = 0
  fails : ∀ (labels : Labels) (machine : Machine) (console : Console),
    machine.perform labels console op args = .fail machine console fault
  blames : fault.blamesOperands = true

/-- An operation with arguments that suit it, or one that is refused. Breakpoints and labels take any arguments. -/
inductive Form : Opcode → List Value → Prop where
  | constant (value : Value) : Form .loadConst [value]
  | load (name : Value) : Form .loadVar [name]
  | store (name : Value) : Form .storeVar [name]
  | arithmetic (op : Arithmetic) : Form (.arithmetic op) []
  | compare (op : Comparison) : Form (.compare op) []
  | function (op : UnaryFunction) : Form (.function op) []
  | print : Form .print []
  | inputString : Form .inputString []
  | inputNumber : Form .inputNumber []
  | branch (name : String) : Form .branch [.text name]
  | jump (name : String) : Form .jump [.text name]
  | call : Form .call []
  | ret : Form .ret []
  | breakpoint (args : List Value) : Form .breakpoint args
  | label (args : List Value) : Form .label args
  | refused {op : Opcode} {args : List Value} {fault : Fault} (refused : op.Refused args fault) : Form op args

/-- An operation with a wrong number of arguments. -/
structure WrongArity (op : Opcode) (args : List Value) : Prop where
  idle : (Instruction.of op args).demand = 0
  fails : ∀ (labels : Labels) (machine : Machine) (console : Console),
    machine.perform labels console op args = .fail machine console (.arity op args)

theorem WrongArity.form {op : Opcode} {args : List Value} (wrong : op.WrongArity args) : op.Form args := by
  refine .refused ⟨wrong.idle, wrong.fails, ?_⟩
  unfold Fault.arity
  split <;> rfl

theorem form_of_none {op : Opcode} (suited : op.Form []) (more : ∀ first rest, op.WrongArity (first :: rest))
    (args : List Value) : op.Form args := by
  cases args with
  | nil => exact suited
  | cons first rest => exact (more first rest).form

theorem form_of_one {op : Opcode} (none : op.WrongArity []) (suited : ∀ arg, op.Form [arg])
    (more : ∀ first second rest, op.WrongArity (first :: second :: rest)) (args : List Value) : op.Form args := by
  rcases args with _ | ⟨arg, _ | ⟨second, rest⟩⟩
  · exact none.form
  · exact suited arg
  · exact (more arg second rest).form

theorem form (op : Opcode) (args : List Value) : op.Form args := by
  cases op with
  | loadConst => exact form_of_one ⟨rfl, fun _ _ _ => rfl⟩ .constant (fun _ _ _ => ⟨rfl, fun _ _ _ => rfl⟩) args
  | loadVar => exact form_of_one ⟨rfl, fun _ _ _ => rfl⟩ .load (fun _ _ _ => ⟨rfl, fun _ _ _ => rfl⟩) args
  | storeVar => exact form_of_one ⟨rfl, fun _ _ _ => rfl⟩ .store (fun _ _ _ => ⟨rfl, fun _ _ _ => rfl⟩) args
  | arithmetic op => exact form_of_none (.arithmetic op) (fun _ _ => ⟨rfl, fun _ _ _ => rfl⟩) args
  | compare op => exact form_of_none (.compare op) (fun _ _ => ⟨rfl, fun _ _ _ => rfl⟩) args
  | function op => exact form_of_none (.function op) (fun _ _ => ⟨rfl, fun _ _ _ => rfl⟩) args
  | print => exact form_of_none .print (fun _ _ => ⟨rfl, fun _ _ _ => rfl⟩) args
  | inputString => exact form_of_none .inputString (fun _ _ => ⟨rfl, fun _ _ _ => rfl⟩) args
  | inputNumber => exact form_of_none .inputNumber (fun _ _ => ⟨rfl, fun _ _ _ => rfl⟩) args
  | call => exact form_of_none .call (fun _ _ => ⟨rfl, fun _ _ _ => rfl⟩) args
  | ret => exact form_of_none .ret (fun _ _ => ⟨rfl, fun _ _ _ => rfl⟩) args
  | branch =>
      refine form_of_one ⟨rfl, fun _ _ _ => rfl⟩ ?_ (fun _ _ _ => ⟨rfl, fun _ _ _ => rfl⟩) args
      -- A target that is no text is refused before the flag is taken.
      intro target
      cases target with
      | text name => exact .branch name
      | _ => exact .refused ⟨rfl, fun _ _ _ => rfl, rfl⟩
  | jump =>
      refine form_of_one ⟨rfl, fun _ _ _ => rfl⟩ ?_ (fun _ _ _ => ⟨rfl, fun _ _ _ => rfl⟩) args
      intro target
      cases target with
      | text name => exact .jump name
      | _ => exact .refused ⟨rfl, fun _ _ _ => rfl, rfl⟩
  | breakpoint => exact .breakpoint args
  | label => exact .label args

end Opcode

end StackMachine

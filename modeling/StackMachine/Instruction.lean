import StackMachine.Opcode
import StackMachine.Value.Literal

/-!
Instructions: an operation code and its arguments. A word that names no operation code may stand in the
place of one; such an instruction can be shown but not carried out.
-/

set_option autoImplicit false

namespace StackMachine

/-- What an instruction does: a known operation code, or a word that names none. -/
inductive Mnemonic where
  | known (op : Opcode)
  | unknown (word : String)
  deriving Repr, DecidableEq

structure Instruction where
  mnemonic : Mnemonic
  args : List Value

namespace Instruction

def of (op : Opcode) (args : List Value) : Instruction :=
  ⟨.known op, args⟩

def is (instruction : Instruction) (op : Opcode) : Bool :=
  decide (instruction.mnemonic = .known op)

theorem is_eq_false_of_is {instruction : Instruction} {op other : Opcode}
    (isOp : instruction.is op = true) (different : op ≠ other) : instruction.is other = false := by
  have mnemonic : instruction.mnemonic = .known op := of_decide_eq_true isOp
  simpa [is, mnemonic] using different

/-- Whether an instruction can be shown: whether its arguments are printable. -/
def printable (instruction : Instruction) : Bool :=
  instruction.args.all Value.printable

def literal (instruction : Instruction) : List Char :=
  let head := match instruction.mnemonic with
    | .known op => "OpCode." ++ op.name
    | .unknown word => word
  "Op(".toList ++ head.toList ++ ',' :: ' ' :: commaJoin (instruction.args.map Value.literal) ++ [')']

/-- The line of a listing for a known operation code: its name, then the arguments as they are
displayed, one space apart. -/
def line (op : Opcode) (args : List Value) : List Char :=
  let shown := [' '].intercalate (args.map Value.display)
  if shown.isEmpty then op.name.toList else op.name.toList ++ ' ' :: shown

end Instruction

end StackMachine

/-!
Operation codes and their names. Codes that treat their operands alike are grouped, so that each group
has one rule for taking operands.
-/

set_option autoImplicit false

namespace StackMachine

inductive Arithmetic where
  | add
  | sub
  | mul
  | div
  deriving Repr, DecidableEq

inductive UnaryFunction where
  | sqrt
  | neg
  | exp
  deriving Repr, DecidableEq

inductive Comparison where
  | eq
  | neq
  | gt
  | lt
  | ge
  | le
  deriving Repr, DecidableEq

inductive Opcode where
  | loadConst
  | loadVar
  | storeVar
  | arithmetic (op : Arithmetic)
  | function (op : UnaryFunction)
  | compare (op : Comparison)
  | label
  | jump
  | branch
  | print
  | inputString
  | inputNumber
  | call
  | ret
  | breakpoint
  deriving Repr, DecidableEq

/-- The name of an operation code in a listing. -/
def Opcode.name : Opcode → String
  | .loadConst => "LOAD_CONST"
  | .loadVar => "LOAD_VAR"
  | .storeVar => "STORE_VAR"
  | .arithmetic .add => "ADD"
  | .arithmetic .sub => "SUB"
  | .arithmetic .mul => "MUL"
  | .arithmetic .div => "DIV"
  | .function .sqrt => "SQRT"
  | .function .neg => "NEG"
  | .function .exp => "EXP"
  | .compare .eq => "EQ"
  | .compare .neq => "NEQ"
  | .compare .gt => "GT"
  | .compare .lt => "LT"
  | .compare .ge => "GE"
  | .compare .le => "LE"
  | .label => "LABEL"
  | .jump => "JMP"
  | .branch => "CJMP"
  | .print => "PRINT"
  | .inputString => "INPUT_STRING"
  | .inputNumber => "INPUT_NUMBER"
  | .call => "CALL"
  | .ret => "RET"
  | .breakpoint => "BREAKPOINT"

def Opcode.all : List Opcode := [
  .loadConst, .loadVar, .storeVar,
  .arithmetic .add, .arithmetic .sub, .arithmetic .mul, .arithmetic .div,
  .function .sqrt, .function .neg, .function .exp,
  .compare .eq, .compare .neq, .compare .gt, .compare .lt, .compare .ge, .compare .le,
  .label, .jump, .branch, .print, .inputString, .inputNumber, .call, .ret, .breakpoint]

def Opcode.ofName? (name : String) : Option Opcode :=
  Opcode.all.find? fun op => op.name = name

theorem Opcode.mem_all (op : Opcode) : op ∈ Opcode.all := by
  cases op with
  | arithmetic op => cases op <;> decide
  | function op => cases op <;> decide
  | compare op => cases op <;> decide
  | _ => decide

theorem Opcode.ofName?_name (op : Opcode) : Opcode.ofName? op.name = some op := by
  cases op with
  | arithmetic op => cases op <;> decide
  | function op => cases op <;> decide
  | compare op => cases op <;> decide
  | _ => decide

end StackMachine

import StackMachine.Fault
import StackMachine.Numeral.Binary64

/-!
What the operations of the machine do to their operands, apart from where operands come from.
-/

set_option autoImplicit false

namespace StackMachine

open Numeral

/-- Two operands of one numeric kind. Truth values count as integers. -/
inductive OperandPair where
  | ints (first second : Int)
  | floats (first second : Float)

/-- Two values as operands; they have to be numbers of one kind. -/
def OperandPair.of : Value → Value → Except Fault OperandPair
  | .bool a, .bool b => .ok (.ints a.toNat b.toNat)
  | .int a, .int b => .ok (.ints a b)
  | .float a, .float b => .ok (.floats a b)
  | a, b => .error (.operandKinds a.kind b.kind)

/-- Arithmetic on integers; division rounds down. -/
def Arithmetic.onInts : Arithmetic → Int → Int → Except Fault Int
  | .add, a, b => .ok (a + b)
  | .sub, a, b => .ok (a - b)
  | .mul, a, b => .ok (a * b)
  | .div, a, b => if b = 0 then .error .integerDivisionByZero else .ok (Int.fdiv a b)

def Arithmetic.onFloats : Arithmetic → Float → Float → Except Fault Float
  | .add, a, b => .ok (a + b)
  | .sub, a, b => .ok (a - b)
  | .mul, a, b => .ok (a * b)
  | .div, a, b => if b == 0 then .error .floatDivisionByZero else .ok (a / b)

/-- Arithmetic on two values, the first of them taken from the top of the stack. -/
def Arithmetic.apply (op : Arithmetic) (first second : Value) : Except Fault Value :=
  match OperandPair.of first second with
  | .ok (.ints a b) => (op.onInts a b).map Value.int
  | .ok (.floats a b) => (op.onFloats a b).map Value.float
  | .error fault => .error fault

def Comparison.onInts : Comparison → Int → Int → Bool
  | .eq, a, b => decide (a = b)
  | .neq, a, b => decide (a ≠ b)
  | .gt, a, b => decide (a > b)
  | .lt, a, b => decide (a < b)
  | .ge, a, b => decide (a ≥ b)
  | .le, a, b => decide (a ≤ b)

def Comparison.onFloats : Comparison → Float → Float → Bool
  | .eq, a, b => a == b
  | .neq, a, b => a != b
  | .gt, a, b => decide (a > b)
  | .lt, a, b => decide (a < b)
  | .ge, a, b => decide (a ≥ b)
  | .le, a, b => decide (a ≤ b)

/-- The comparison of two values: one if it holds, else zero. -/
def Comparison.apply (op : Comparison) (first second : Value) : Except Fault Value :=
  let flag (holds : Bool) : Value := .int (if holds then 1 else 0)
  match OperandPair.of first second with
  | .ok (.ints a b) => .ok (flag (op.onInts a b))
  | .ok (.floats a b) => .ok (flag (op.onFloats a b))
  | .error fault => .error fault

def Number.toFloat : Number → Except Fault Float
  | .float x => .ok x
  | .int n =>
    match ofInteger? n with
    | some x => .ok x
    | none => .error .integerTooLarge

/-- The square root of a number that is not negative. -/
def squareRoot (x : Float) : Except Fault Float :=
  if x < 0 then .error .mathDomain else .ok x.sqrt

/-- The exponential of a number; it is out of range if it is infinite and the number is not. -/
def exponential (x : Float) : Except Fault Float :=
  let result := x.exp
  if result.isInf && !x.isInf then .error .mathRange else .ok result

def UnaryFunction.apply (function : UnaryFunction) (operand : Value) : Except Fault Value :=
  match operand.number? with
  | none => .error (.operandKind operand.kind)
  | some number =>
    match function, number with
    | .neg, .int n => .ok (.int (-n))
    | .neg, .float x => .ok (.float (-x))
    | .sqrt, number => (number.toFloat >>= squareRoot).map Value.float
    | .exp, number => (number.toFloat >>= exponential).map Value.float

end StackMachine

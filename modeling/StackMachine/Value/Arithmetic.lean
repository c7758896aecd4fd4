import StackMachine.Machine.Operation

/-!
Arithmetic on any values: numbers of either kind may be mixed, texts and lists can be joined and
repeated, and everything else is refused.
-/

set_option autoImplicit false

namespace StackMachine

open Numeral

/-- Combines two numbers: integers among themselves, and otherwise as floating-point numbers. -/
def Number.combine (onInts : Int → Int → Except Fault Int) (onFloats : Float → Float → Except Fault Float) :
    Number → Number → Except Fault Value
  | .int a, .int b => (onInts a b).map Value.int
  | a, b => do
    let x ← a.toFloat
    let y ← b.toFloat
    (onFloats x y).map Value.float

def Value.combine (operator : String) (onInts : Int → Int → Except Fault Int)
    (onFloats : Float → Float → Except Fault Float) (left right : Value) : Except Fault Value :=
  match left.number?, right.number? with
  | some a, some b => Number.combine onInts onFloats a b
  | _, _ => .error (.unsupportedOperands operator left.kind right.kind)

/-- The sum of two numbers, or two texts or two lists joined. -/
def Value.plus (left right : Value) : Except Fault Value :=
  match left, right with
  | .text s, .text t => .ok (.text (s ++ t))
  | .text _, other => .error (.cannotConcatenate .text other.kind)
  | .list xs, .list ys => .ok (.list (xs ++ ys))
  | .list _, other => .error (.cannotConcatenate .list other.kind)
  | left, right => Value.combine "+" Arithmetic.add.onInts Arithmetic.add.onFloats left right

def Value.minus (left right : Value) : Except Fault Value :=
  Value.combine "-" Arithmetic.sub.onInts Arithmetic.sub.onFloats left right

def floorDivideFloats (x y : Float) : Except Fault Float :=
  if y == 0 then .error .floatFloorDivisionByZero else .ok (floorQuotient x y)

def Value.floorDivide (left right : Value) : Except Fault Value :=
  Value.combine "//" Arithmetic.div.onInts floorDivideFloats left right

/-- How often a value says that a sequence is to be repeated. -/
def Value.count? : Value → Option Nat
  | .int n => some n.toNat
  | .bool b => some b.toNat
  | _ => none

def Value.repeated (sequence count : Value) : Except Fault Value :=
  match sequence, count.count? with
  | .text s, some n => .ok (.text (String.ofList (List.replicate n s.toList).flatten))
  | .list items, some n => .ok (.list (List.replicate n items).flatten)
  | _, _ => .error (.cannotRepeat count.kind)

/-- The product of two numbers, or a text or list repeated. -/
def Value.times (left right : Value) : Except Fault Value :=
  match left.kind, right.kind with
  | .text, _ | .list, _ => left.repeated right
  | _, .text | _, .list => right.repeated left
  | _, _ => Value.combine "*" Arithmetic.mul.onInts Arithmetic.mul.onFloats left right

end StackMachine

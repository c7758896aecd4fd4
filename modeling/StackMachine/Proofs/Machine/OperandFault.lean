import StackMachine.Machine.Operation

/-!
What operations can fail with once they have their operands: a failed assertion, a division by zero, or a
number that a function is not defined at or that is out of range.
-/

set_option autoImplicit false

namespace StackMachine

/-- Whether a fault is of a class that operands can be at fault for. -/
def Fault.blamesOperands (fault : Fault) : Bool :=
  match fault.classOf with
  | .assertion | .division | .value | .overflow => true
  | _ => false

theorem OperandPair.of_eq_error {first second : Value} {fault : Fault}
    (failed : of first second = .error fault) : fault = .operandKinds first.kind second.kind := by
  unfold of at failed
  split at failed <;> cases failed
  rfl

theorem eq_error_of_map {α β : Type} {f : α → β} {result : Except Fault α} {fault : Fault}
    (failed : result.map f = .error fault) : result = .error fault := by
  cases result with
  | ok value => cases failed
  | error other => exact congrArg Except.error (Except.error.inj failed)

theorem Arithmetic.blamesOperands_of_apply {op : Arithmetic} {first second : Value} {fault : Fault}
    (failed : op.apply first second = .error fault) : fault.blamesOperands = true := by
  unfold Arithmetic.apply at failed
  cases operands : OperandPair.of first second with
  | error other =>
      rw [operands] at failed
      obtain rfl := Except.error.inj failed
      rw [OperandPair.of_eq_error operands]
      rfl
  | ok pair =>
      rw [operands] at failed
      cases pair with
      | ints a b =>
          have onInts := eq_error_of_map failed
          cases op with
          | div =>
              simp only [Arithmetic.onInts] at onInts
              split at onInts <;> cases onInts
              rfl
          | _ => cases onInts
      | floats a b =>
          have onFloats := eq_error_of_map failed
          cases op with
          | div =>
              simp only [Arithmetic.onFloats] at onFloats
              split at onFloats <;> cases onFloats
              rfl
          | _ => cases onFloats

theorem Comparison.blamesOperands_of_apply {op : Comparison} {first second : Value} {fault : Fault}
    (failed : op.apply first second = .error fault) : fault.blamesOperands = true := by
  unfold Comparison.apply at failed
  cases operands : OperandPair.of first second with
  | error other =>
      rw [operands] at failed
      obtain rfl := Except.error.inj failed
      rw [OperandPair.of_eq_error operands]
      rfl
  | ok pair =>
      rw [operands] at failed
      cases pair <;> cases failed

/-- Both functions that work on floating-point numbers only: the number may be too large, or the function
not defined at it. -/
theorem Number.blamesOperands_of_bind {number : Number} {function : Float → Except Fault Float}
    (partly : ∀ x fault, function x = .error fault → fault.blamesOperands = true) {fault : Fault}
    (failed : number.toFloat >>= function = .error fault) : fault.blamesOperands = true := by
  cases converted : number.toFloat with
  | ok x =>
      rw [converted] at failed
      exact partly x fault failed
  | error other =>
      rw [converted] at failed
      obtain rfl := Except.error.inj failed
      unfold Number.toFloat at converted
      split at converted
      · cases converted
      · split at converted <;> cases converted
        rfl

theorem UnaryFunction.blamesOperands_of_apply {function : UnaryFunction} {operand : Value} {fault : Fault}
    (failed : function.apply operand = .error fault) : fault.blamesOperands = true := by
  unfold UnaryFunction.apply at failed
  cases numeric : operand.number? with
  | none =>
      rw [numeric] at failed
      cases failed
      rfl
  | some number =>
      rw [numeric] at failed
      cases function with
      | neg => cases number <;> cases failed
      | sqrt =>
          refine Number.blamesOperands_of_bind ?_ (eq_error_of_map failed)
          intro x other undefined
          unfold squareRoot at undefined
          split at undefined <;> cases undefined
          rfl
      | exp =>
          refine Number.blamesOperands_of_bind ?_ (eq_error_of_map failed)
          intro x other beyond
          unfold exponential at beyond
          dsimp only at beyond
          split at beyond <;> cases beyond
          rfl

end StackMachine

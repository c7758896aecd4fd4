import Mathlib.Data.Rat.Floor
import StackMachine.Proofs.Machine.Binding

/-!
Arithmetic expressions and their postfix listings. The right operand of an operation is put on the stack before
the left one, so that the left one is on top and is taken first. Carrying out a listing then leaves the value of
the expression on the stack and changes nothing else, unless there is a division by zero in it, and in that case
it fails for that.
-/

set_option autoImplicit false

namespace StackMachine

/-- An expression over integers and the variables of a machine. -/
inductive Expression where
  | constant (n : Int)
  | named (name : Value)
  | binary (op : Arithmetic) (left right : Expression)
  | negated (operand : Expression)

/-- The result of an operation. The quotient is rounded down, and there is none by zero. -/
def Arithmetic.result? : Arithmetic → Int → Int → Option Int
  | .add, a, b => some (a + b)
  | .sub, a, b => some (a - b)
  | .mul, a, b => some (a * b)
  | .div, a, b => if b = 0 then none else some ⌊(a : ℚ) / b⌋

namespace Expression

def value? (assigned : Value → Int) : Expression → Option Int
  | .constant n => some n
  | .named name => some (assigned name)
  | .binary op left right =>
    match left.value? assigned, right.value? assigned with
    | some a, some b => op.result? a b
    | _, _ => none
  | .negated operand => (operand.value? assigned).map (- ·)

def names : Expression → List Value
  | .constant _ => []
  | .named name => [name]
  | .binary _ left right => left.names ++ right.names
  | .negated operand => operand.names

/-- What is divided by anywhere in an expression. -/
def divisors : Expression → List Expression
  | .constant _ => []
  | .named _ => []
  | .binary op left right =>
    (if op = .div then [right] else []) ++ (left.divisors ++ right.divisors)
  | .negated operand => operand.divisors

def listing : Expression → List Instruction
  | .constant n => [.of .loadConst [.int n]]
  | .named name => [.of .loadVar [name]]
  | .binary op left right => right.listing ++ (left.listing ++ [.of (.arithmetic op) []])
  | .negated operand => operand.listing ++ [.of (.function .neg) []]

end Expression

theorem Arithmetic.result?_eq_none_iff {op : Arithmetic} {a b : Int} :
    op.result? a b = none ↔ op = .div ∧ b = 0 := by
  cases op <;> simp [result?]

/-- An expression lacks a value exactly if it divides by something that has the value zero. -/
theorem Expression.value?_eq_none_iff (assigned : Value → Int) (expression : Expression) :
    expression.value? assigned = none ↔
      ∃ divisor ∈ expression.divisors, divisor.value? assigned = some 0 := by
  induction expression with
  | constant n => simp [value?, divisors]
  | named name => simp [value?, divisors]
  | negated operand ih => simp [value?, divisors, ih]
  | binary op left right leftIH rightIH =>
      have own : (∃ divisor ∈ if op = .div then [right] else [], divisor.value? assigned = some 0) ↔
          op = .div ∧ right.value? assigned = some 0 := by
        split <;> simp [*]
      simp only [divisors, List.mem_append, or_and_right, exists_or, own, ← leftIH, ← rightIH, value?]
      cases left.value? assigned with
      | none => simp
      | some a =>
          cases right.value? assigned with
          | none => simp
          | some b => simp [Arithmetic.result?_eq_none_iff]

theorem fdiv_eq_floor (a b : Int) : a.fdiv b = ⌊(a : ℚ) / b⌋ := by
  have natural (a : Int) (b : Nat) : a.fdiv b = ⌊(a : ℚ) / (b : Int)⌋ := by
    rw [Int.fdiv_eq_ediv_of_nonneg _ (Int.natCast_nonneg b), Int.cast_natCast, Rat.floor_intCast_div_natCast]
  obtain ⟨n, rfl | rfl⟩ := b.eq_nat_or_neg
  · exact natural a n
  · -- Both signs are turned, which changes neither quotient.
    rw [← Int.neg_fdiv_neg, neg_neg, natural, Int.cast_neg, Int.cast_neg, neg_div, div_neg]

namespace Outcome

/-- Goes on from an outcome, unless it is a failure. -/
def andThen (outcome : Outcome) (next : Machine → Console → Outcome) : Outcome :=
  match outcome.fault with
  | some _ => outcome
  | none => next outcome.machine outcome.console

theorem andThen_done (outcome : Outcome) : outcome.andThen .done = outcome := by
  obtain ⟨machine, console, fault⟩ := outcome
  cases fault <;> rfl

theorem andThen_assoc (outcome : Outcome) (next later : Machine → Console → Outcome) :
    (outcome.andThen next).andThen later =
      outcome.andThen fun machine console => (next machine console).andThen later := by
  obtain ⟨machine, console, fault⟩ := outcome
  cases fault <;> rfl

end Outcome

namespace Machine

/-- Carries out instructions one after the other, up to the first that fails. -/
def executeAll (labels : Labels) (machine : Machine) (console : Console) : List Instruction → Outcome
  | [] => .done machine console
  | instruction :: rest =>
    (machine.execute labels console instruction).andThen fun machine console =>
      executeAll labels machine console rest

theorem executeAll_singleton (labels : Labels) (machine : Machine) (console : Console)
    (instruction : Instruction) :
    machine.executeAll labels console [instruction] = machine.execute labels console instruction :=
  Outcome.andThen_done _

theorem executeAll_append (labels : Labels) (machine : Machine) (console : Console)
    (code rest : List Instruction) :
    machine.executeAll labels console (code ++ rest) =
      (machine.executeAll labels console code).andThen fun machine console =>
        machine.executeAll labels console rest := by
  induction code generalizing machine console with
  | nil => rfl
  | cons instruction code ih => simp only [List.cons_append, executeAll, ih, Outcome.andThen_assoc]

/-- How a machine may come out of an evaluation: with a value on top of a stack that is otherwise the same, or
failed by a division by zero, with what had been worked out so far still there. -/
inductive Evaluates (machine : Machine) (console : Console) : Option Int → Outcome → Prop where
  | value (n : Int) : Evaluates machine console (some n) (.done (machine.push (.int n)) console)
  | division {stack : List Value} (kept : machine.stack <:+ stack) :
      Evaluates machine console none (.fail { machine with stack } console .integerDivisionByZero)

theorem evaluates_arithmetic (labels : Labels) (machine : Machine) (console : Console) (op : Arithmetic)
    (a b : Int) :
    Evaluates machine console (op.result? a b)
      (((machine.push (.int b)).push (.int a)).execute labels console (.of (.arithmetic op) [])) := by
  cases op with
  | add => exact .value (a + b)
  | sub => exact .value (a - b)
  | mul => exact .value (a * b)
  | div =>
      change Evaluates machine console _ (machine.deliver console ((Arithmetic.div.onInts a b).map Value.int))
      rw [Arithmetic.result?, Arithmetic.onInts, ← fdiv_eq_floor]
      split
      · exact .division List.suffix_rfl
      · exact .value (a.fdiv b)

theorem evaluates_load (labels : Labels) {machine : Machine} (console : Console) {name : Value} {n : Int}
    (bound : machine.bindings.get? name = some (.int n)) :
    Evaluates machine console (some n) (machine.execute labels console (.of .loadVar [name])) := by
  rw [execute_loadVar labels console bound]
  exact .value n

/-- A listing evaluates its expression, on top of whatever is on the stack. -/
theorem evaluates_listing (labels : Labels) {machine : Machine} (console : Console)
    {assigned : Value → Int} {expression : Expression}
    (bound : ∀ name ∈ expression.names, machine.bindings.get? name = some (.int (assigned name))) :
    Evaluates machine console (expression.value? assigned)
      (machine.executeAll labels console expression.listing) := by
  -- The left operand is evaluated over the right one, so the induction is for all stacks at once.
  induction expression generalizing machine with
  | constant n => exact .value n
  | named name =>
      rw [Expression.listing, executeAll_singleton]
      exact evaluates_load labels console (bound name List.mem_cons_self)
  | negated operand ih =>
      have inner := ih bound
      rw [Expression.listing, executeAll_append, Expression.value?]
      generalize operand.value? assigned = value at inner ⊢
      generalize machine.executeAll labels console operand.listing = outcome at inner ⊢
      cases inner with
      | value n => exact .value (-n)
      | division kept => exact .division kept
  | binary op left right leftIH rightIH =>
      have onRight := rightIH fun name member => bound name (List.mem_append_right _ member)
      rw [Expression.listing, executeAll_append, Expression.value?]
      generalize right.value? assigned = value at onRight ⊢
      generalize machine.executeAll labels console right.listing = outcome at onRight ⊢
      cases onRight with
      | division kept => cases left.value? assigned <;> exact .division kept
      | value b =>
          have onLeft := @leftIH (machine.push (.int b)) fun name member =>
            bound name (List.mem_append_left _ member)
          change Evaluates machine console _ ((machine.push (.int b)).executeAll labels console _)
          rw [executeAll_append]
          generalize left.value? assigned = value at onLeft ⊢
          generalize (machine.push (.int b)).executeAll labels console left.listing = outcome at onLeft ⊢
          cases onLeft with
          | division kept => exact .division ((List.suffix_cons _ machine.stack).trans kept)
          | value a =>
              change Evaluates machine console (op.result? a b) (executeAll labels _ console _)
              rw [executeAll_singleton]
              exact evaluates_arithmetic labels machine console op a b

/-- Suppose the variables of an expression are bound to integers. If nothing that it divides by has the value zero,
the expression has a value, and its listing, carried out one instruction after the other in any machine, puts
exactly that value on the stack and changes nothing else. If something that it divides by has the value zero, the
listing fails with a division by zero, and then too it has taken nothing from below and changed nothing else. -/
theorem listing_leaves_value (expression : Expression) (assigned : Value → Int) (labels : Labels)
    (machine : Machine) (console : Console)
    (bound : ∀ name ∈ expression.names, machine.bindings.get? name = some (.int (assigned name))) :
    ((∀ divisor ∈ expression.divisors, divisor.value? assigned ≠ some 0) →
      ∃ n, expression.value? assigned = some n ∧
        machine.executeAll labels console expression.listing =
          .done { machine with stack := .int n :: machine.stack } console) ∧
    ((∃ divisor ∈ expression.divisors, divisor.value? assigned = some 0) →
      ∃ stack, machine.stack <:+ stack ∧
        machine.executeAll labels console expression.listing =
          .fail { machine with stack } console .integerDivisionByZero) := by
  have evaluates := evaluates_listing labels console bound
  have valueless := expression.value?_eq_none_iff assigned
  generalize expression.value? assigned = value at evaluates valueless ⊢
  generalize machine.executeAll labels console expression.listing = outcome at evaluates ⊢
  constructor
  · intro defined
    cases evaluates with
    | value n => exact ⟨n, rfl, rfl⟩
    | division =>
        obtain ⟨divisor, member, zero⟩ := valueless.mp rfl
        exact absurd zero (defined divisor member)
  · intro undefined
    cases evaluates with
    | value n => cases valueless.mpr undefined
    | division kept => exact ⟨_, kept, rfl⟩

def assigning : Machine where
  stack := [.text "kept"]
  bindings := ⟨[(.text "a", .int 7), (.text "b", .int (-2))]⟩
  ip := 4

def assignedThere (name : Value) : Int :=
  if name.same (.text "a") then 7 else -2

/-- `a // b - 3` -/
def rounding : Expression :=
  .binary .sub (.binary .div (.named (.text "a")) (.named (.text "b"))) (.constant 3)

/-- `-(5 // (a - 7)) * b` -/
def dividingByZero : Expression :=
  .binary .mul
    (.negated (.binary .div (.constant 5) (.binary .sub (.named (.text "a")) (.constant 7))))
    (.named (.text "b"))

/-- Seven over minus two is minus four, rounded down. Where the division fails, the right operand of the product has
been put on the stack before. -/
theorem listing_leaves_value_rounding :
    assigning.executeAll .empty {} rounding.listing = .done (assigning.push (.int (-7))) {} ∧
      ∃ stack, assigning.executeAll .empty {} dividingByZero.listing =
        .fail { assigning with stack } {} .integerDivisionByZero ∧ [.text "kept"] <:+ stack := by
  have rounds := listing_leaves_value rounding assignedThere .empty assigning {}
    (List.forall_mem_cons.mpr ⟨rfl, List.forall_mem_singleton.mpr rfl⟩)
  have fails := listing_leaves_value dividingByZero assignedThere .empty assigning {}
    (List.forall_mem_cons.mpr ⟨rfl, List.forall_mem_singleton.mpr rfl⟩)
  obtain ⟨n, value, executed⟩ := rounds.1 (List.forall_mem_singleton.mpr (by decide +kernel))
  have known : rounding.value? assignedThere = some (-7) := by decide +kernel
  obtain rfl := Option.some.inj (known.symm.trans value)
  obtain ⟨stack, kept, failed⟩ := fails.2 ⟨_, List.mem_cons_self, by decide +kernel⟩
  exact ⟨executed, stack, failed, kept⟩

end Machine

end StackMachine

import StackMachine.Proofs.Machine.Naming

/-!
Variables as a finite map. Names are texts, integers and truth values, and names that are equal name one variable,
as the integer one and the truth value of one do. No two names that are bound in one scope are equal, whatever has
been carried out before. A store is seen under all names equal to its own and under no other, and it keeps the name
that was there and its place.
-/

set_option autoImplicit false

namespace StackMachine

/-- Whether a value is a text, an integer or a truth value. -/
def Value.isName : Value → Bool
  | .text _ | .int _ | .bool _ => true
  | _ => false

namespace Value

variable {a b : Value}

theorem hashable_of_isName (name : a.isName = true) : a.hashable = true := by
  cases a with
  | list | dict => cases name
  | _ => rfl

theorem same_of_isName (name : a.isName = true) (b : Value) : a.same b = sameKey a.key? b.key? := by
  cases a with
  | text | int | bool => rw [same] <;> nofun
  | _ => cases name

end Value

theorem sameKey_congr {left right : Option Key} (same : sameKey left right = true) (key : Option Key) :
    sameKey key left = sameKey key right := by
  obtain ⟨own, rfl, rfl⟩ := sameKey_eq_true_iff.mp same
  rfl

theorem sameKey_comm (left right : Option Key) : sameKey left right = sameKey right left := by
  rw [Bool.eq_iff_iff, sameKey_eq_true_iff, sameKey_eq_true_iff]
  simp only [and_comm]

namespace Table

variable {α : Type}

/-- A table in which no two names have the same key. -/
def Distinct (table : Table α) : Prop :=
  table.entries.Pairwise fun one other => sameKey one.1.key? other.1.key? = false

theorem Distinct.insert {table : Table α} (distinct : table.Distinct) (name : Value) (content : α) :
    (table.insert name content).Distinct := by
  obtain ⟨entries⟩ := table
  change (store name content entries).Pairwise _
  induction entries with
  | nil => exact List.pairwise_singleton _ _
  | cons first rest ih =>
      obtain ⟨other, old⟩ := first
      obtain ⟨apart, later⟩ := List.pairwise_cons.mp distinct
      rw [store]
      split
      · exact List.pairwise_cons.mpr ⟨apart, later⟩
      · next different =>
          -- The name comes behind this entry, and is not equal to its name.
          have apartFromName : sameKey other.key? name.key? = false := Bool.eq_false_iff.mpr different
          constructor
          · exact forall_names_store (P := fun name => sameKey other.key? name.key? = false) apartFromName
              content apart
          · exact ih later

/-- Storing under a name whose key is there already puts the content in the place of the old one. -/
theorem Distinct.entries_insert {table : Table α} (distinct : table.Distinct) {name other : Value}
    {old : α} {before rest : List (Value × α)} (found : table.entries = before ++ (other, old) :: rest)
    (same : sameKey other.key? name.key? = true) (content : α) :
    (table.insert name content).entries = before ++ (other, content) :: rest := by
  obtain ⟨entries⟩ := table
  obtain rfl : entries = before ++ (other, old) :: rest := found
  change store name content _ = _
  induction before with
  | nil => rw [List.nil_append, store, if_pos same, List.nil_append]
  | cons first before ih =>
      obtain ⟨apart, later⟩ := List.pairwise_cons.mp distinct
      have different : sameKey first.1.key? name.key? = false := by
        rw [← sameKey_congr same]
        exact apart (other, old) (by simp)
      rw [List.cons_append, store, different]
      exact congrArg (first :: ·) (ih later)

theorem hashable_of_get? {table : Table α} {name : Value} {content : α}
    (found : table.get? name = some content) : name.hashable = true := by
  have keyless (entries : List (Value × α)) : find? none entries = none := by
    induction entries with
    | nil => rfl
    | cons entry rest ih =>
        have different : sameKey entry.1.key? none = false := by cases entry.1.key? <;> rfl
        rw [find?, different]
        exact ih
  cases name with
  | list items => exact absurd found (by simp [get?, Value.key?, keyless])
  | dict entries => exact absurd found (by simp [get?, Value.key?, keyless])
  | _ => rfl

end Table

namespace Machine

theorem execute_loadVar (labels : Labels) {machine : Machine} (console : Console) {name value : Value}
    (found : machine.bindings.get? name = some value) :
    machine.execute labels console (.of .loadVar [name]) = .done (machine.push value) console := by
  change machine.load console name = _
  rw [load, if_pos (Table.hashable_of_get? found), found]

theorem execute_loadVar_missing (labels : Labels) {machine : Machine} (console : Console) {name : Value}
    (hashable : name.hashable = true) (missing : machine.bindings.get? name = none) :
    machine.execute labels console (.of .loadVar [name]) = .fail machine console (.undefined name) := by
  change machine.load console name = _
  rw [load, if_pos hashable, missing]

theorem execute_storeVar (labels : Labels) {machine : Machine} (console : Console) {name value : Value}
    {stack : List Value} (operands : machine.stack = value :: stack) (hashable : name.hashable = true) :
    machine.execute labels console (.of .storeVar [name]) =
      .done { machine with stack, bindings := machine.bindings.insert name value } console := by
  change machine.store console name = _
  rw [store, pop, operands]
  exact if_pos hashable

theorem exists_operand_of_storeVar {labels : Labels} {machine : Machine} {console : Console} {name : Value}
    (succeeded : (machine.execute labels console (.of .storeVar [name])).fault = none) :
    ∃ value stack, machine.stack = value :: stack := by
  cases operands : machine.stack with
  | nil =>
      change (machine.store console name).fault = none at succeeded
      rw [store, pop, operands] at succeeded
      cases succeeded
  | cons value stack => exact ⟨value, stack, rfl⟩

/-- Two machines that answer a load alike. Both push the same value, or both fail, and then it is because the
variable is not defined, unless its name is too long for the message to be written. -/
inductive LoadsAlike (one other : Machine) (labels : Labels) (console : Console) (name : Value) : Prop where
  | pushed (value : Value)
      (first : one.execute labels console (.of .loadVar [name]) = .done (one.push value) console)
      (second : other.execute labels console (.of .loadVar [name]) = .done (other.push value) console)
  | undefined (fault : Fault)
      (short : name.printable = true → fault = .undefinedVariable name)
      (long : name.printable = false → fault = .writtenTooLong)
      (first : one.execute labels console (.of .loadVar [name]) = .fail one console fault)
      (second : other.execute labels console (.of .loadVar [name]) = .fail other console fault)

theorem loadsAlike_of_get? (labels : Labels) (console : Console) {one other : Machine} {name : Value}
    (hashable : name.hashable = true) (same : other.bindings.get? name = one.bindings.get? name) :
    LoadsAlike one other labels console name := by
  cases found : one.bindings.get? name with
  | some value =>
      exact .pushed value (execute_loadVar labels console found) (execute_loadVar labels console (same.trans found))
  | none =>
      refine .undefined (.undefined name) ?_ ?_ (execute_loadVar_missing labels console hashable found)
        (execute_loadVar_missing labels console hashable (same.trans found))
      · exact fun printable => if_pos printable
      · exact fun long => if_neg (Bool.eq_false_iff.mp long)

end Machine

/-- Whether the variable that an instruction may store or load is named by a text, an integer or a truth value. -/
def Instruction.NamesVariables (instruction : Instruction) : Prop :=
  instruction.is .storeVar = true ∨ instruction.is .loadVar = true →
    ∀ name ∈ instruction.args, name.isName = true

namespace Machine

/-- The machines that a new one can become: by instructions with such names, under any labels and on any console,
whether they fail or not, and by setting the instruction pointer. -/
inductive Reached : Machine → Prop where
  | fresh : Reached {}
  | execute {machine : Machine} (before : Reached machine) (labels : Labels) (console : Console)
      (instruction : Instruction) (named : instruction.NamesVariables) :
      Reached (machine.execute labels console instruction).machine
  | moveTo {machine : Machine} (before : Reached machine) (ip : Int) : Reached { machine with ip }

/-- Variables with such names, no two of them equal. -/
structure Mapped (bindings : Bindings) : Prop where
  named : ∀ entry ∈ bindings.entries, entry.1.isName = true
  distinct : bindings.Distinct

theorem Mapped.insert {bindings : Bindings} (mapped : Mapped bindings) {name : Value}
    (own : name.isName = true) (value : Value) : Mapped (bindings.insert name value) where
  named := Table.forall_names_store (P := fun name => name.isName = true) own value mapped.named
  distinct := mapped.distinct.insert name value

theorem Mapped.pairwise_same {bindings : Bindings} (mapped : Mapped bindings) :
    bindings.entries.Pairwise fun one other => one.1.same other.1 = false := by
  apply mapped.distinct.imp_of_mem
  intro one other member _ different
  rw [Value.same_of_isName (mapped.named one member)]
  exact different

theorem Reached.mapped {machine : Machine} (reached : machine.Reached) : machine.EachScope Mapped := by
  have fresh : Mapped .empty := ⟨nofun, .nil⟩
  induction reached with
  | fresh => exact ⟨fresh, nofun⟩
  | execute before labels console instruction named ih =>
      refine (execute_effect labels _ console instruction).eachScope fresh ?_ ih
      intro bindings name value isStore args mapped
      exact mapped.insert (named (.inl isStore) name (by simp [args])) value
  | moveTo before ip ih => exact ih

theorem Reached.pairwise_same {machine : Machine} (reached : machine.Reached) {bindings : Bindings}
    (scope : bindings ∈ machine.bindings :: machine.frames) :
    bindings.entries.Pairwise fun one other => one.1.same other.1 = false := by
  obtain ⟨own, saved⟩ := reached.mapped
  rcases List.mem_cons.mp scope with rfl | member
  · exact own.pairwise_same
  · exact (saved bindings member).pairwise_same

/-- In a machine that a new one can become, no two names of one scope are equal. A store that succeeds is seen by the
loads under equal names and by no other, and under a name that is there already it only changes the value. -/
theorem variables_form_finite_map {machine : Machine} (reached : machine.Reached) :
    (∀ bindings ∈ machine.bindings :: machine.frames,
      bindings.entries.Pairwise fun one other => one.1.same other.1 = false) ∧
    ∀ (labels : Labels) (console : Console) (a : Value), a.isName = true →
      (machine.execute labels console (.of .storeVar [a])).fault = none →
      ∃ (value : Value) (after : Machine),
        machine.execute labels console (.of .storeVar [a]) = .done after console ∧
        machine.stack = value :: after.stack ∧
        (∀ b : Value, b.isName = true →
          (b.same a = true →
            after.execute labels console (.of .loadVar [b]) = .done (after.push value) console) ∧
          (b.same a = false → LoadsAlike machine after labels console b)) ∧
        ∀ (before rest : List (Value × Value)) (other old : Value),
          machine.bindings.entries = before ++ (other, old) :: rest → other.same a = true →
          after.bindings.entries = before ++ (other, value) :: rest := by
  refine ⟨fun bindings scope => reached.pairwise_same scope, ?_⟩
  intro labels console a name succeeded
  obtain ⟨value, stack, operands⟩ := exists_operand_of_storeVar succeeded
  have stored := execute_storeVar labels console operands (Value.hashable_of_isName name)
  refine ⟨value, _, stored, operands, ?_, ?_⟩
  · intro b otherName
    have looked := Table.get?_insert machine.bindings a b value
    rw [sameKey_comm, ← Value.same_of_isName otherName] at looked
    constructor
    · intro same
      exact execute_loadVar labels console (looked.trans (if_pos same))
    · intro different
      exact loadsAlike_of_get? labels console (Value.hashable_of_isName otherName)
        (looked.trans (if_neg (Bool.eq_false_iff.mp different)))
  · intro before rest other old found same
    have mapped := reached.mapped.1
    have otherName : other.isName = true := mapped.named (other, old) (by simp [found])
    rw [Value.same_of_isName otherName] at same
    exact mapped.distinct.entries_insert found same value

/-- A call made where the variable 1 is bound, and in it a variable with an equal name. -/
def calling : Machine where
  stack := [.int 9]
  bindings := ⟨[(.bool true, .text "in"), (.text "y", .int 2)]⟩
  frames := [⟨[(.int 1, .text "x")]⟩]
  saved := [⟨.text entryPoint, 0⟩]
  ip := -1
  current := .text "f"

theorem reached_calling : calling.Reached := by
  have load {machine : Machine} (before : machine.Reached) (value : Value) : (machine.push value).Reached :=
    before.execute .empty {} (.of .loadConst [value]) nofun
  have store {machine : Machine} (before : machine.Reached) (name : Value) (own : name.isName = true) :=
    before.execute .empty {} (.of .storeVar [name]) fun _ => List.forall_mem_singleton.mpr own
  have outer := store (load .fresh (.text "x")) (.int 1) rfl
  have called := (load outer (.text "f")).execute .empty {} (.of .call []) nofun
  have inner := store (load called (.text "in")) (.bool true) rfl
  exact load (store (load inner (.int 2)) (.text "y") rfl) (.int 9)

/-- The variable keeps the name and the place that it had, and is loaded under either name. -/
theorem variables_form_finite_map_calling :
    ∃ after, calling.execute .empty {} (.of .storeVar [.int 1]) = .done after {} ∧
      after.bindings.entries = [(.bool true, .int 9), (.text "y", .int 2)] ∧
      after.execute .empty {} (.of .loadVar [.bool true]) = .done (after.push (.int 9)) {} ∧
      after.execute .empty {} (.of .loadVar [.int 1]) = .done (after.push (.int 9)) {} ∧
      LoadsAlike calling after .empty {} (.text "y") ∧ LoadsAlike calling after .empty {} (.text "x") := by
  obtain ⟨-, stores⟩ := variables_form_finite_map reached_calling
  obtain ⟨value, after, stored, operands, loads, kept⟩ := stores .empty {} (.int 1) rfl rfl
  obtain ⟨rfl, -⟩ := List.cons.inj operands
  refine ⟨after, stored, kept [] _ _ _ rfl rfl, ?_, ?_, ?_, ?_⟩
  · exact (loads (.bool true) rfl).1 rfl
  · exact (loads (.int 1) rfl).1 rfl
  · exact (loads (.text "y") rfl).2 rfl
  · exact (loads (.text "x") rfl).2 rfl

/-- A missing variable whose name has too many digits is not reported as one: the load fails because the message
cannot be written. -/
theorem load_fails_for_digits_of_name :
    ∃ (machine after : Machine) (name : Value), machine.Reached ∧ name.isName = true ∧
      name.same (.text "a") = false ∧
      machine.execute .empty {} (.of .storeVar [.text "a"]) = .done after {} ∧
      after.execute .empty {} (.of .loadVar [name]) = .fail after {} .writtenTooLong := by
  have long : Value.printable (.int Numeral.decimalBound) = false := by decide +kernel
  refine ⟨Machine.push {} (.int 1), { bindings := ⟨[(.text "a", .int 1)]⟩ }, .int Numeral.decimalBound,
    Reached.fresh.execute .empty {} (.of .loadConst [.int 1]) nofun, rfl, rfl, rfl, ?_⟩
  rw [execute_loadVar_missing .empty {} rfl rfl, Fault.undefined, if_neg (Bool.eq_false_iff.mp long)]

end Machine

end StackMachine

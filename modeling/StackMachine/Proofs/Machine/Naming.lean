import StackMachine.Proofs.Machine.Effect
import StackMachine.Proofs.Program.Labels

/-!
Names of variables. A variable is stored under an argument of the instruction that stores it, and arguments that
were read or spelled can be written. So a machine that starts without variables never has one whose name cannot be
shown, however long the integers are that it computes.
-/

set_option autoImplicit false

namespace StackMachine

namespace Table

variable {α : Type} {name : Value}

theorem forall_names_store {P : Value → Prop} {entries : List (Value × α)} (own : P name) (content : α)
    (held : ∀ entry ∈ entries, P entry.1) : ∀ entry ∈ store name content entries, P entry.1 := by
  induction entries with
  | nil => exact List.forall_mem_singleton.mpr own
  | cons first rest ih =>
      obtain ⟨other, old⟩ := first
      obtain ⟨kept, later⟩ := List.forall_mem_cons.mp held
      rw [store]
      split
      · -- An entry that is replaced keeps its name.
        exact List.forall_mem_cons.mpr ⟨kept, later⟩
      · exact List.forall_mem_cons.mpr ⟨kept, ih later⟩

/-- Whether every name in a table can be written. -/
def NamesPrintable (table : Table α) : Prop :=
  ∀ entry ∈ table.entries, entry.1.printable = true

theorem NamesPrintable.insert {table : Table α} (names : table.NamesPrintable) (own : name.printable = true)
    (content : α) : (table.insert name content).NamesPrintable :=
  forall_names_store (P := fun name => name.printable = true) own content names

end Table

/-- A machine whose variables, those that calls have saved included, all have names that can be written. -/
structure Machine.NamesPrintable (machine : Machine) : Prop where
  own : machine.bindings.NamesPrintable
  saved : ∀ bindings ∈ machine.frames, bindings.NamesPrintable

theorem Machine.namesPrintable_fresh : Machine.NamesPrintable {} where
  own := nofun
  saved := nofun

theorem Effect.namesPrintable {labels : Labels} {machine after : Machine} {instruction : Instruction}
    {fault : Option Fault} (effect : Effect labels machine instruction after fault)
    (printable : instruction.printable = true) (names : machine.NamesPrintable) : after.NamesPrintable := by
  have stores (bindings : Bindings) (name value : Value) (_ : instruction.is .storeVar = true)
      (named : instruction.args = [name]) (kept : bindings.NamesPrintable) :
      (bindings.insert name value).NamesPrintable := by
    rw [Instruction.printable, named] at printable
    exact kept.insert (List.all_eq_true.mp printable _ List.mem_cons_self) value
  obtain ⟨own, saved⟩ := effect.eachScope nofun stores ⟨names.own, names.saved⟩
  exact ⟨own, saved⟩

theorem Value.Readable.printable {value : Value} (readable : value.Readable) : value.printable = true := by
  cases readable with
  | int fits => exact fits
  | float | text => rfl

theorem Value.printable_ofWord (word : List Char) : (Value.ofWord word).printable = true := by
  unfold Value.ofWord
  split
  · next read => exact Numeral.fitsDecimal_of_integer? read
  · split <;> rfl

namespace Instruction

theorem Readable.printable {instruction : Instruction} (readable : instruction.Readable) :
    instruction.printable = true := by
  apply List.all_eq_true.mpr
  intro arg member
  exact (readable.args arg member).printable

theorem printable_ofWords (op : Opcode) (words : List (List Char)) :
    (Instruction.of op (words.map Value.ofWord)).printable = true := by
  apply List.all_eq_true.mpr
  intro arg member
  obtain ⟨word, -, rfl⟩ := List.mem_map.mp member
  exact Value.printable_ofWord word

end Instruction

/-- Whether every instruction that a program can run can be shown. -/
def Program.Printable (program : Program) : Prop :=
  ∀ name function, program.function name = .ok function →
    ∀ instruction ∈ function.instructions, instruction.printable = true

def Body.printable : Body → Bool
  | .linked function => function.instructions.all Instruction.printable
  | .unlinked _ => true

theorem Program.printable_of_bodies {program : Program}
    (shown : (program.bodies.all fun body => body.2.printable) = true) : program.Printable := by
  intro name function loaded
  obtain ⟨title, -, member⟩ := mem_bodies_of_function loaded
  exact List.all_eq_true.mp (List.all_eq_true.mp shown _ member)

theorem Program.printable_empty : Program.empty.Printable := by
  intro name function loaded
  obtain ⟨title, -, member⟩ := mem_bodies_of_function loaded
  cases member

theorem Program.printable_of_read {link : Bool} {text : List Char} {program : Program}
    (read : Program.read link text = .ok program) : program.Printable := by
  intro name function loaded instruction member
  obtain ⟨body, readBody⟩ := exists_readBody_of_read read loaded
  obtain ⟨listed, -⟩ := linked_of_readBody readBody
  exact (Listing.readable_of_read listed instruction member).printable

end StackMachine

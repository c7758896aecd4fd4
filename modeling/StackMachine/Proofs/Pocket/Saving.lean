import StackMachine.Pocket.StateFile
import StackMachine.Proofs.Json.Collections

/-!
Saving and loading a pocket machine. A memory of integers and texts has a written form from which loading restores it on
any machine (`load_saved`). Saving never writes it: it empties the file and fails, and what was saved before is lost.
-/

set_option autoImplicit false

namespace StackMachine

namespace Text

theorem decodeUtf8From_cons {c : Char} (plain : Json.isPlain c = true) (bytes : List UInt8) (position : Nat) :
    decodeUtf8From position (String.utf8EncodeChar c ++ bytes) = (c :: ·) <$> decodeUtf8From (position + 1) bytes := by
  simp only [Json.isPlain, Bool.and_eq_true, decide_eq_true_eq] at plain
  have code : c.val.toNat = c.toNat := rfl
  have single : c.utf8Size = 1 := by
    rw [Char.utf8Size_eq_one_iff, UInt32.le_iff_toNat_le, code]
    exact plain.2.trans (by decide)
  have byte : c.val.toUInt8.toNat = c.toNat := by
    rw [UInt32.toNat_toUInt8, code]
    omega
  have small : c.val.toUInt8 < 0x80 := by
    rw [UInt8.lt_iff_toNat_lt, byte]
    exact Nat.lt_of_le_of_lt plain.2 (by decide)
  rw [String.utf8EncodeChar_eq_singleton single, List.singleton_append, decodeUtf8From.eq_def]
  simp only [small, if_true, byte, Char.ofNat_toNat]

theorem decodeUtf8From_of_plain {text : List Char} (plain : text.all Json.isPlain = true) (position : Nat) :
    decodeUtf8From position (text.flatMap String.utf8EncodeChar) = .ok text := by
  induction text generalizing position with
  | nil => rfl
  | cons c rest ih =>
      rw [List.all_cons, Bool.and_eq_true] at plain
      rw [List.flatMap_cons, decodeUtf8From_cons plain.1, ih plain.2]
      rfl

theorem uniformLineEnds_of_plain {text : List Char} (plain : text.all Json.isPlain = true) :
    uniformLineEnds text = text := by
  induction text with
  | nil => rfl
  | cons c rest ih =>
      rw [List.all_cons, Bool.and_eq_true] at plain
      have other : c ≠ '\r' := by
        rintro rfl
        exact absurd plain.1 (by decide)
      rw [uniformLineEnds.eq_4 _ _ (fun _ same => absurd same other) other, ih plain.2]

theorem fileText_of_plain {text : List Char} (plain : text.all Json.isPlain = true) :
    fileText (text.flatMap String.utf8EncodeChar) = .ok text := by
  simp [fileText, decodeUtf8, decodeUtf8From_of_plain plain, uniformLineEnds_of_plain plain]

end Text

/-- A value that a state file carries: an integer that can be written, or a text. -/
inductive Scalar where
  | int (n : Int) (fits : Numeral.fitsDecimal n = true)
  | text (s : String)

namespace Scalar

def value : Scalar → Value
  | .int n _ => .int n
  | .text s => .text s

def written : Scalar → List Char
  | .int n _ => Numeral.decimal n
  | .text s => Json.quote s.toList

theorem reads (scalar : Scalar) (depth : Nat) : Json.Reads depth scalar.written scalar.value := by
  cases scalar with
  | int n fits => exact Json.reads_int fits depth
  | text s => exact Json.reads_text s depth

theorem isPlain_written (scalar : Scalar) : scalar.written.all Json.isPlain = true := by
  cases scalar with
  | int n fits => exact Json.isPlain_decimal n
  | text s => exact Json.isPlain_quote s.toList

end Scalar

/-- What can be saved of a pocket machine: scalars on its stack, its top last, and under the names of its variables. -/
structure Memory where
  stack : List Scalar
  bindings : List (String × Scalar)
  distinct : (bindings.map Prod.fst).Nodup

namespace Memory

/-- The machine that has a memory. -/
def pocket (memory : Memory) : Pocket where
  stack := .list (memory.stack.map Scalar.value)
  bindings := .dict (memory.bindings.map fun binding => (.text binding.1, binding.2.value))

/-- A memory as a state file has it: an object with the stack and the variables. -/
def written (memory : Memory) : List Char :=
  Json.writeObject [
    Json.writeMember "stack" (Json.writeList (memory.stack.map Scalar.written)),
    Json.writeMember "variables" (Json.writeObject (memory.bindings.map fun binding =>
      Json.writeMember binding.1 binding.2.written))]

def saved (memory : Memory) : List UInt8 :=
  memory.written.flatMap String.utf8EncodeChar

/-- The value that a state file with a memory holds. -/
def state (memory : Memory) : Value :=
  .dict [(.text "stack", memory.pocket.stack), (.text "variables", memory.pocket.bindings)]

theorem reads_stack (memory : Memory) (depth : Nat) (shallow : depth < Json.nestingLimit) :
    Json.Reads depth (Json.writeList (memory.stack.map Scalar.written)) memory.pocket.stack := by
  have parts : ∀ part ∈ memory.stack.map fun scalar => (scalar.written, scalar.value),
      Json.Reads (depth + 1) part.1 part.2 := by
    rw [List.forall_mem_map]
    exact fun scalar _ => scalar.reads (depth + 1)
  simpa [pocket, Function.comp_def] using Json.reads_list shallow parts

theorem reads_bindings (memory : Memory) (depth : Nat) (shallow : depth < Json.nestingLimit) :
    Json.Reads depth
      (Json.writeObject (memory.bindings.map fun binding => Json.writeMember binding.1 binding.2.written))
      memory.pocket.bindings := by
  have parts : ∀ part ∈ memory.bindings.map fun binding => (binding.1, binding.2.written, binding.2.value),
      Json.Reads (depth + 1) part.2.1 part.2.2 := by
    rw [List.forall_mem_map]
    exact fun binding _ => binding.2.reads (depth + 1)
  have read := Json.reads_object shallow parts
  rw [Json.foldl_store (by simpa [Function.comp_def] using memory.distinct)] at read
  simpa [pocket, Function.comp_def, Json.Member.text, Json.Member.entry] using read

theorem reads (memory : Memory) : Json.Reads 0 memory.written memory.state := by
  have parts : ∀ part ∈ ([
      ("stack", Json.writeList (memory.stack.map Scalar.written), memory.pocket.stack),
      ("variables", Json.writeObject (memory.bindings.map fun binding =>
        Json.writeMember binding.1 binding.2.written), memory.pocket.bindings)] : List Json.Member),
      Json.Reads 1 part.2.1 part.2.2 := by
    simpa using ⟨memory.reads_stack 1 (by decide), memory.reads_bindings 1 (by decide)⟩
  have read := @Json.reads_object 0 (by decide) _ parts
  rw [Json.foldl_store (by simp)] at read
  exact read

theorem isPlain_written (memory : Memory) : memory.written.all Json.isPlain = true := by
  apply Json.isPlain_writeObject
  rw [List.forall_mem_cons, List.forall_mem_singleton]
  constructor
  · apply Json.isPlain_writeMember
    apply Json.isPlain_writeList
    rw [List.forall_mem_map]
    exact fun scalar _ => scalar.isPlain_written
  · apply Json.isPlain_writeMember
    apply Json.isPlain_writeObject
    rw [List.forall_mem_map]
    exact fun binding _ => Json.isPlain_writeMember binding.1 binding.2.isPlain_written

end Memory

namespace Pocket

theorem saved_ne_nil (memory : Memory) : memory.saved ≠ [] := by
  simp [Memory.saved, Memory.written, Json.writeObject, String.utf8EncodeChar_ne_nil]

theorem readState_saved (memory : Memory) : readState memory.saved = .ok memory.state := by
  rw [readState, Memory.saved, Text.fileText_of_plain memory.isPlain_written]
  have unmarked : memory.written.head? ≠ some '\ufeff' := by
    change some '\x7b' ≠ some '\ufeff'
    decide
  exact Json.read_of_reads memory.reads unmarked

theorem restore_state (pocket : Pocket) (memory : Memory) : pocket.restore memory.state = (memory.pocket, none) :=
  rfl

theorem load_saved (pocket : Pocket) (memory : Memory) : pocket.load (some memory.saved) = (memory.pocket, none) := by
  rw [load, readState_saved]
  exact restore_state pocket memory

/-- Saving fails on every machine and leaves an empty file behind, so that an earlier save stands only if it was empty.
Loading after it fails and changes nothing, though from the written form of any memory it restores on every machine the
same stack and the same variables in the same order. -/
theorem dump_loses_what_load_restores (pocket other : Pocket) (file : Option (List UInt8)) (memory : Memory) :
    (pocket.dump file).2 = some (.unboundName "stack") ∧ ((pocket.dump file).1 = file ↔ file = some []) ∧
      other.load (pocket.dump file).1 = (other, some (.json "Expecting value" 1 1 0)) ∧
      other.load (some memory.saved) = (memory.pocket, none) := by
  exact ⟨rfl, eq_comm, rfl, load_saved other memory⟩

/-- A memory with a negative number, with texts that need every kind of escape, and with an empty name. -/
def mixed : Memory where
  stack := [.int (-12) (by decide +kernel), .text "a\"\n\x7f", .text "\u2028😀"]
  bindings := [("b", .int 0 (by decide +kernel)), ("", .text "")]
  distinct := by decide

example : mixed.written = ("\x7b\"stack\": [-12, \"a\\\"\\n\\u007f\", \"\\u2028\\ud83d\\ude00\"], " ++
    "\"variables\": \x7b\"b\": 0, \"\": \"\"\x7d\x7d").toList := by
  decide +kernel

theorem dump_loses_what_load_restores_mixed :
    (mixed.pocket.dump (some mixed.saved)).2 = some (.unboundName "stack") ∧
      (mixed.pocket.dump (some mixed.saved)).1 ≠ some mixed.saved ∧
      Pocket.load {} (some mixed.saved) = (mixed.pocket, none) := by
  obtain ⟨fails, kept, -, restored⟩ := dump_loses_what_load_restores mixed.pocket {} (some mixed.saved) mixed
  exact ⟨fails, fun same => saved_ne_nil mixed (Option.some.inj (kept.mp same)), restored⟩

/-- A machine with an integer on its stack is not saved, and the save before it is gone. -/
theorem dump_destroys_earlier_save :
    ¬ ((Pocket.dump ⟨.list [.int 1], .dict []⟩ (some mixed.saved)).2 = none ∨
      (Pocket.dump ⟨.list [.int 1], .dict []⟩ (some mixed.saved)).1 = some mixed.saved) := by
  rintro (saved | kept)
  · cases saved
  · exact saved_ne_nil mixed (Option.some.inj kept).symm

end Pocket

end StackMachine

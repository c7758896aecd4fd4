import Mathlib.Data.List.Induction
import StackMachine.Proofs.Json.Terms

/-!
JSON lists and objects, written with a comma and a space between their parts, and whole texts. Reading a list takes
part after part and reading an object stores member after member, so that both give back what was written from
(`reads_list`, `reads_object`).
-/

set_option autoImplicit false

namespace StackMachine.Json

def writeList (terms : List (List Char)) : List Char :=
  '[' :: (commaJoin terms ++ [']'])

/-- A member of an object: its name, and the term under it. -/
def writeMember (name : String) (term : List Char) : List Char :=
  quote name.toList ++ ':' :: ' ' :: term

def writeObject (members : List (List Char)) : List Char :=
  '\x7b' :: (commaJoin members ++ ['\x7d'])

@[simp] theorem commaJoin_singleton (piece : List Char) : commaJoin [piece] = piece := by
  simp [commaJoin]

@[simp] theorem commaJoin_cons_cons (piece next : List Char) (others : List (List Char)) :
    commaJoin (piece :: next :: others) = piece ++ ',' :: ' ' :: commaJoin (next :: others) := by
  simp [commaJoin, List.intercalate_cons_cons]

theorem exists_commaJoin_eq_cons {c : Char} {piece more : List Char} (starts : piece = c :: more)
    (others : List (List Char)) (rest : List Char) :
    ∃ behind, commaJoin (piece :: others) ++ rest = c :: behind := by
  cases others <;> simp [starts]

/-- The items of a list are read one after the other and put behind those before them. -/
theorem items_commaJoin {depth : Nat} {parts : List (List Char × Value)} (some_ : parts ≠ [])
    (reads : ∀ part ∈ parts, Reads depth part.1 part.2) {fuel : Nat}
    (enough : (commaJoin (parts.map Prod.fst)).length < fuel) (position : Nat) (rest : List Char)
    (done : List Value) :
    ∃ further, items fuel depth ⟨commaJoin (parts.map Prod.fst) ++ ']' :: rest, position⟩ done =
      .ok (.list (done.reverse ++ parts.map Prod.snd), ⟨rest, further⟩) := by
  -- Each item takes one unit of fuel and has a comma or bracket behind it, so the fuel covers what is left of the text.
  induction parts generalizing fuel position done with
  | nil => exact absurd rfl some_
  | cons part others ih =>
      obtain ⟨first, later⟩ := List.forall_mem_cons.mp reads
      obtain ⟨fuel, rfl⟩ := Nat.exists_eq_add_one_of_ne_zero (Nat.ne_zero_of_lt enough)
      cases others with
      | nil =>
          have fits : part.1.length ≤ fuel := by
            simpa using Nat.le_of_lt_succ enough
          obtain ⟨middle, read⟩ := first.read position fits (show Delimits (']' :: rest) from .inr (.inl rfl))
          exact ⟨middle + 1, by simpa using items_last read⟩
      | cons next others =>
          simp only [List.map_cons, commaJoin_cons_cons, List.length_append, List.length_cons] at enough ih ⊢
          obtain ⟨c, more, written, solid, -⟩ := (later next List.mem_cons_self).starts
          obtain ⟨behind, goes⟩ := exists_commaJoin_eq_cons written (others.map Prod.fst) (']' :: rest)
          have fits : part.1.length ≤ fuel := by omega
          obtain ⟨middle, read⟩ := first.read position fits
            (show Delimits (',' :: ' ' :: c :: behind) from .inl rfl)
          obtain ⟨further, others⟩ := ih (List.cons_ne_nil _ _) later (show _ < fuel by omega) (middle + 2)
            (part.2 :: done)
          refine ⟨further, ?_⟩
          rw [goes] at others
          rw [List.append_assoc, List.cons_append, List.cons_append, goes, items_more read solid, others]
          simp

theorem reads_list {depth : Nat} (shallow : depth < nestingLimit) {parts : List (List Char × Value)}
    (reads : ∀ part ∈ parts, Reads (depth + 1) part.1 part.2) :
    Reads depth (writeList (parts.map Prod.fst)) (.list (parts.map Prod.snd)) := by
  refine ⟨⟨'[', _, rfl, by decide, by decide⟩, ?_⟩
  intro fuel position rest enough _
  simp only [writeList, List.length_cons, List.length_append, List.length_nil] at enough
  obtain ⟨fuel, rfl⟩ := Nat.exists_eq_add_one_of_ne_zero (show fuel ≠ 0 by omega)
  cases parts with
  | nil => exact ⟨position + 2, term_list_empty shallow⟩
  | cons part others =>
      obtain ⟨c, more, written, solid, nonempty⟩ := (reads part List.mem_cons_self).starts
      obtain ⟨behind, goes⟩ := exists_commaJoin_eq_cons written (others.map Prod.fst) (']' :: rest)
      obtain ⟨further, read⟩ := items_commaJoin (List.cons_ne_nil part others) reads (show _ < fuel by omega)
        (position + 1) rest []
      refine ⟨further, ?_⟩
      rw [List.map_cons, goes] at read
      rw [writeList, List.map_cons, List.cons_append, List.append_assoc, List.singleton_append, goes,
        term_list shallow solid nonempty, read]
      rfl

/-- A member of an object to be written: its name, its term, and the value that the term is read as. -/
abbrev Member := String × List Char × Value

def Member.text (member : Member) : List Char :=
  writeMember member.1 member.2.1

theorem text_eq_cons (member : Member) : member.text = '"' :: member.text.tail := rfl

theorem length_le_text (member : Member) : member.2.1.length ≤ member.text.length := by
  simp [Member.text, writeMember]
  omega

/-- The entries with a member stored among them. -/
def Member.store (done : List (Value × Value)) (member : Member) : List (Value × Value) :=
  Table.store (.text member.1) member.2.2 done

/-- Reading a member takes its name and then its term, up to what follows. -/
theorem member_read {depth fuel : Nat} {part : Member} (reads : Reads depth part.2.1 part.2.2)
    (enough : part.2.1.length ≤ fuel) (position : Nat) {rest : List Char} (delimited : Delimits rest) :
    ∃ named c tail middle further, part.text ++ rest = '"' :: named ∧ Cursor.isSpace c = false ∧
      string ⟨named, position + 1⟩ = .ok (part.1.toList, ⟨':' :: ' ' :: c :: tail, middle⟩) ∧
      term fuel depth ⟨c :: tail, middle + 2⟩ = .ok (part.2.2, ⟨rest, further⟩) := by
  obtain ⟨c, more, written, solid, -⟩ := reads.starts
  obtain ⟨middle, name⟩ := string_quote part.1.toList (':' :: ' ' :: c :: (more ++ rest)) (position + 1)
  obtain ⟨further, read⟩ := reads.read (middle + 2) enough delimited
  rw [written, List.cons_append] at read
  refine ⟨_, c, more ++ rest, middle, further, ?_, solid, name, read⟩
  simp [Member.text, writeMember, quote, written]

theorem members_commaJoin {depth : Nat} {parts : List Member} (some_ : parts ≠ [])
    (reads : ∀ part ∈ parts, Reads depth part.2.1 part.2.2) {fuel : Nat}
    (enough : (commaJoin (parts.map Member.text)).length < fuel) (position : Nat) (rest : List Char)
    (done : List (Value × Value)) :
    ∃ further, members fuel depth ⟨commaJoin (parts.map Member.text) ++ '\x7d' :: rest, position⟩ done =
      .ok (.dict (parts.foldl Member.store done), ⟨rest, further⟩) := by
  induction parts generalizing fuel position done with
  | nil => exact absurd rfl some_
  | cons part others ih =>
      obtain ⟨first, later⟩ := List.forall_mem_cons.mp reads
      obtain ⟨fuel, rfl⟩ := Nat.exists_eq_add_one_of_ne_zero (Nat.ne_zero_of_lt enough)
      cases others with
      | nil =>
          simp only [List.map_cons, List.map_nil, commaJoin_singleton] at enough ⊢
          have fits : part.2.1.length ≤ fuel := (length_le_text part).trans (Nat.le_of_lt_succ enough)
          obtain ⟨named, c, tail, middle, further, written, solid, name, read⟩ :=
            member_read first fits position (show Delimits ('\x7d' :: rest) from .inr (.inr rfl))
          refine ⟨further + 1, ?_⟩
          rw [written, members_last name solid read, String.ofList_toList]
          rfl
      | cons next others =>
          simp only [List.map_cons, commaJoin_cons_cons, List.length_append, List.length_cons] at enough ih ⊢
          obtain ⟨behind, goes⟩ := exists_commaJoin_eq_cons (text_eq_cons next) (others.map Member.text)
            ('\x7d' :: rest)
          have fits : part.2.1.length ≤ fuel := (length_le_text part).trans (by omega)
          obtain ⟨named, c, tail, middle, further, written, solid, name, read⟩ :=
            member_read first fits position (show Delimits (',' :: ' ' :: '"' :: behind) from .inl rfl)
          obtain ⟨last, others⟩ := ih (List.cons_ne_nil _ _) later (show _ < fuel by omega) (further + 2)
            (Member.store done part)
          refine ⟨last, ?_⟩
          rw [List.append_assoc, List.cons_append, List.cons_append, goes, written,
            members_more name solid read (by decide), String.ofList_toList, ← goes]
          exact others

theorem reads_object {depth : Nat} (shallow : depth < nestingLimit) {parts : List Member}
    (reads : ∀ part ∈ parts, Reads (depth + 1) part.2.1 part.2.2) :
    Reads depth (writeObject (parts.map Member.text)) (.dict (parts.foldl Member.store [])) := by
  refine ⟨⟨'\x7b', _, rfl, by decide, by decide⟩, ?_⟩
  intro fuel position rest enough _
  simp only [writeObject, List.length_cons, List.length_append, List.length_nil] at enough
  obtain ⟨fuel, rfl⟩ := Nat.exists_eq_add_one_of_ne_zero (show fuel ≠ 0 by omega)
  cases parts with
  | nil => exact ⟨position + 2, term_object_empty shallow⟩
  | cons part others =>
      obtain ⟨behind, goes⟩ := exists_commaJoin_eq_cons (text_eq_cons part) (others.map Member.text) ('\x7d' :: rest)
      obtain ⟨further, read⟩ := members_commaJoin (List.cons_ne_nil part others) reads (show _ < fuel by omega)
        (position + 1) rest []
      refine ⟨further, ?_⟩
      rw [List.map_cons, goes] at read
      rw [writeObject, List.map_cons, List.cons_append, List.append_assoc, List.singleton_append, goes,
        term_object shallow (by decide) (by decide), read]

/-- The entry of a dictionary that a member becomes. -/
def Member.entry (member : Member) : Value × Value :=
  (.text member.1, member.2.2)

theorem store_of_fresh {member : Member} {done : List Member} (fresh : member.1 ∉ done.map Prod.fst) :
    Member.store (done.map Member.entry) member = (done ++ [member]).map Member.entry := by
  induction done with
  | nil => rfl
  | cons first others ih =>
      rw [List.map_cons, List.mem_cons, not_or] at fresh
      have different : sameKey (Value.text first.1).key? (Value.text member.1).key? = false :=
        decide_eq_false fun same => fresh.1 (Key.text.inj same).symm
      have later := ih fresh.2
      simp only [Member.store] at later ⊢
      rw [List.map_cons, Member.entry, Table.store, different, if_neg Bool.false_ne_true, later]
      rfl

/-- Members with different names become entries in their order. -/
theorem foldl_store {parts : List Member} (distinct : (parts.map Prod.fst).Nodup) :
    parts.foldl Member.store [] = parts.map Member.entry := by
  induction parts using List.reverseRecOn with
  | nil => rfl
  | append_singleton parts last ih =>
      rw [List.map_append, List.nodup_append] at distinct
      obtain ⟨earlier, -, apart⟩ := distinct
      have fresh : last.1 ∉ parts.map Prod.fst := fun member => apart _ member _ List.mem_cons_self rfl
      rw [List.foldl_append, ih earlier]
      exact store_of_fresh fresh

theorem read_of_reads {text : List Char} {value : Value} (reads : Reads 0 text value)
    (unmarked : text.head? ≠ some '\ufeff') : read text = .ok value := by
  obtain ⟨c, more, written, solid, -⟩ := reads.starts
  obtain ⟨further, found⟩ := reads.read 0 (show text.length ≤ 2 * text.length + 2 by omega)
    (show Delimits [] from trivial)
  have start : Cursor.skipSpace ⟨text, 0⟩ = ⟨text, 0⟩ := by
    rw [written]
    exact skipSpace_of_solid solid
  have behind : Cursor.skipSpace ⟨[], further⟩ = ⟨[], further⟩ := rfl
  rw [List.append_nil] at found
  simp [read, unmarked, start, found, behind]

theorem isPlain_decimal (n : Int) : (Numeral.decimal n).all isPlain = true := by
  have digits (m : Nat) : (Nat.toDigits 10 m).all isPlain = true := by
    rw [List.all_eq_true]
    intro c member
    obtain ⟨low, high⟩ := Text.toNat_of_isDigit (Numeral.isDigit_of_mem_toDigits member)
    simp only [isPlain, Bool.and_eq_true, decide_eq_true_eq]
    omega
  cases n with
  | ofNat n => exact digits n
  | negSucc n =>
      have sign : isPlain '-' = true := by decide
      simp [Numeral.decimal, sign, digits]

section

variable {pieces : List (List Char)} (plain : ∀ piece ∈ pieces, piece.all isPlain = true)
include plain

theorem isPlain_commaJoin : (commaJoin pieces).all isPlain = true := by
  have comma : isPlain ',' = true := by decide
  have space : isPlain ' ' = true := by decide
  induction pieces with
  | nil => rfl
  | cons piece others ih =>
      obtain ⟨first, later⟩ := List.forall_mem_cons.mp plain
      cases others with
      | nil => simpa using first
      | cons next others =>
          rw [commaJoin_cons_cons, List.all_append, List.all_cons, List.all_cons, first, comma, space, ih later]
          rfl

theorem isPlain_writeList : (writeList pieces).all isPlain = true := by
  have opening : isPlain '[' = true := by decide
  have closing : isPlain ']' = true := by decide
  rw [writeList, List.all_cons, List.all_append, List.all_cons, opening, closing, isPlain_commaJoin plain]
  rfl

theorem isPlain_writeObject : (writeObject pieces).all isPlain = true := by
  have opening : isPlain '\x7b' = true := by decide
  have closing : isPlain '\x7d' = true := by decide
  rw [writeObject, List.all_cons, List.all_append, List.all_cons, opening, closing, isPlain_commaJoin plain]
  rfl

end

theorem isPlain_writeMember (name : String) {term : List Char} (plain : term.all isPlain = true) :
    (writeMember name term).all isPlain = true := by
  have colon : isPlain ':' = true := by decide
  have space : isPlain ' ' = true := by decide
  rw [writeMember, List.all_append, List.all_cons, List.all_cons, isPlain_quote, colon, space, plain]
  rfl

end StackMachine.Json

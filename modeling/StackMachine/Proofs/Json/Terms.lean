import StackMachine.Proofs.Json.Strings
import StackMachine.Proofs.Numeral.Decimal

/-!
JSON terms, written and read back. `Reads` says that a text is read as a value wherever a term may stand, up to what
follows it. Integers and strings are read so, and so are lists and objects if what they are made of is.
-/

set_option autoImplicit false

namespace StackMachine.Json

open Numeral

section

variable {fuel depth position : Nat} {c : Char} {rest : List Char}

@[simp] theorem skip_one : Cursor.skip ⟨c :: rest, position⟩ 1 = ⟨rest, position + 1⟩ := rfl

theorem skipSpace_of_solid (solid : Cursor.isSpace c = false) :
    Cursor.skipSpace ⟨c :: rest, position⟩ = ⟨c :: rest, position⟩ := by
  simp [Cursor.skipSpace, Cursor.skip, solid]

theorem skipSpace_of_space (solid : Cursor.isSpace c = false) :
    Cursor.skipSpace ⟨' ' :: c :: rest, position⟩ = ⟨c :: rest, position + 1⟩ := by
  have space : Cursor.isSpace ' ' = true := by decide
  simp [Cursor.skipSpace, Cursor.skip, solid, space]

theorem term_string {text : List Char} {further : Cursor}
    (read : string ⟨rest, position + 1⟩ = .ok (text, further)) :
    term (fuel + 1) depth ⟨'"' :: rest, position⟩ = .ok (.text (String.ofList text), further) := by
  rw [term]
  simp [read]

theorem term_atom (noString : c ≠ '"') (noList : c ≠ '[') (noObject : c ≠ '\x7b') :
    term (fuel + 1) depth ⟨c :: rest, position⟩ = atom ⟨c :: rest, position⟩ := by
  rw [term]
  split
  · next same => cases same
  · next same => exact absurd (List.cons.inj same).1 noString
  · next same => exact absurd (List.cons.inj same).1 noList
  · next same =>
      obtain ⟨rfl, -⟩ := List.cons.inj same
      exact if_neg noObject

section

variable (shallow : depth < nestingLimit)
include shallow

theorem term_list_empty :
    term (fuel + 1) depth ⟨'[' :: ']' :: rest, position⟩ = .ok (.list [], ⟨rest, position + 2⟩) := by
  have solid : Cursor.isSpace ']' = false := by decide
  rw [term]
  simp [skipSpace_of_solid solid, Nat.not_le.mpr shallow]

theorem term_list (solid : Cursor.isSpace c = false) (nonempty : c ≠ ']') :
    term (fuel + 1) depth ⟨'[' :: c :: rest, position⟩ = items fuel (depth + 1) ⟨c :: rest, position + 1⟩ [] := by
  rw [term]
  simp [skipSpace_of_solid solid, Nat.not_le.mpr shallow, nonempty]

theorem term_object_empty :
    term (fuel + 1) depth ⟨'\x7b' :: '\x7d' :: rest, position⟩ = .ok (.dict [], ⟨rest, position + 2⟩) := by
  have solid : Cursor.isSpace '\x7d' = false := by decide
  rw [term]
  simp [skipSpace_of_solid solid, Nat.not_le.mpr shallow]

theorem term_object (solid : Cursor.isSpace c = false) (nonempty : c ≠ '\x7d') :
    term (fuel + 1) depth ⟨'\x7b' :: c :: rest, position⟩ =
      members fuel (depth + 1) ⟨c :: rest, position + 1⟩ [] := by
  rw [term]
  simp [skipSpace_of_solid solid, Nat.not_le.mpr shallow, nonempty]

end

section

variable {start : Cursor} {value : Value} {done : List Value}

theorem items_last (read : term fuel depth start = .ok (value, ⟨']' :: rest, position⟩)) :
    items (fuel + 1) depth start done = .ok (.list (done.reverse ++ [value]), ⟨rest, position + 1⟩) := by
  have solid : Cursor.isSpace ']' = false := by decide
  rw [items]
  simp [read, skipSpace_of_solid solid]

theorem items_more (read : term fuel depth start = .ok (value, ⟨',' :: ' ' :: c :: rest, position⟩))
    (solid : Cursor.isSpace c = false) :
    items (fuel + 1) depth start done = items fuel depth ⟨c :: rest, position + 2⟩ (value :: done) := by
  have comma : Cursor.isSpace ',' = false := by decide
  rw [items]
  simp [read, skipSpace_of_solid comma, skipSpace_of_space solid]

end

section

variable {value : Value} {name : List Char} {following : Char} {tail more : List Char} {middle : Nat}
  {done : List (Value × Value)}
  (named : string ⟨rest, position + 1⟩ = .ok (name, ⟨':' :: ' ' :: c :: tail, middle⟩))
  (solid : Cursor.isSpace c = false)
include named solid

theorem members_last {further : Nat}
    (read : term fuel depth ⟨c :: tail, middle + 2⟩ = .ok (value, ⟨'\x7d' :: more, further⟩)) :
    members (fuel + 1) depth ⟨'"' :: rest, position⟩ done =
      .ok (.dict (Table.store (.text (String.ofList name)) value done), ⟨more, further + 1⟩) := by
  have colon : Cursor.isSpace ':' = false := by decide
  have brace : Cursor.isSpace '\x7d' = false := by decide
  rw [members]
  simp [named, read, skipSpace_of_solid colon, skipSpace_of_space solid, skipSpace_of_solid brace]

theorem members_more {further : Nat}
    (read : term fuel depth ⟨c :: tail, middle + 2⟩ = .ok (value, ⟨',' :: ' ' :: following :: more, further⟩))
    (next : Cursor.isSpace following = false) :
    members (fuel + 1) depth ⟨'"' :: rest, position⟩ done =
      members fuel depth ⟨following :: more, further + 2⟩
        (Table.store (.text (String.ofList name)) value done) := by
  have colon : Cursor.isSpace ':' = false := by decide
  have comma : Cursor.isSpace ',' = false := by decide
  rw [members]
  simp [named, read, skipSpace_of_solid colon, skipSpace_of_space solid, skipSpace_of_solid comma,
    skipSpace_of_space next]

end

end

/-- Whether a text may follow a term: it is empty, or goes on in a list or object. -/
def Delimits : List Char → Prop
  | [] => True
  | c :: _ => c = ',' ∨ c = ']' ∨ c = '\x7d'

theorem ne_of_isDigit {c d : Char} (digit : d.isDigit = true) (other : c.isDigit = false) : c ≠ d := by
  rintro rfl
  exact Bool.false_ne_true (other.symm.trans digit)

theorem digitChar_ne_zero : ∀ digit < 10, 0 < digit → digit.digitChar ≠ '0' := by
  decide

theorem exists_toDigits_eq_cons (n : Nat) : ∃ d digits, Nat.toDigits 10 n = d :: digits ∧ d.isDigit = true := by
  obtain ⟨d, digits, written⟩ := List.exists_cons_of_ne_nil (@Nat.toDigits_ne_nil n 10)
  have member : d ∈ Nat.toDigits 10 n := by simp [written]
  exact ⟨d, digits, written, isDigit_of_mem_toDigits member⟩

/-- The first digit of a positive number is not a zero. -/
theorem head?_toDigits_ne {n : Nat} (positive : 0 < n) : (Nat.toDigits 10 n).head? ≠ some '0' := by
  induction n using Nat.strongRecOn with
  | ind n ih =>
      rw [Nat.toDigits_eq_if (by decide)]
      split
      · next small => simpa using digitChar_ne_zero n small positive
      · have shorter := ih (n / 10) (by omega) (by omega)
        obtain ⟨d, digits, written, -⟩ := exists_toDigits_eq_cons (n / 10)
        rwa [written] at shorter ⊢

theorem takeWhile_digits {digits rest : List Char} (plain : ∀ c ∈ digits, c.isDigit = true)
    (delimited : Delimits rest) : (digits ++ rest).takeWhile Char.isDigit = digits := by
  rw [List.takeWhile_append_of_pos plain]
  cases rest with
  | nil => simp
  | cons c more => obtain rfl | rfl | rfl := delimited <;> simp

theorem numberLength_toDigits (n : Nat) {rest : List Char} (delimited : Delimits rest) :
    numberLength (Nat.toDigits 10 n ++ rest) = some ((Nat.toDigits 10 n).length, false) := by
  obtain rfl | positive := Nat.eq_zero_or_pos n
  · cases rest with
    | nil => rfl
    | cons c more => obtain rfl | rfl | rfl := delimited <;> simp [numberLength]
  · have taken := takeWhile_digits (fun _ => @isDigit_of_mem_toDigits n _) delimited
    have leading := head?_toDigits_ne positive
    obtain ⟨d, digits, written, -⟩ := exists_toDigits_eq_cons n
    rw [written] at taken leading ⊢
    have nonzero : d ≠ '0' := by simpa using leading
    rw [List.cons_append] at taken ⊢
    cases rest with
    | nil =>
        rw [List.append_nil] at taken ⊢
        simp [numberLength, nonzero, taken]
    | cons c more => obtain rfl | rfl | rfl := delimited <;> simp [numberLength, nonzero, taken]

theorem readInteger_decimal {n : Int} (fits : fitsDecimal n = true) : readInteger (decimal n) = .value n := by
  have read := integer?_decimal fits
  unfold integer? at read
  split at read
  · next found => rw [found, Option.some.inj read]
  · cases read

theorem number_decimal {n : Int} (fits : fitsDecimal n = true) {rest : List Char} (delimited : Delimits rest)
    (position : Nat) :
    number ⟨decimal n ++ rest, position⟩ = .ok (.int n, ⟨rest, position + (decimal n).length⟩) := by
  have read := readInteger_decimal fits
  cases n with
  | ofNat n =>
      have length := numberLength_toDigits n delimited
      obtain ⟨d, digits, written, digit⟩ := exists_toDigits_eq_cons n
      have unsigned : d ≠ '-' := (ne_of_isDigit digit (by decide)).symm
      rw [written, List.cons_append] at length
      rw [decimal, written] at read ⊢
      simp [number, unsigned, length, read, Cursor.skip]
  | negSucc n =>
      have length := numberLength_toDigits (n + 1) delimited
      rw [decimal] at read ⊢
      simp [number, length, read, Cursor.skip]

theorem atom_eq_number {text : List Char} (wordless : ∀ entry ∈ words, ¬ entry.1.toList <+: text) (position : Nat) :
    atom ⟨text, position⟩ = number ⟨text, position⟩ := by
  unfold atom
  split
  · next found =>
      have starts := List.find?_some found
      exact absurd (List.isPrefixOf_iff_prefix.mp starts) (wordless _ (List.mem_of_find?_eq_some found))
  · rfl

section

variable {d : Char} (digit : d.isDigit = true) (rest : List Char)
include digit

theorem wordless_of_isDigit : ∀ entry ∈ words, ¬ entry.1.toList <+: d :: rest := by
  have n : 'n' ≠ d := ne_of_isDigit digit (by decide)
  have t : 't' ≠ d := ne_of_isDigit digit (by decide)
  have f : 'f' ≠ d := ne_of_isDigit digit (by decide)
  have upperN : 'N' ≠ d := ne_of_isDigit digit (by decide)
  have upperI : 'I' ≠ d := ne_of_isDigit digit (by decide)
  have minus : '-' ≠ d := ne_of_isDigit digit (by decide)
  simp [words, n, t, f, upperN, upperI, minus]

theorem wordless_of_minus : ∀ entry ∈ words, ¬ entry.1.toList <+: '-' :: d :: rest := by
  have upperI : 'I' ≠ d := ne_of_isDigit digit (by decide)
  simp [words, upperI]

end

theorem atom_decimal {n : Int} (fits : fitsDecimal n = true) {rest : List Char} (delimited : Delimits rest)
    (position : Nat) :
    atom ⟨decimal n ++ rest, position⟩ = .ok (.int n, ⟨rest, position + (decimal n).length⟩) := by
  rw [atom_eq_number, number_decimal fits delimited]
  cases n with
  | ofNat n =>
      obtain ⟨d, digits, written, digit⟩ := exists_toDigits_eq_cons n
      rw [decimal, written]
      exact wordless_of_isDigit digit _
  | negSucc n =>
      obtain ⟨d, digits, written, digit⟩ := exists_toDigits_eq_cons (n + 1)
      rw [decimal, written]
      exact wordless_of_minus digit _

/-- A text is read as a value wherever a term may stand. -/
structure Reads (depth : Nat) (text : List Char) (value : Value) : Prop where
  starts : ∃ c more, text = c :: more ∧ Cursor.isSpace c = false ∧ c ≠ ']'
  read : ∀ {fuel : Nat} (position : Nat) {rest : List Char}, text.length ≤ fuel → Delimits rest →
    ∃ further, term fuel depth ⟨text ++ rest, position⟩ = .ok (value, ⟨rest, further⟩)

theorem reads_int {n : Int} (fits : fitsDecimal n = true) (depth : Nat) : Reads depth (decimal n) (.int n) := by
  have first : ∃ c more, decimal n = c :: more ∧ Cursor.isSpace c = false ∧ c ≠ '"' ∧ c ≠ '[' ∧ c ≠ ']' ∧
      c ≠ '\x7b' := by
    cases n with
    | ofNat n =>
        obtain ⟨d, digits, written, digit⟩ := exists_toDigits_eq_cons n
        have other {c : Char} (letter : c.isDigit = false) : d ≠ c := (ne_of_isDigit digit letter).symm
        refine ⟨d, digits, written, ?_, other rfl, other rfl, other rfl, other rfl⟩
        simp [Cursor.isSpace, @other ' ' rfl, @other '\t' rfl, @other '\n' rfl, @other '\r' rfl]
    | negSucc n => exact ⟨'-', Nat.toDigits 10 (n + 1), rfl, by decide⟩
  obtain ⟨c, more, written, solid, noString, noList, noEnd, noObject⟩ := first
  refine ⟨⟨c, more, written, solid, noEnd⟩, ?_⟩
  intro fuel position rest enough delimited
  refine ⟨position + (decimal n).length, ?_⟩
  rw [← atom_decimal fits delimited]
  cases fuel with
  | zero => simp [written] at enough
  | succ fuel =>
      rw [written, List.cons_append]
      exact term_atom noString noList noObject

theorem reads_text (text : String) (depth : Nat) : Reads depth (quote text.toList) (.text text) := by
  refine ⟨⟨'"', _, rfl, by decide, by decide⟩, ?_⟩
  intro fuel position rest enough _
  cases fuel with
  | zero => simp [quote] at enough
  | succ fuel =>
      obtain ⟨further, read⟩ := string_quote text.toList rest (position + 1)
      refine ⟨further, ?_⟩
      have same := @term_string fuel depth position _ _ _ read
      rwa [String.ofList_toList] at same

end StackMachine.Json

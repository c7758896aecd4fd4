import Mathlib.Data.List.TakeWhile
import StackMachine.Listing

/-!
Writing an integer and reading it back. Within the digit limit a decimal numeral denotes the integer it
was written for, a line that holds nothing else gives that one number, and the integer can be shown.
-/

set_option autoImplicit false

namespace StackMachine

open Text

namespace Text

theorem toNat_of_isDigit {c : Char} (digit : c.isDigit = true) : 48 ≤ c.toNat ∧ c.toNat ≤ 57 :=
  Char.isDigit_iff_toNat.mp digit

theorem digitValue?_of_isDigit {c : Char} (digit : c.isDigit = true) :
    digitValue? c = some (c.toNat - 48) := by
  obtain ⟨low, high⟩ := toNat_of_isDigit digit
  have first : (0x30 ≤ c.toNat && c.toNat < 0x30 + 10) = true := by
    simp only [Bool.and_eq_true, decide_eq_true_eq]
    omega
  have found : (decimalZeros.find? fun start => start ≤ c.toNat && c.toNat < start + 10) = some 0x30 :=
    List.find?_cons_of_pos first
  rw [digitValue?, found, Option.map_some]

theorem isBlank_of_isDigit {c : Char} (digit : c.isDigit = true) : isBlank c = false := by
  obtain ⟨low, high⟩ := toNat_of_isDigit digit
  simp only [isBlank, isPad, Bool.or_eq_false_iff, Bool.and_eq_false_iff, decide_eq_false_iff_not,
    beq_eq_false_iff_ne]
  omega

theorem isPad_of_isBlank_eq_false {c : Char} (solid : isBlank c = false) : isPad c = false := by
  cases pad : isPad c with
  | false => rfl
  | true => exact (isBlank_of_isPad pad).symm.trans solid

theorem cut_of_all {class_ : Char → Bool} {text : List Char} (solid : ∀ c ∈ text, class_ c = false) :
    cut class_ text = [text] := by
  induction text with
  | nil => rfl
  | cons c rest ih =>
      have rest := ih fun other member => solid other (List.mem_cons_of_mem c member)
      simp only [cut, solid c List.mem_cons_self, Bool.false_eq_true, if_false, rest]

theorem words_of_all {text : List Char} (some : text ≠ []) (solid : ∀ c ∈ text, isBlank c = false) :
    words text = [text] := by
  simp [words, cut_of_all solid, some]

end Text

namespace Numeral

theorem runDigits?_cons {c d : Char} {rest : List Char} {digit : Nat}
    (value : digitValue? c = some digit) (plain : d ≠ '_') :
    runDigits? (c :: d :: rest) = (runDigits? (d :: rest)).map (digit :: ·) := by
  rw [runDigits?.eq_def]
  simp only [value]
  split
  · next absent => cases absent
  · next empty => cases empty
  · next underscore => exact absurd (List.cons.inj underscore).1 plain
  · next same _ _ => cases same; rfl

theorem runDigits?_of_isDigit {text : List Char} (some : text ≠ [])
    (digits : ∀ c ∈ text, c.isDigit = true) :
    runDigits? text = .some (text.map fun c => c.toNat - 48) := by
  induction text with
  | nil => exact absurd rfl some
  | cons c rest ih =>
      have value := digitValue?_of_isDigit (digits c List.mem_cons_self)
      have others : ∀ d ∈ rest, d.isDigit = true :=
        fun d member => digits d (List.mem_cons_of_mem c member)
      cases rest with
      | nil =>
          unfold runDigits?
          rw [value]
          rfl
      | cons d rest =>
          have plain : d ≠ '_' := by
            rintro rfl
            exact absurd (others '_' List.mem_cons_self) (by decide)
          rw [runDigits?_cons value plain, ih (List.cons_ne_nil d rest) others]
          rfl

theorem ofDigits_toDigits (n : Nat) :
    ofDigits ((Nat.toDigits 10 n).map fun c => c.toNat - 48) = n := by
  rw [ofDigits, List.foldl_map]
  exact Nat.ofDigitChars_ten_toDigits

/-- A sign and plain digits, not too many of them, are read as they stand. -/
theorem readInteger_of_isDigit {text digits : List Char} {negative : Bool}
    (signed : takeSign (text.dropWhile isPad) = (negative, digits)) (some : digits ≠ [])
    (plain : ∀ c ∈ digits, c.isDigit = true) (short : digits.length ≤ digitLimit) :
    readInteger text = .value (if negative then -(ofDigits (digits.map fun c => c.toNat - 48) : Int)
      else ofDigits (digits.map fun c => c.toNat - 48)) := by
  have run : ∀ c ∈ digits, isRunCharacter c = true := by
    intro c member
    simp [isRunCharacter, digitValue?_of_isDigit (plain c member)]
  have taken : digits.takeWhile isRunCharacter = digits := List.takeWhile_eq_self_iff.mpr run
  have left : digits.dropWhile isRunCharacter = [] := List.dropWhile_eq_nil_iff.mpr run
  have fits : ¬ digits.length > digitLimit := Nat.not_lt.mpr short
  simp only [readInteger, signed, taken, left, runDigits?_of_isDigit some plain, List.length_map, fits,
    if_false, List.all_nil, if_true]

theorem length_toDigits_le {n limit : Nat} (some : 0 < limit) (fits : n < Nat.pow 10 limit) :
    (Nat.toDigits 10 n).length ≤ limit :=
  (Nat.length_toDigits_le_iff (by decide) some).mpr fits

theorem isDigit_of_mem_toDigits {n : Nat} {c : Char} (member : c ∈ Nat.toDigits 10 n) :
    c.isDigit = true :=
  Nat.isDigit_of_mem_toDigits (by decide) (by decide) member

theorem takeSign_dropWhile_of_isDigit {text : List Char} (plain : ∀ c ∈ text, c.isDigit = true) :
    takeSign (text.dropWhile isPad) = (false, text) := by
  cases text with
  | nil => rfl
  | cons c rest =>
      have digit := plain c List.mem_cons_self
      have noPad := isPad_of_isBlank_eq_false (isBlank_of_isDigit digit)
      rw [List.dropWhile_cons_of_neg (by simp [noPad])]
      unfold takeSign
      split
      · next same => cases same; simp at digit
      · next same => cases same; simp at digit
      · rfl

theorem length_toDigits_of_fits {n : Int} (fits : fitsDecimal n = true) :
    (Nat.toDigits 10 n.natAbs).length ≤ digitLimit := by
  unfold fitsDecimal decimalBound at fits
  exact length_toDigits_le (by decide) (of_decide_eq_true fits)

/-- A decimal numeral within the limit is read as the integer that it was written for. -/
theorem integer?_decimal {n : Int} (fits : fitsDecimal n = true) : integer? (decimal n) = some n := by
  have short := length_toDigits_of_fits fits
  cases n with
  | ofNat n =>
      rw [Int.natAbs_ofNat'] at short
      have reading := readInteger_of_isDigit
        (takeSign_dropWhile_of_isDigit fun _ member => isDigit_of_mem_toDigits member)
        Nat.toDigits_ne_nil (fun _ member => isDigit_of_mem_toDigits member) short
      rw [integer?, decimal, reading, ofDigits_toDigits]
      rfl
  | negSucc n =>
      have reading := readInteger_of_isDigit
        (show takeSign (('-' :: Nat.toDigits 10 (n + 1)).dropWhile isPad) = (true, _) from rfl)
        Nat.toDigits_ne_nil (fun _ member => isDigit_of_mem_toDigits member) short
      rw [integer?, decimal, reading, ofDigits_toDigits]
      rfl

theorem isBlank_of_mem_decimal {n : Int} {c : Char} (member : c ∈ decimal n) : isBlank c = false := by
  cases n with
  | ofNat n => exact isBlank_of_isDigit (isDigit_of_mem_toDigits member)
  | negSucc n =>
      rcases List.mem_cons.mp member with rfl | digit
      · decide
      · exact isBlank_of_isDigit (isDigit_of_mem_toDigits digit)

theorem decimal_ne_nil (n : Int) : decimal n ≠ [] := by
  cases n with
  | ofNat n => exact Nat.toDigits_ne_nil
  | negSucc n => exact List.cons_ne_nil _ _

end Numeral

/-- A line that holds the decimal numeral of an integer gives that integer and no other number. -/
theorem readNumbers_decimal {n : Int} (fits : Numeral.fitsDecimal n = true) :
    readNumbers (Numeral.decimal n) = .ok [.int n] := by
  rw [readNumbers, words_of_all (Numeral.decimal_ne_nil n) fun c => Numeral.isBlank_of_mem_decimal]
  simp only [List.mapM_cons, Numeral.integer?_decimal fits]
  rfl

/-- A line whose first number is a given integer. -/
def Answers (line : String) (n : Int) : Prop :=
  ∃ more, readNumbers line.toList = .ok (.int n :: more)

theorem answers_decimal {n : Int} (fits : Numeral.fitsDecimal n = true) :
    Answers (String.ofList (Numeral.decimal n)) n :=
  ⟨[], by rw [String.toList_ofList, readNumbers_decimal fits]⟩

theorem Value.show_int {n : Int} (fits : Numeral.fitsDecimal n = true) :
    (Value.int n).show = .ok (Numeral.decimal n) := by
  rw [Value.show, if_pos (show (Value.int n).printable = true from fits)]
  rfl

end StackMachine

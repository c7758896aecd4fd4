import StackMachine.Json.Reader

/-!
JSON strings, written and read back. Writing uses plain characters only: a character that is none of them, or that would
end the string, becomes an escape, and one beyond the first 65536 two of them. Reading gives the characters back.
-/

set_option autoImplicit false

namespace StackMachine.Json

/-- The letter that stands for a character behind a backslash. -/
def escapeLetter? : Char → Option Char
  | '"' => some '"'
  | '\\' => some '\\'
  | '\x08' => some 'b'
  | '\x0c' => some 'f'
  | '\n' => some 'n'
  | '\r' => some 'r'
  | '\t' => some 't'
  | _ => none

/-- Characters that a written text is made of. -/
def isPlain (c : Char) : Bool :=
  0x20 ≤ c.toNat && c.toNat ≤ 0x7e

/-- The four digits of a code unit in base sixteen. -/
def unitDigits (unit : Nat) : List Char :=
  [(unit / 4096 % 16).digitChar, (unit / 256 % 16).digitChar, (unit / 16 % 16).digitChar, (unit % 16).digitChar]

def unitEscape (unit : Nat) : List Char :=
  '\\' :: 'u' :: unitDigits unit

def escape (c : Char) : List Char :=
  match escapeLetter? c with
  | some letter => ['\\', letter]
  | none =>
    if isPlain c then [c]
    else if c.toNat < 0x10000 then unitEscape c.toNat
    else
      let beyond := c.toNat - 0x10000
      unitEscape (0xd800 + beyond / 0x400) ++ unitEscape (0xdc00 + beyond % 0x400)

/-- A text between quote marks, with everything escaped in it that has to be. -/
def quote (text : List Char) : List Char :=
  '"' :: (text.flatMap escape ++ ['"'])

theorem escapeLetter?_eq_some {c letter : Char} (short : escapeLetter? c = some letter) :
    escaped? letter = some c ∧ letter ≠ 'u' ∧ isPlain letter = true := by
  unfold escapeLetter? at short
  split at short
  all_goals
    cases short
    try decide

theorem plain_of_escapeLetter? {c : Char} (none : escapeLetter? c = none) : c ≠ '"' ∧ c ≠ '\\' := by
  constructor <;>
    rintro rfl <;>
    cases none

theorem hexValue?_digitChar : ∀ digit < 16, hexValue? digit.digitChar = some digit := by
  decide

theorem isPlain_digitChar : ∀ digit < 16, isPlain digit.digitChar = true := by
  decide

theorem fourHex?_unitDigits {unit : Nat} (fits : unit < 0x10000) : fourHex? (unitDigits unit) = some unit := by
  have first := hexValue?_digitChar (unit / 4096 % 16) (Nat.mod_lt _ (by decide))
  have second := hexValue?_digitChar (unit / 256 % 16) (Nat.mod_lt _ (by decide))
  have third := hexValue?_digitChar (unit / 16 % 16) (Nat.mod_lt _ (by decide))
  have fourth := hexValue?_digitChar (unit % 16) (Nat.mod_lt _ (by decide))
  have value : 16 * (16 * (16 * (unit / 4096 % 16) + unit / 256 % 16) + unit / 16 % 16) + unit % 16 = unit := by
    omega
  simp [unitDigits, fourHex?, first, second, third, fourth, value]

section

variable (position : Nat) (next : Char) (rest : List Char)

theorem unicodeEscape_unitDigits {unit : Nat} (fits : unit < 0x10000) (single : isHighSurrogate unit = false) :
    unicodeEscape position (unitDigits unit ++ next :: rest) = .ok (ofUnit unit, 4) := by
  have enough : ¬ (unitDigits unit ++ next :: rest).length ≤ 4 := by simp [unitDigits]
  have taken : (unitDigits unit ++ next :: rest).take 4 = unitDigits unit := rfl
  rw [unicodeEscape, if_neg enough, taken, fourHex?_unitDigits fits]
  simp [single]

theorem unicodeEscape_pair {high low : Nat} (first : isHighSurrogate high = true) (second : isLowSurrogate low = true) :
    unicodeEscape position (unitDigits high ++ (unitEscape low ++ next :: rest)) =
      .ok (Char.ofNat (0x10000 + (high - 0xd800) * 0x400 + (low - 0xdc00)), 10) := by
  have highFits : high < 0x10000 := by
    simp only [isHighSurrogate, Bool.and_eq_true, decide_eq_true_eq] at first
    omega
  have lowFits : low < 0x10000 := by
    simp only [isLowSurrogate, Bool.and_eq_true, decide_eq_true_eq] at second
    omega
  have enough : ¬ (unitDigits high ++ (unitEscape low ++ next :: rest)).length ≤ 4 := by
    simp only [unitDigits, List.length_append, List.length_cons, List.length_nil]
    omega
  have highDigits : (unitDigits high ++ (unitEscape low ++ next :: rest)).take 4 = unitDigits high := rfl
  have behind : (unitDigits high ++ (unitEscape low ++ next :: rest)).drop 4 = unitEscape low ++ next :: rest := rfl
  have lowDigits : ((unitEscape low ++ next :: rest).drop 2).take 4 = unitDigits low := rfl
  have long : (unitEscape low ++ next :: rest).length > 6 := by simp [unitEscape, unitDigits]
  have opened : ['\\', 'u'].isPrefixOf (unitEscape low ++ next :: rest) = true := by
    simp [unitEscape, List.isPrefixOf]
  rw [unicodeEscape, if_neg enough, highDigits, fourHex?_unitDigits highFits]
  simp only [behind, first, long, opened, decide_true, Bool.and_self, if_true, lowDigits, fourHex?_unitDigits lowFits,
    second]

theorem not_surrogate (c : Char) : ¬ (0xd800 ≤ c.toNat ∧ c.toNat ≤ 0xdfff) := by
  have valid : c.toNat < 0xd800 ∨ 0xdfff < c.toNat ∧ c.toNat < 0x110000 := c.valid
  omega

theorem unicodeEscape_of_toNat_lt {c : Char} (fits : c.toNat < 0x10000) :
    unicodeEscape position (unitDigits c.toNat ++ next :: rest) = .ok (c, 4) := by
  have valid := not_surrogate c
  have single : isHighSurrogate c.toNat = false := by
    simp only [isHighSurrogate, Bool.and_eq_false_iff, decide_eq_false_iff_not]
    omega
  have itself : ofUnit c.toNat = c := by
    rw [ofUnit, if_neg (by simpa using valid), Char.ofNat_toNat]
  rw [unicodeEscape_unitDigits position next rest fits single, itself]

theorem unicodeEscape_of_le_toNat {c : Char} (beyond : 0x10000 ≤ c.toNat) :
    unicodeEscape position (unitDigits (0xd800 + (c.toNat - 0x10000) / 0x400) ++
      (unitEscape (0xdc00 + (c.toNat - 0x10000) % 0x400) ++ next :: rest)) = .ok (c, 10) := by
  have valid : c.toNat < 0xd800 ∨ 0xdfff < c.toNat ∧ c.toNat < 0x110000 := c.valid
  have high : isHighSurrogate (0xd800 + (c.toNat - 0x10000) / 0x400) = true := by
    simp only [isHighSurrogate, Bool.and_eq_true, decide_eq_true_eq]
    omega
  have low : isLowSurrogate (0xdc00 + (c.toNat - 0x10000) % 0x400) = true := by
    simp only [isLowSurrogate, Bool.and_eq_true, decide_eq_true_eq]
    omega
  have joined : 0x10000 + (0xd800 + (c.toNat - 0x10000) / 0x400 - 0xd800) * 0x400 +
      (0xdc00 + (c.toNat - 0x10000) % 0x400 - 0xdc00) = c.toNat := by omega
  rw [unicodeEscape_pair position next rest high low, joined, Char.ofNat_toNat]

/-- An escaped character is read as the character, if the string goes on behind it. -/
theorem stringFrom_escape (c : Char) (start : Nat) (done : List Char) :
    ∃ further, stringFrom start position (escape c ++ next :: rest) done =
      stringFrom start further (next :: rest) (c :: done) := by
  unfold escape
  split
  · next letter short =>
      obtain ⟨back, notUnit, -⟩ := escapeLetter?_eq_some short
      exact ⟨_, by rw [List.cons_append, List.singleton_append, stringFrom.eq_5 _ _ _ _ _ notUnit, back]⟩
  · next none =>
      split
      · next plain =>
          obtain ⟨noQuote, noBackslash⟩ := plain_of_escapeLetter? none
          have visible : ¬ c.toNat ≤ 0x1f := by
            simp only [isPlain, Bool.and_eq_true, decide_eq_true_eq] at plain
            omega
          refine ⟨position + 1, ?_⟩
          rw [List.singleton_append, stringFrom.eq_6 _ _ _ _ _ noQuote (fun same => absurd same noBackslash)
            (fun _ same => absurd same noBackslash) (fun _ _ same => absurd same noBackslash), if_neg visible]
      · split
        · next fits =>
            refine ⟨position + 2 + 4, ?_⟩
            rw [unitEscape, List.cons_append, List.cons_append, stringFrom.eq_4,
              unicodeEscape_of_toNat_lt position next rest fits]
            rfl
        · next beyond =>
            refine ⟨position + 2 + 10, ?_⟩
            rw [List.append_assoc]
            rw [unitEscape, List.cons_append, List.cons_append, stringFrom.eq_4,
              unicodeEscape_of_le_toNat position next rest (Nat.le_of_not_lt beyond)]
            rfl

end

theorem stringFrom_quote (text rest done : List Char) (start position : Nat) :
    ∃ further, stringFrom start position (text.flatMap escape ++ '"' :: rest) done =
      .ok (done.reverse ++ text, ⟨rest, further⟩) := by
  induction text generalizing position done with
  | nil => exact ⟨position + 1, by rw [List.flatMap_nil, List.nil_append, stringFrom, List.append_nil]⟩
  | cons c text ih =>
      -- The closing quote or the next escape is what the string goes on with.
      obtain ⟨next, more, goes⟩ : ∃ next more, text.flatMap escape ++ '"' :: rest = next :: more :=
        List.exists_cons_of_ne_nil (by simp)
      obtain ⟨middle, read⟩ := stringFrom_escape position next more c start done
      obtain ⟨further, others⟩ := ih (c :: done) middle
      refine ⟨further, ?_⟩
      rw [List.flatMap_cons, List.append_assoc, goes, read, ← goes, others, List.reverse_cons, List.append_assoc,
        List.singleton_append]

/-- What is written between quote marks is read behind the first of them. -/
theorem string_quote (text rest : List Char) (position : Nat) :
    ∃ further, string ⟨(quote text ++ rest).tail, position⟩ = .ok (text, ⟨rest, further⟩) := by
  have tail : (quote text ++ rest).tail = text.flatMap escape ++ '"' :: rest := by simp [quote]
  rw [string, tail]
  exact stringFrom_quote text rest [] _ _

theorem isPlain_unitEscape (unit : Nat) : (unitEscape unit).all isPlain = true := by
  have digit (value : Nat) : isPlain (value % 16).digitChar = true :=
    isPlain_digitChar _ (Nat.mod_lt _ (by decide))
  simp only [unitEscape, unitDigits, List.all_cons, List.all_nil, digit, Bool.and_true]
  decide

theorem isPlain_escape (c : Char) : (escape c).all isPlain = true := by
  unfold escape
  split
  · next short =>
      obtain ⟨-, -, plain⟩ := escapeLetter?_eq_some short
      simp only [List.all_cons, List.all_nil, plain, Bool.and_true]
      decide
  · split
    · next plain => simp [plain]
    · split
      · exact isPlain_unitEscape _
      · simp [isPlain_unitEscape]

theorem isPlain_quote (text : List Char) : (quote text).all isPlain = true := by
  have marks : isPlain '"' = true := by decide
  simp [quote, marks, List.all_flatMap, isPlain_escape]

end StackMachine.Json

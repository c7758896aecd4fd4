import StackMachine.Proofs.Text.Words

/-!
What numerals are made of. A numeral may stand between pads, but no blank and no quote mark stands in it
(`Numeral.solid_of_isNumeralCharacter`). So a word that denotes a number is one word still when it is cut at blanks, and
it denotes the same number without its pads (`Value.words_of_number`).
-/

set_option autoImplicit false

namespace StackMachine

open Text

namespace Numeral

/-- Characters that stand in numerals, those for infinity and for what is no number included. -/
def isNumeralCharacter (c : Char) : Bool :=
  isRunCharacter c || c.isAlpha || c == '+' || c == '-' || c == '.'

/-- A text is a sign, or none, and what follows it. -/
inductive Signed : List Char → Bool → List Char → Prop where
  | bare (body : List Char) : Signed body false body
  | plus (body : List Char) : Signed ('+' :: body) false body
  | minus (body : List Char) : Signed ('-' :: body) true body

theorem solid_of_digitValue? {c : Char} {value : Nat} (digit : digitValue? c = some value) :
    isBlank c = false ∧ Listing.isQuote c = false := by
  have digits : ∀ start ∈ decimalZeros, ∀ offset ∈ List.range 10,
      isBlank (Char.ofNat (start + offset)) = false ∧ Listing.isQuote (Char.ofNat (start + offset)) = false := by
    decide +kernel
  unfold digitValue? at digit
  obtain ⟨start, found, -⟩ := Option.map_eq_some_iff.mp digit
  have bounds := List.find?_some found
  simp only [Bool.and_eq_true, decide_eq_true_eq] at bounds
  have solid := digits start (List.mem_of_find?_eq_some found) (c.toNat - start)
    (List.mem_range.mpr (by omega))
  have same : start + (c.toNat - start) = c.toNat := by omega
  rwa [same, Char.ofNat_toNat] at solid

theorem solid_of_isAlpha {c : Char} (letter : c.isAlpha = true) :
    isBlank c = false ∧ Listing.isQuote c = false := by
  have bounds : 65 ≤ c.toNat ∧ c.toNat ≤ 90 ∨ 97 ≤ c.toNat ∧ c.toNat ≤ 122 := by
    rcases Bool.or_eq_true_iff.mp letter with upper | lower
    · obtain ⟨least, most⟩ : 'A'.val ≤ c.val ∧ c.val ≤ 'Z'.val := of_decide_eq_true upper
      exact .inl ⟨UInt32.le_iff_toNat_le.mp least, UInt32.le_iff_toNat_le.mp most⟩
    · obtain ⟨least, most⟩ := Bool.and_eq_true_iff.mp lower
      have least : 'a'.val ≤ c.val := of_decide_eq_true least
      have most : c.val ≤ 'z'.val := of_decide_eq_true most
      exact .inr ⟨UInt32.le_iff_toNat_le.mp least, UInt32.le_iff_toNat_le.mp most⟩
  constructor
  · simp only [isBlank, isPad, Bool.or_eq_false_iff, Bool.and_eq_false_iff, decide_eq_false_iff_not,
      beq_eq_false_iff_ne]
    omega
  · apply Listing.isQuote_eq_false
    all_goals
      rintro rfl
      revert bounds
      decide

theorem solid_of_isNumeralCharacter {c : Char} (character : isNumeralCharacter c = true) :
    isBlank c = false ∧ Listing.isQuote c = false := by
  simp only [isNumeralCharacter, isRunCharacter, Bool.or_eq_true, beq_iff_eq, Option.isSome_iff_exists] at character
  rcases character with ((((⟨value, digit⟩ | rfl) | letter) | rfl) | rfl) | rfl
  · exact solid_of_digitValue? digit
  · decide
  · exact solid_of_isAlpha letter
  · decide
  · decide
  · decide

theorem takeSign_signed (text : List Char) : Signed text (takeSign text).1 (takeSign text).2 := by
  unfold takeSign
  split
  · exact .minus _
  · exact .plus _
  · exact .bare _

theorem isNumeralCharacter_of_isRunCharacter {c : Char} (run : isRunCharacter c = true) :
    isNumeralCharacter c = true := by
  simp [isNumeralCharacter, run]

theorem isNumeralCharacter_of_isDigit {c : Char} (digit : c.isDigit = true) : isNumeralCharacter c = true := by
  apply isNumeralCharacter_of_isRunCharacter
  simp [isRunCharacter, digitValue?_of_isDigit digit]

section

variable {text body : List Char} {negative : Bool}

theorem Signed.characters (signed : Signed text negative body)
    (characters : ∀ c ∈ body, isNumeralCharacter c = true) : ∀ c ∈ text, isNumeralCharacter c = true := by
  cases signed with
  | bare => exact characters
  | plus | minus => exact List.forall_mem_cons.mpr ⟨by decide, characters⟩

theorem Signed.exists_append {run tail : List Char} :
    Signed text negative (run ++ tail) → ∃ numeral, text = numeral ++ tail ∧ Signed numeral negative run := by
  intro signed
  generalize whole : run ++ tail = body at signed
  cases signed with
  | bare => exact ⟨run, whole.symm, .bare run⟩
  | plus => exact ⟨'+' :: run, by rw [List.cons_append, whole], .plus run⟩
  | minus => exact ⟨'-' :: run, by rw [List.cons_append, whole], .minus run⟩

/-- A run is no sign, so that whatever follows it, the sign before it is all that is taken off. -/
theorem Signed.takeSign_append (signed : Signed text negative body) (some_ : body ≠ [])
    (run : ∀ c ∈ body, isRunCharacter c = true) (tail : List Char) :
    takeSign (text ++ tail) = (negative, body ++ tail) := by
  cases signed with
  | plus | minus => rfl
  | bare =>
      obtain ⟨c, rest, rfl⟩ := List.exists_cons_of_ne_nil some_
      have first := run c List.mem_cons_self
      rw [List.cons_append]
      unfold takeSign
      split
      · next same =>
          obtain ⟨rfl, -⟩ := List.cons.inj same
          exact absurd first (by decide)
      · next same =>
          obtain ⟨rfl, -⟩ := List.cons.inj same
          exact absurd first (by decide)
      · rfl

end

/-- A sign, or none, and a run of digits that is not too long. -/
inductive DenotesInteger (numeral : List Char) (n : Int) : Prop where
  | intro {negative : Bool} {run : List Char} {digits : List Nat} (signed : Signed numeral negative run)
      (plain : ∀ c ∈ run, isRunCharacter c = true) (denoted : runDigits? run = some digits)
      (short : digits.length ≤ digitLimit)
      (value : n = if negative then -(ofDigits digits : Int) else ofDigits digits)

section

variable {text : List Char} {n : Int}

theorem DenotesInteger.characters {numeral : List Char} (denotes : DenotesInteger numeral n) :
    ∀ c ∈ numeral, isNumeralCharacter c = true := by
  obtain ⟨signed, plain, -, -, -⟩ := denotes
  exact signed.characters fun c member => isNumeralCharacter_of_isRunCharacter (plain c member)

theorem not_pad_of_isNumeralCharacter {c : Char} (character : isNumeralCharacter c = true) : isPad c = false :=
  isPad_of_isBlank_eq_false (solid_of_isNumeralCharacter character).1

theorem denotesInteger_of_integer? (read : integer? text = some n) : DenotesInteger (trimBy isPad text) n := by
  unfold integer? readInteger at read
  have signed := takeSign_signed (text.dropWhile isPad)
  generalize takeSign (text.dropWhile isPad) = pair at read signed
  obtain ⟨negative, body⟩ := pair
  dsimp only at read signed
  cases denoted : runDigits? (body.takeWhile isRunCharacter) with
  | none =>
      rw [denoted] at read
      cases read
  | some digits =>
      rw [denoted] at read
      dsimp only at read
      by_cases short : digits.length > digitLimit
      · rw [if_pos short] at read
        cases read
      · rw [if_neg short] at read
        cases pads : (body.dropWhile isRunCharacter).all isPad with
        | false =>
            rw [pads] at read
            cases read
        | true =>
            rw [pads] at read
            have value := (Option.some.inj read).symm
            have plain : ∀ c ∈ body.takeWhile isRunCharacter, isRunCharacter c = true :=
              fun c member => List.mem_takeWhile_imp member
            rw [← List.takeWhile_append_dropWhile (p := isRunCharacter) (l := body)] at signed
            obtain ⟨numeral, whole, signed⟩ := signed.exists_append
            have solid : ∀ c ∈ numeral, isPad c = false := fun c member => not_pad_of_isNumeralCharacter
              (signed.characters (fun d among => isNumeralCharacter_of_isRunCharacter (plain d among)) c member)
            have trimmed : trimBy isPad text = numeral := by
              change List.rdropWhile isPad (text.dropWhile isPad) = numeral
              rw [whole, rdropWhile_append_of_all solid (List.all_eq_true.mp pads)]
            rw [trimmed]
            exact .intro signed plain denoted (Nat.not_lt.mp short) value

theorem integer?_of_denotesInteger (denotes : DenotesInteger (trimBy isPad text) n) : integer? text = some n := by
  obtain @⟨negative, run, digits, signed, plain, denoted, short, value⟩ := denotes
  have some_ : run ≠ [] := by
    rintro rfl
    cases denoted
  have whole : trimBy isPad text ++ (text.dropWhile isPad).rtakeWhile isPad = text.dropWhile isPad :=
    List.rdropWhile_append_rtakeWhile
  have pads : ∀ c ∈ (text.dropWhile isPad).rtakeWhile isPad, isPad c = true :=
    fun c member => List.mem_rtakeWhile_imp member
  generalize (text.dropWhile isPad).rtakeWhile isPad = tail at whole pads
  have apart : ∀ c ∈ tail, isRunCharacter c = false := by
    intro c member
    cases run : isRunCharacter c with
    | false => rfl
    | true =>
        have noPad := not_pad_of_isNumeralCharacter (isNumeralCharacter_of_isRunCharacter run)
        rw [pads c member] at noPad
        cases noPad
  have taken : (run ++ tail).takeWhile isRunCharacter = run := by
    rw [List.takeWhile_append_of_pos plain, takeWhile_of_none apart, List.append_nil]
  have left : (run ++ tail).dropWhile isRunCharacter = tail := by
    rw [List.dropWhile_append_of_pos plain, dropWhile_of_none apart]
  unfold integer? readInteger
  rw [← whole, signed.takeSign_append some_ plain]
  dsimp only
  rw [taken, denoted, left, value]
  dsimp only
  rw [if_neg (Nat.not_lt.mpr short), if_pos (List.all_eq_true.mpr pads)]

/-- An integer is denoted by what stands between the pads. -/
theorem integer?_eq_some_iff : integer? text = some n ↔ DenotesInteger (trimBy isPad text) n :=
  ⟨denotesInteger_of_integer?, integer?_of_denotesInteger⟩

theorem integer?_trimBy (text : List Char) : integer? (trimBy isPad text) = integer? text := by
  apply Option.ext
  intro n
  rw [integer?_eq_some_iff, integer?_eq_some_iff, trimBy_trimBy]

end

/-- Leaving out separators leaves nothing else out. -/
theorem mem_of_withoutSeparators? {afterDigit : Bool} {text plain : List Char}
    (left : withoutSeparators? afterDigit text = some plain) : ∀ c ∈ text, c = '_' ∨ c ∈ plain := by
  fun_induction withoutSeparators? afterDigit text generalizing plain with
  | case1 => exact nofun
  | case2 afterDigit c rest between ih => exact List.forall_mem_cons.mpr ⟨.inl rfl, ih left⟩
  | case3 => cases left
  | case4 => cases left
  | case5 afterDigit c rest other ih =>
      obtain ⟨others, later, rfl⟩ := Option.map_eq_some_iff.mp left
      refine List.forall_mem_cons.mpr ⟨.inr List.mem_cons_self, ?_⟩
      intro d member
      exact (ih later d member).imp_right (List.mem_cons_of_mem c)

theorem characters_of_exponentPart? {text : List Char} {exponent : Int}
    (read : exponentPart? text = some exponent) : ∀ c ∈ text, isNumeralCharacter c = true := by
  cases text with
  | nil => exact nofun
  | cons mark rest =>
      rw [exponentPart?] at read
      by_cases marks : mark = 'e' ∨ mark = 'E'
      · have signed := takeSign_signed rest
        generalize takeSign rest = pair at read signed
        obtain ⟨negative, digits⟩ := pair
        rw [if_pos marks] at read
        dsimp only at read signed
        cases refused : digits.isEmpty || !digits.all Char.isDigit with
        | true =>
            rw [refused] at read
            cases read
        | false =>
            have plain : digits.all Char.isDigit = true := by simpa using (Bool.or_eq_false_iff.mp refused).2
            refine List.forall_mem_cons.mpr ⟨?_, signed.characters fun c member => ?_⟩
            · rcases marks with rfl | rfl <;> decide
            · exact isNumeralCharacter_of_isDigit (List.all_eq_true.mp plain c member)
      · rw [if_neg marks] at read
        cases read

theorem characters_of_decimalParts? {text : List Char} {parts : DecimalParts}
    (read : decimalParts? text = some parts) : ∀ c ∈ text, isNumeralCharacter c = true := by
  have digits : ∀ text : List Char, ∀ c ∈ text.takeWhile Char.isDigit, isNumeralCharacter c = true :=
    fun text c member => isNumeralCharacter_of_isDigit (List.mem_takeWhile_imp member)
  have behind : ∀ c ∈ text.dropWhile Char.isDigit, isNumeralCharacter c = true := by
    unfold decimalParts? at read
    dsimp only at read
    split at read
    · next rest point =>
        split at read
        · cases read
        · obtain ⟨exponent, exponentRead, -⟩ := Option.map_eq_some_iff.mp read
          have later := characters_of_exponentPart? exponentRead
          rw [point, List.forall_mem_cons, ← List.takeWhile_append_dropWhile (p := Char.isDigit) (l := rest),
            List.forall_mem_append]
          exact ⟨by decide, digits rest, later⟩
    · split at read
      · cases read
      · obtain ⟨exponent, exponentRead, -⟩ := Option.map_eq_some_iff.mp read
        exact characters_of_exponentPart? exponentRead
  rw [← List.takeWhile_append_dropWhile (p := Char.isDigit) (l := text), List.forall_mem_append]
  exact ⟨digits text, behind⟩

theorem isAlpha_of_toLower {c : Char} (letter : c.toLower.isAlpha = true) : c.isAlpha = true := by
  by_cases upper : c.val ≥ 'A'.val ∧ c.val ≤ 'Z'.val
  · have isUpper : c.isUpper = true := decide_eq_true upper
    exact Bool.or_eq_true_iff.mpr (.inl isUpper)
  · have same : c.toLower = c := dif_neg upper
    rwa [same] at letter

theorem characters_of_letters {text : List Char} (letters : (text.map Char.toLower).all Char.isAlpha = true) :
    ∀ c ∈ text, isNumeralCharacter c = true := by
  intro c member
  have letter := List.all_eq_true.mp letters _ (List.mem_map_of_mem member)
  simp [isNumeralCharacter, isAlpha_of_toLower letter]

theorem characters_of_float? {text : List Char} {x : Float} (read : float? text = some x) :
    ∀ c ∈ trimBy isPad text, isNumeralCharacter c = true := by
  unfold float? at read
  cases separated : withoutSeparators? false ((trimBy isPad text).map plainDigit) with
  | none =>
      rw [separated] at read
      cases read
  | some plain =>
      have signed := takeSign_signed plain
      rw [separated] at read
      dsimp only at read
      generalize takeSign plain = pair at read signed
      obtain ⟨negative, body⟩ := pair
      dsimp only at read signed
      have inBody : ∀ c ∈ body, isNumeralCharacter c = true := by
        split at read
        · next infinite =>
            apply characters_of_letters
            rcases infinite with same | same
            · rw [same]
              decide
            · rw [same]
              decide
        · split at read
          · next notNumber =>
              apply characters_of_letters
              rw [notNumber]
              decide
          · obtain ⟨parts, partsRead, -⟩ := Option.map_eq_some_iff.mp read
            exact characters_of_decimalParts? partsRead
      have inPlain := signed.characters inBody
      intro c member
      cases digit : digitValue? c with
      | some value => exact isNumeralCharacter_of_isRunCharacter (by simp [isRunCharacter, digit])
      | none =>
          have same : plainDigit c = c := by rw [plainDigit, digit]
          rcases mem_of_withoutSeparators? separated _ (List.mem_map_of_mem member) with underscore | kept
          · rw [same] at underscore
            rw [underscore]
            decide
          · rw [same] at kept
            exact inPlain c kept

theorem trimBy_ne_nil_of_float? {text : List Char} {x : Float} (read : float? text = some x) :
    trimBy isPad text ≠ [] := by
  intro empty
  have nothing : (none : Option Float) = some x := by
    rw [← read, float?, empty]
    rfl
  cases nothing

theorem float?_trimBy (text : List Char) : float? (trimBy isPad text) = float? text := by
  rw [float?, trimBy_trimBy, ← float?]

end Numeral

open Numeral

section

variable {word : List Char}

theorem Value.ofWord_of_text? {text : String} (denoted : (Value.ofWord word).text? = some text) :
    Value.ofWord word = .text (String.ofList word) := by
  unfold Value.ofWord at denoted ⊢
  split at denoted
  · cases denoted
  · split at denoted
    · cases denoted
    · rfl

theorem Value.characters_of_number (number : (Value.ofWord word).text? = none) :
    trimBy isPad word ≠ [] ∧ ∀ c ∈ trimBy isPad word, isNumeralCharacter c = true := by
  unfold Value.ofWord at number
  cases integer : integer? word with
  | some n =>
      have denotes := integer?_eq_some_iff.mp integer
      refine ⟨?_, denotes.characters⟩
      obtain ⟨signed, -, denoted, -, -⟩ := denotes
      intro empty
      rw [empty] at signed
      cases signed
      cases denoted
  | none =>
      rw [integer] at number
      cases float : float? word with
      | some x => exact ⟨trimBy_ne_nil_of_float? float, characters_of_float? float⟩
      | none =>
          rw [float] at number
          cases number

/-- A word that denotes a number is one word between its pads, and the pads do not matter. -/
theorem Value.words_of_number (number : (Value.ofWord word).text? = none) :
    words word = [trimBy isPad word] ∧ Value.ofWord (trimBy isPad word) = Value.ofWord word := by
  obtain ⟨some_, characters⟩ := Value.characters_of_number number
  have blanks : ∀ c, isPad c = true → isBlank c = true := fun _ => isBlank_of_isPad
  constructor
  · rw [← words_trimBy blanks]
    exact words_of_all some_ fun c member => (solid_of_isNumeralCharacter (characters c member)).1
  · unfold Value.ofWord at number ⊢
    rw [integer?_trimBy, float?_trimBy]
    split
    · rfl
    · next integer =>
        rw [integer] at number
        split
        · rfl
        · next float =>
            rw [float] at number
            cases number

/-- A word with a quote mark in it denotes itself. -/
theorem Value.ofWord_of_quoted (solid : ∀ c ∈ word, isBlank c = false) {mark : Char} (inside : mark ∈ word)
    (quote : Listing.isQuote mark = true) : Value.ofWord word = .text (String.ofList word) := by
  cases denoted : (Value.ofWord word).text? with
  | some text => exact Value.ofWord_of_text? denoted
  | none =>
      have whole := trimBy_eq_self fun c member => isPad_of_isBlank_eq_false (solid c member)
      have characters := (Value.characters_of_number denoted).2
      rw [whole] at characters
      rw [(solid_of_isNumeralCharacter (characters mark inside)).2] at quote
      cases quote

end

end StackMachine

import Mathlib.Data.List.Induction
import StackMachine.Listing

/-!
What can come out of reading a listing, whatever the text. An instruction that was read has a known operation
code and two arguments at most. Its integers keep to the digit limit, and its texts are legible: they hold
no quote mark and no newline, are not empty and do not read as numbers.
-/

set_option autoImplicit false

namespace StackMachine

open Text

theorem exists_of_bind_eq_ok {α β : Type} {first : Except Fault α} {next : α → Except Fault β} {result : β}
    (bound : first >>= next = .ok result) : ∃ value, first = .ok value ∧ next value = .ok result := by
  cases first with
  | error fault => cases bound
  | ok value => exact ⟨value, rfl, bound⟩

theorem eq_ok_of_toOption {α : Type} {result : Except Fault α} {value : α}
    (same : result.toOption = some value) : result = .ok value := by
  cases result with
  | error fault => cases same
  | ok other => exact congrArg Except.ok (Option.some.inj same)

theorem exists_error_of_toOption {α : Type} {result : Except Fault α} (nothing : result.toOption = none) :
    ∃ fault, result = .error fault := by
  cases result with
  | error fault => exact ⟨fault, rfl⟩
  | ok value => cases nothing

theorem exists_mem_of_mapM_eq_ok {α β : Type} {f : α → Except Fault β} {items : List α}
    {results : List β} (mapped : items.mapM f = .ok results) {result : β} (member : result ∈ results) :
    ∃ item ∈ items, f item = .ok result := by
  induction items generalizing results with
  | nil =>
      cases mapped
      cases member
  | cons item items ih =>
      rw [List.mapM_cons] at mapped
      obtain ⟨value, first, mapped⟩ := exists_of_bind_eq_ok mapped
      obtain ⟨values, others, mapped⟩ := exists_of_bind_eq_ok mapped
      cases mapped
      rcases List.mem_cons.mp member with rfl | member
      · exact ⟨item, List.mem_cons_self, first⟩
      · obtain ⟨source, inside, found⟩ := ih others member
        exact ⟨source, List.mem_cons_of_mem item inside, found⟩

/-- The first item that fails decides the fault. -/
theorem exists_of_mapM_eq_error {α β : Type} {f : α → Except Fault β} {items : List α} {fault : Fault}
    (failed : items.mapM f = .error fault) :
    ∃ before item after, items = before ++ item :: after ∧
      (∀ earlier ∈ before, ∃ result, f earlier = .ok result) ∧ f item = .error fault := by
  induction items with
  | nil => cases failed
  | cons item items ih =>
      rw [List.mapM_cons] at failed
      cases first : f item with
      | error other =>
          rw [first] at failed
          obtain rfl := Except.error.inj failed
          exact ⟨[], item, items, rfl, nofun, first⟩
      | ok result =>
          rw [first] at failed
          cases rest : items.mapM f with
          | ok others =>
              rw [rest] at failed
              cases failed
          | error other =>
              rw [rest] at failed
              obtain rfl := Except.error.inj failed
              obtain ⟨before, later, after, split, passed, stopped⟩ := ih rest
              refine ⟨item :: before, later, after, by rw [split, List.cons_append], ?_, stopped⟩
              exact List.forall_mem_cons.mpr ⟨⟨result, first⟩, passed⟩

/-- What was written item by item is read back as a whole exactly if every item is. -/
theorem mapM_map_eq_ok_iff {α β : Type} {read : β → Except Fault α} {write : α → β} {items : List α} :
    (items.map write).mapM read = .ok items ↔ ∀ item ∈ items, read (write item) = .ok item := by
  induction items with
  | nil => exact ⟨nofun, fun _ => rfl⟩
  | cons item items ih =>
      rw [List.map_cons, List.mapM_cons, List.forall_mem_cons, ← ih]
      constructor
      · intro mapped
        obtain ⟨value, first, mapped⟩ := exists_of_bind_eq_ok mapped
        obtain ⟨values, others, mapped⟩ := exists_of_bind_eq_ok mapped
        cases mapped
        exact ⟨first, others⟩
      · rintro ⟨first, others⟩
        rw [first, others]
        rfl

-- Evaluating `toList` on a literal decodes its bytes one by one; a literal spelled as a list is quicker.
theorem Text.toList_of_spelling {text : String} {letters : List Char}
    (spelling : text = String.ofList letters) : text.toList = letters := by
  rw [spelling, String.toList_ofList]

/-- A piece of a text is made of its characters, those that it was cut at apart. -/
theorem Text.mem_of_mem_cut {class_ : Char → Bool} {text piece : List Char}
    (member : piece ∈ cut class_ text) {c : Char} (inside : c ∈ piece) : c ∈ text ∧ class_ c = false := by
  induction text generalizing piece with
  | nil =>
      rw [cut, List.mem_singleton] at member
      rw [member] at inside
      cases inside
  | cons d rest ih =>
      have later {piece : List Char} (member : piece ∈ cut class_ rest) (inside : c ∈ piece) :
          c ∈ d :: rest ∧ class_ c = false := by
        obtain ⟨present, open_⟩ := ih member inside
        exact ⟨List.mem_cons_of_mem d present, open_⟩
      rw [cut] at member
      split at member
      · rcases List.mem_cons.mp member with rfl | member
        · cases inside
        · exact later member inside
      · next open_ =>
          cases others : cut class_ rest with
          | nil => exact absurd others (cut_ne_nil class_ rest)
          | cons first more =>
              rw [others] at member later
              rcases List.mem_cons.mp member with rfl | member
              · rcases List.mem_cons.mp inside with rfl | inside
                · exact ⟨List.mem_cons_self, Bool.eq_false_iff.mpr open_⟩
                · exact later List.mem_cons_self inside
              · exact later (List.mem_cons_of_mem first member) inside

namespace Numeral

theorem digitValue?_lt {c : Char} {digit : Nat} (value : digitValue? c = some digit) : digit < 10 := by
  unfold digitValue? at value
  obtain ⟨start, found, rfl⟩ := Option.map_eq_some_iff.mp value
  have bounds := List.find?_some found
  simp only [Bool.and_eq_true, decide_eq_true_eq] at bounds
  omega

theorem runDigits?_lt {text : List Char} {digits : List Nat} (run : runDigits? text = some digits) :
    ∀ digit ∈ digits, digit < 10 := by
  fun_induction runDigits? text generalizing digits with
  | case1 => cases run
  | case2 => cases run
  | case3 c digit value =>
      cases run
      simpa using digitValue?_lt value
  | case4 c digit rest value ih =>
      obtain ⟨others, read, rfl⟩ := Option.map_eq_some_iff.mp run
      exact List.forall_mem_cons.mpr ⟨digitValue?_lt value, ih read⟩
  | case5 c digit rest _ _ value ih =>
      obtain ⟨others, read, rfl⟩ := Option.map_eq_some_iff.mp run
      exact List.forall_mem_cons.mpr ⟨digitValue?_lt value, ih read⟩

theorem ofDigits_lt {digits : List Nat} (small : ∀ digit ∈ digits, digit < 10) :
    ofDigits digits < Nat.pow 10 digits.length := by
  -- Digits are read from the left, so the number is followed from its last digit backwards.
  induction digits using List.reverseRecOn with
  | nil => decide
  | append_singleton digits digit ih =>
      have before := ih fun other member => small other (List.mem_append_left [digit] member)
      have last := small digit (by simp)
      have power : Nat.pow 10 (digits.length + 1) = Nat.pow 10 digits.length * 10 := rfl
      rw [ofDigits, List.foldl_append, List.length_append, List.length_singleton, power]
      rw [ofDigits] at before
      simp only [List.foldl_cons, List.foldl_nil]
      omega

theorem ofDigits_lt_of_length_le {digits : List Nat} {limit : Nat} (short : digits.length ≤ limit)
    (small : ∀ digit ∈ digits, digit < 10) : ofDigits digits < Nat.pow 10 limit :=
  Nat.lt_of_lt_of_le (ofDigits_lt small) (Nat.pow_le_pow_right (by decide) short)

theorem readInteger_eq_value {text : List Char} {n : Int} (read : readInteger text = .value n) :
    ∃ digits, digits.length ≤ digitLimit ∧ (∀ digit ∈ digits, digit < 10) ∧
      n.natAbs = ofDigits digits := by
  unfold readInteger at read
  generalize takeSign (text.dropWhile isPad) = signed at read
  obtain ⟨negative, body⟩ := signed
  dsimp only at read
  cases run : runDigits? (body.takeWhile isRunCharacter) with
  | none => simp [run] at read
  | some digits =>
      simp only [run] at read
      split at read
      · cases read
      · next short =>
          split at read
          · obtain rfl := IntegerReading.value.inj read
            refine ⟨digits, Nat.not_lt.mp short, runDigits?_lt run, ?_⟩
            split
            · rw [Int.natAbs_neg, Int.natAbs_natCast]
            · rw [Int.natAbs_natCast]
          · cases read

/-- An integer that was read keeps to the digit limit. -/
theorem fitsDecimal_of_integer? {text : List Char} {n : Int} (read : integer? text = some n) :
    fitsDecimal n = true := by
  unfold integer? at read
  cases reading : readInteger text with
  | malformed => simp [reading] at read
  | tooLong digits => simp [reading] at read
  | value m =>
      simp only [reading, Option.some.injEq] at read
      obtain ⟨digits, short, small, magnitude⟩ := readInteger_eq_value reading
      rw [read] at magnitude
      unfold fitsDecimal decimalBound
      rw [decide_eq_true_eq, magnitude]
      exact ofDigits_lt_of_length_le short small

end Numeral

namespace Listing

theorem pieces_ne_nil (insideQuotes : Bool) (line : List Char) : pieces insideQuotes line ≠ [] := by
  fun_induction pieces insideQuotes line with
  | case1 | case3 | case4 | case5 => exact List.cons_ne_nil _ _
  | case2 _ c rest quote ih => exact ih

/-- A piece of a line is made of its characters, the quote marks apart. -/
theorem mem_of_mem_pieces {insideQuotes : Bool} {line piece : List Char}
    (member : piece ∈ pieces insideQuotes line) {c : Char} (inside : c ∈ piece) :
    c ∈ line ∧ isQuote c = false := by
  fun_induction pieces insideQuotes line generalizing piece with
  | case1 =>
      rw [List.mem_singleton] at member
      rw [member] at inside
      cases inside
  | case2 _ d rest quote ih =>
      obtain ⟨later, plain⟩ := ih member inside
      exact ⟨List.mem_cons_of_mem d later, plain⟩
  | case3 _ d rest plain space ih =>
      rcases List.mem_cons.mp member with rfl | member
      · cases inside
      · obtain ⟨later, plain⟩ := ih member inside
        exact ⟨List.mem_cons_of_mem d later, plain⟩
  | case4 _ d rest plain _ none ih => exact absurd none (pieces_ne_nil _ rest)
  | case5 _ d rest plain _ first others rest_ ih =>
      rw [rest_] at ih
      rcases List.mem_cons.mp member with rfl | member
      · rcases List.mem_cons.mp inside with rfl | inside
        · exact ⟨List.mem_cons_self, Bool.eq_false_iff.mpr plain⟩
        · obtain ⟨later, plain⟩ := ih List.mem_cons_self inside
          exact ⟨List.mem_cons_of_mem d later, plain⟩
      · obtain ⟨later, plain⟩ := ih (List.mem_cons_of_mem first member) inside
        exact ⟨List.mem_cons_of_mem d later, plain⟩

/-- A text that a listing can give as an argument. -/
structure Legible (text : String) : Prop where
  ne_empty : text ≠ ""
  unquoted : '\'' ∉ text.toList ∧ '"' ∉ text.toList
  oneLine : '\n' ∉ text.toList
  notInteger : Numeral.integer? text.toList = none
  notFloat : Numeral.float? text.toList = none

theorem legible_iff {text : String} :
    Legible text ↔ text ≠ "" ∧ ('\'' ∉ text.toList ∧ '"' ∉ text.toList) ∧ '\n' ∉ text.toList ∧
      (Numeral.integer? text.toList).isNone ∧ (Numeral.float? text.toList).isNone := by
  rw [Option.isNone_iff_eq_none, Option.isNone_iff_eq_none]
  exact ⟨fun legible => ⟨legible.1, legible.2, legible.3, legible.4, legible.5⟩,
    fun ⟨ne_empty, unquoted, oneLine, notInteger, notFloat⟩ =>
      ⟨ne_empty, unquoted, oneLine, notInteger, notFloat⟩⟩

instance (text : String) : Decidable (Legible text) :=
  decidable_of_iff _ legible_iff.symm

end Listing

/-- A value that a word of a listing can denote. -/
inductive Value.Readable : Value → Prop where
  | int {n : Int} : Numeral.fitsDecimal n = true → Readable (.int n)
  | float {x : Float} : Readable (.float x)
  | text {s : String} : Listing.Legible s → Readable (.text s)

/-- An instruction that a line of a listing can denote. -/
structure Instruction.Readable (instruction : Instruction) : Prop where
  known : ∃ op, instruction.mnemonic = .known op
  few : instruction.args.length ≤ Listing.mostArguments
  args : ∀ arg ∈ instruction.args, arg.Readable

theorem Value.readable_ofWord {word : List Char} (some : word ≠ [])
    (plain : ∀ c ∈ word, Listing.isQuote c = false ∧ c ≠ '\n') : (Value.ofWord word).Readable := by
  unfold Value.ofWord
  cases integer : Numeral.integer? word with
  | some n => exact .int (Numeral.fitsDecimal_of_integer? integer)
  | none =>
      cases float : Numeral.float? word with
      | some x => exact .float
      | none =>
          have unquoted (c : Char) (quote : Listing.isQuote c = true) : c ∉ word := by
            intro inside
            rw [(plain c inside).1] at quote
            cases quote
          refine .text ⟨?_, ?_, ?_, ?_, ?_⟩
          · intro empty
            exact some (String.ofList_inj.mp empty)
          all_goals rw [String.toList_ofList]
          · exact ⟨unquoted '\'' rfl, unquoted '"' rfl⟩
          · exact fun inside => (plain '\n' inside).2 rfl
          · exact integer
          · exact float

namespace Listing

theorem plain_of_mem_words {line word : List Char} (oneLine : '\n' ∉ line) (member : word ∈ words line) :
    word ≠ [] ∧ ∀ c ∈ word, isQuote c = false ∧ c ≠ '\n' := by
  obtain ⟨piece, some⟩ := List.mem_filter.mp member
  refine ⟨by simpa using some, fun c inside => ?_⟩
  obtain ⟨present, plain⟩ := mem_of_mem_pieces piece inside
  refine ⟨plain, ?_⟩
  rintro rfl
  exact oneLine present

theorem readable_of_readLine {line : List Char} (oneLine : '\n' ∉ line) {instruction : Instruction}
    (read : readLine line = .ok instruction) : instruction.Readable := by
  unfold readLine at read
  cases denoted : (words line).map Value.ofWord with
  | nil => simp [denoted] at read
  | cons head args =>
      simp only [denoted] at read
      cases named : head.text?.bind Opcode.ofName? with
      | none => simp [named] at read
      | some op =>
          simp only [named] at read
          split at read
          · next few =>
              obtain rfl := Except.ok.inj read
              refine ⟨⟨op, rfl⟩, few, fun arg member => ?_⟩
              have inside : arg ∈ (words line).map Value.ofWord := by
                rw [denoted]
                exact List.mem_cons_of_mem head member
              obtain ⟨word, source, rfl⟩ := List.mem_map.mp inside
              obtain ⟨some, plain⟩ := plain_of_mem_words oneLine source
              exact Value.readable_ofWord some plain
          · cases read

/-- Whatever a text is read as, every instruction in it is one that a line can denote. -/
theorem readable_of_read {text : List Char} {code : List Instruction} (read : Listing.read text = .ok code) :
    ∀ instruction ∈ code, instruction.Readable := by
  intro instruction member
  obtain ⟨line, significant, readLine⟩ := exists_mem_of_mapM_eq_ok read member
  have piece := (List.mem_filter.mp significant).1
  have oneLine : '\n' ∉ line := fun inside => absurd (mem_of_mem_cut piece inside).2 (by decide)
  exact readable_of_readLine oneLine readLine

end Listing

end StackMachine

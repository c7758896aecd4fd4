import StackMachine.Pocket.Listing
import StackMachine.Proofs.Listing.RoundTrip

/-!
Writing a listing of the pocket machine and reading it back. Nothing is quoted, so a text comes back only if it
is a bare word: without spaces and line breaks, and not all digits. An integer comes back unless it is
negative, for a sign is no digit. Empty words are kept between spaces, but a single empty argument leaves no
trace at all. Nothing else is lost (`Pocket.read_write_iff_bare`).
-/

set_option autoImplicit false

namespace StackMachine

namespace Text

theorem isBlank_of_isLineBreak {c : Char} (ends : isLineBreak c = true) : isBlank c = true := by
  simp only [isLineBreak, isBlank, isPad, Bool.or_eq_true, Bool.and_eq_true, decide_eq_true_eq,
    beq_iff_eq] at ends ⊢
  omega

/-- A text that goes on after a character that ends no line. -/
theorem lines_cons {c : Char} (solid : isLineBreak c = false) {rest line : List Char}
    {others : List (List Char)} (followed : lines rest = line :: others) :
    lines (c :: rest) = (c :: line) :: others := by
  unfold lines
  split
  · contradiction
  · next same =>
      obtain ⟨rfl, -⟩ := List.cons.inj same
      cases solid
  · next same =>
      obtain ⟨rfl, rfl⟩ := List.cons.inj same
      simp only [solid, Bool.false_eq_true, if_false, followed]

theorem lines_append {line : List Char} (solid : ∀ c ∈ line, isLineBreak c = false) (rest : List Char) :
    lines (line ++ '\n' :: rest) = line :: lines rest := by
  induction line with
  | nil => rfl
  | cons c line ih =>
      obtain ⟨first, others⟩ := List.forall_mem_cons.mp solid
      exact lines_cons first (ih others)

theorem lines_of_solid {line : List Char} (some : line ≠ []) (solid : ∀ c ∈ line, isLineBreak c = false) :
    lines line = [line] := by
  induction line with
  | nil => exact absurd rfl some
  | cons c line ih =>
      obtain ⟨first, others⟩ := List.forall_mem_cons.mp solid
      cases line with
      | nil => simp [lines, first]
      | cons d line => exact lines_cons first (ih (List.cons_ne_nil d line) others)

theorem lines_intercalate {pieces : List (List Char)} (some : ∀ piece ∈ pieces, piece ≠ [])
    (solid : ∀ piece ∈ pieces, ∀ c ∈ piece, isLineBreak c = false) :
    lines (['\n'].intercalate pieces) = pieces := by
  induction pieces with
  | nil => rfl
  | cons piece pieces ih =>
      obtain ⟨firstSome, othersSome⟩ := List.forall_mem_cons.mp some
      obtain ⟨firstSolid, othersSolid⟩ := List.forall_mem_cons.mp solid
      cases pieces with
      | nil => simpa using lines_of_solid firstSome firstSolid
      | cons next pieces =>
          rw [List.intercalate_cons_cons, List.append_assoc, List.singleton_append,
            lines_append firstSolid, ih othersSome othersSolid]

theorem mem_of_mem_intercalate {separator c : Char} {pieces : List (List Char)}
    (member : c ∈ [separator].intercalate pieces) : c = separator ∨ ∃ piece ∈ pieces, c ∈ piece := by
  induction pieces with
  | nil => cases member
  | cons piece pieces ih =>
      cases pieces with
      | nil =>
          rw [List.intercalate_singleton] at member
          exact .inr ⟨piece, List.mem_cons_self, member⟩
      | cons next pieces =>
          rw [List.intercalate_cons_cons, List.append_assoc, List.singleton_append] at member
          rcases List.mem_append.mp member with inside | member
          · exact .inr ⟨piece, List.mem_cons_self, inside⟩
          · rcases List.mem_cons.mp member with between | later
            · exact .inl between
            · rcases ih later with between | ⟨other, present, inside⟩
              · exact .inl between
              · exact .inr ⟨other, List.mem_cons_of_mem piece present, inside⟩

theorem eq_false_of_mem_lines {text line : List Char} (member : line ∈ lines text) :
    ∀ c ∈ line, isLineBreak c = false := by
  fun_induction lines text generalizing line with
  | case1 => cases member
  | case2 rest ih =>
      rcases List.mem_cons.mp member with rfl | later
      · exact nofun
      · exact ih later
  | case3 c rest _ ends ih =>
      rcases List.mem_cons.mp member with rfl | later
      · exact nofun
      · exact ih later
  | case4 c rest _ solid _ ih =>
      obtain rfl := List.mem_singleton.mp member
      simpa using solid
  | case5 c rest _ solid first others followed ih =>
      rw [followed] at ih
      rcases List.mem_cons.mp member with rfl | later
      · exact List.forall_mem_cons.mpr ⟨Bool.eq_false_iff.mpr solid, ih List.mem_cons_self⟩
      · exact ih (List.mem_cons_of_mem first later)

end Text

namespace Numeral

open Text

/-- Without a minus sign no negative integer is read. -/
theorem nonneg_of_readInteger {text : List Char} {n : Int} (unsigned : '-' ∉ text)
    (read : readInteger text = .value n) : 0 ≤ n := by
  have positive : (takeSign (text.dropWhile isPad)).1 = false := by
    unfold takeSign
    split
    · next rest same =>
        have inside : '-' ∈ text.dropWhile isPad := by simp [same]
        exact absurd ((List.dropWhile_sublist isPad).subset inside) unsigned
    · rfl
    · rfl
  unfold readInteger at read
  generalize takeSign (text.dropWhile isPad) = signed at read positive
  obtain ⟨negative, body⟩ := signed
  dsimp only at read positive
  subst positive
  cases run : runDigits? (body.takeWhile isRunCharacter) with
  | none => simp [run] at read
  | some digits =>
      simp only [run] at read
      split at read
      · cases read
      · split at read
        · obtain rfl := IntegerReading.value.inj read
          exact Int.natCast_nonneg _
        · cases read

end Numeral

namespace Pocket

open Text

/-- A text that a word of a plain listing can give as an argument. -/
structure Bare (text : String) : Prop where
  unspaced : ' ' ∉ text.toList
  unbroken : ∀ c ∈ text.toList, isLineBreak c = false
  notDigits : allDigitForms text.toList = false

theorem bare_iff {text : String} :
    Bare text ↔ ' ' ∉ text.toList ∧ (text.toList.all fun c => !isLineBreak c) = true ∧
      allDigitForms text.toList = false := by
  simp only [List.all_eq_true, Bool.not_eq_true']
  constructor
  · intro bare
    exact ⟨bare.unspaced, bare.unbroken, bare.notDigits⟩
  · rintro ⟨unspaced, unbroken, notDigits⟩
    exact ⟨unspaced, unbroken, notDigits⟩

instance (text : String) : Decidable (Bare text) :=
  decidable_of_iff _ bare_iff.symm

/-- A value that a word of a plain listing can denote. -/
inductive Denoted : Value → Prop where
  | int {n : Int} : 0 ≤ n → Denoted (.int n)
  | text {s : String} : Bare s → Denoted (.text s)

/-- An instruction of the pocket machine whose arguments are integers within the digit limit and texts. -/
structure Listed (instruction : Instruction) : Prop where
  known : ∃ op ∈ opcodes, instruction.mnemonic = .known op
  args : ∀ arg ∈ instruction.args, arg.Writable

/-- The line that is written for an instruction. -/
def lineOf (instruction : Instruction) : List Char :=
  match instruction.mnemonic with
  | .known op => Instruction.line op instruction.args
  | .unknown _ => []

theorem denoted_of_readWord {word : List Char} {value : Value} (unspaced : ' ' ∉ word)
    (unbroken : ∀ c ∈ word, isLineBreak c = false) (read : readWord word = .ok value) : Denoted value := by
  unfold readWord at read
  split at read
  · next digits =>
      have unsigned : '-' ∉ word := by
        intro inside
        rw [allDigitForms, Bool.and_eq_true, List.all_eq_true] at digits
        exact absurd (digits.2 '-' inside) (by decide)
      cases reading : Numeral.readInteger word with
      | value n =>
          simp only [reading, Except.ok.injEq] at read
          exact read ▸ .int (Numeral.nonneg_of_readInteger unsigned reading)
      | tooLong | malformed => simp [reading] at read
  · next noDigits =>
      obtain rfl := Except.ok.inj read
      refine .text ⟨?_, ?_, ?_⟩
      all_goals rw [String.toList_ofList]
      · exact unspaced
      · exact unbroken
      · exact Bool.eq_false_iff.mpr noDigits

theorem denoted_of_readLine {line : List Char} (unbroken : ∀ c ∈ line, isLineBreak c = false)
    {instruction : Instruction} (read : readLine line = .ok instruction) :
    ∀ arg ∈ instruction.args, Denoted arg := by
  unfold readLine at read
  cases pieces : cut (· == ' ') line with
  | nil => simp [pieces] at read
  | cons name words =>
      simp only [pieces] at read
      obtain ⟨args, mapped, read⟩ := exists_of_bind_eq_ok read
      cases named : opcode? (String.ofList name) with
      | none => simp [named, throw, throwThe, MonadExceptOf.throw] at read
      | some op =>
          simp only [named] at read
          obtain rfl := Except.ok.inj read
          intro arg member
          obtain ⟨word, inside, reading⟩ := exists_mem_of_mapM_eq_ok mapped member
          have piece : word ∈ cut (· == ' ') line := by
            rw [pieces]
            exact List.mem_cons_of_mem name inside
          refine denoted_of_readWord ?_ ?_ reading
          · intro space
            exact absurd (mem_of_mem_cut piece space).2 (by decide)
          · exact fun c member => unbroken c (mem_of_mem_cut piece member).1

/-- Whatever a text is read as, every argument is one that a word can denote. -/
theorem denoted_of_read {text : List Char} {code : List Instruction} (read : Pocket.read text = .ok code) :
    ∀ instruction ∈ code, ∀ arg ∈ instruction.args, Denoted arg := by
  intro instruction member
  obtain ⟨line, inside, reading⟩ := exists_mem_of_mapM_eq_ok read member
  exact denoted_of_readLine (eq_false_of_mem_lines inside) reading

theorem readWord_display {arg : Value} (writable : arg.Writable) (denoted : Denoted arg) :
    readWord arg.display = .ok arg := by
  cases denoted with
  | text bare =>
      simp only [readWord, Value.display, bare.notDigits, Bool.false_eq_true, if_false, String.ofList_toList]
  | @int n natural =>
      cases writable with
      | int fits =>
          have digits : allDigitForms (Numeral.decimal n) = true := by
            obtain ⟨n, rfl⟩ := Int.eq_ofNat_of_zero_le natural
            rw [allDigitForms, Bool.and_eq_true, List.all_eq_true]
            refine ⟨by simpa using Numeral.decimal_ne_nil n, fun c member => ?_⟩
            have plain := digitValue?_of_isDigit (Numeral.isDigit_of_mem_toDigits member)
            simp [isDigitForm, plain]
          have reading : Numeral.readInteger (Numeral.decimal n) = .value n := by
            have read := Numeral.integer?_decimal fits
            unfold Numeral.integer? at read
            split at read
            · next same =>
                rw [same, Option.some.inj read]
            · cases read
          simp only [readWord, Value.display, Value.literal, digits, if_true, reading]

theorem solid_of_isBlank {c : Char} (solid : isBlank c = false) :
    (c == ' ') = false ∧ isLineBreak c = false := by
  constructor
  · rw [beq_eq_false_iff_ne]
    rintro rfl
    exact absurd solid (by decide)
  · cases ends : isLineBreak c with
    | false => rfl
    | true => exact (isBlank_of_isLineBreak ends).symm.trans solid

theorem solid_of_mem_display {arg : Value} (denoted : Denoted arg) :
    ∀ c ∈ arg.display, (c == ' ') = false ∧ isLineBreak c = false := by
  intro c member
  cases denoted with
  | int => exact solid_of_isBlank (Numeral.isBlank_of_mem_decimal member)
  | text bare =>
      refine ⟨?_, bare.unbroken c member⟩
      rw [beq_eq_false_iff_ne]
      rintro rfl
      exact bare.unspaced member

theorem eq_empty_of_display {arg : Value} (denoted : Denoted arg) (hidden : arg.display = []) :
    arg = .text "" := by
  cases denoted with
  | int => exact absurd hidden (Numeral.decimal_ne_nil _)
  | text => rw [String.toList_eq_nil_iff.mp hidden]

section

variable {op : Opcode} {args : List Value} (denoted : ∀ arg ∈ args, Denoted arg)
include denoted

/-- The words of a line are the name and the arguments, unless the only argument is empty. -/
theorem cut_line (shown : args ≠ [.text ""]) :
    cut (· == ' ') (Instruction.line op args) = op.name.toList :: args.map Value.display := by
  have bare : ∀ c ∈ op.name.toList, (c == ' ') = false :=
    fun c member => (solid_of_isBlank (op.isBlank_of_mem_name c member)).1
  have solid : ∀ word ∈ args.map Value.display, ∀ c ∈ word, (c == ' ') = false := by
    intro word member c inside
    obtain ⟨arg, present, rfl⟩ := List.mem_map.mp member
    exact (solid_of_mem_display (denoted arg present) c inside).1
  cases args with
  | nil => exact cut_of_all bare
  | cons arg others =>
      have visible : ([' '].intercalate ((arg :: others).map Value.display)).isEmpty = false := by
        rw [List.isEmpty_eq_false_iff]
        cases others with
        | nil =>
            intro hidden
            rw [List.map_singleton, List.intercalate_singleton] at hidden
            rw [eq_empty_of_display (denoted arg List.mem_cons_self) hidden] at shown
            exact shown rfl
        | cons other others => simp [List.intercalate_cons_cons]
      simp only [Instruction.line, visible, Bool.false_eq_true, if_false]
      rw [cut_append bare rfl, List.map_cons, cut_intercalate rfl solid]

theorem unbroken_line : ∀ c ∈ Instruction.line op args, isLineBreak c = false := by
  intro c member
  have named (member : c ∈ op.name.toList) : isLineBreak c = false :=
    (solid_of_isBlank (op.isBlank_of_mem_name c member)).2
  unfold Instruction.line at member
  dsimp only at member
  split at member
  · exact named member
  · rcases List.mem_append.mp member with member | member
    · exact named member
    · rcases List.mem_cons.mp member with rfl | member
      · decide
      · rcases mem_of_mem_intercalate member with rfl | ⟨word, present, inside⟩
        · decide
        · obtain ⟨arg, given, rfl⟩ := List.mem_map.mp present
          exact (solid_of_mem_display (denoted arg given) c inside).2

end

theorem opcode?_name {op : Opcode} (own : op ∈ opcodes) : opcode? op.name = some op := by
  have all : ∀ op ∈ opcodes, opcode? op.name = some op := by decide
  exact all op own

theorem line_ne_nil (op : Opcode) (args : List Value) : Instruction.line op args ≠ [] := by
  have named : op.name.toList ≠ [] := by simpa using op.legible_name.ne_empty
  unfold Instruction.line
  dsimp only
  split
  · exact named
  · simp

section

variable {instruction : Instruction} (listed : Listed instruction)
include listed

theorem readLine_lineOf (denoted : ∀ arg ∈ instruction.args, Denoted arg)
    (shown : instruction.args ≠ [.text ""]) : readLine (lineOf instruction) = .ok instruction := by
  obtain ⟨mnemonic, args⟩ := instruction
  obtain ⟨op, own, rfl⟩ := listed.known
  have words : (args.map Value.display).mapM readWord = .ok args :=
    mapM_map_eq_ok_iff.mpr fun arg member => readWord_display (listed.args arg member) (denoted arg member)
  simp only [readLine, lineOf, cut_line denoted shown, words, String.ofList_toList, opcode?_name own]
  rfl

/-- The line of a single empty argument is that of no arguments. -/
theorem readLine_lineOf_empty (hidden : instruction.args = [.text ""]) :
    readLine (lineOf instruction) ≠ .ok instruction := by
  obtain ⟨mnemonic, args⟩ := instruction
  obtain ⟨op, own, rfl⟩ := listed.known
  have bare : Listed ⟨.known op, []⟩ := ⟨⟨op, own, rfl⟩, nofun⟩
  have read : readLine (lineOf ⟨.known op, []⟩) = .ok ⟨.known op, []⟩ := readLine_lineOf bare nofun nofun
  have same : lineOf ⟨.known op, args⟩ = lineOf ⟨.known op, []⟩ := by
    obtain rfl : args = [.text ""] := hidden
    rfl
  rw [same, read]
  intro kept
  obtain rfl : args = [.text ""] := hidden
  cases kept

theorem list_eq_lineOf : instruction.list = .ok (lineOf instruction) := by
  obtain ⟨op, -, known⟩ := listed.known
  simp only [Instruction.list, Instruction.printable_of_writable listed.args, if_true, lineOf, known]

end

section

variable {code : List Instruction} (listed : ∀ instruction ∈ code, Listed instruction)
include listed

theorem write_eq_ok : write code = .ok (['\n'].intercalate (code.map lineOf)) := by
  have lines : code.mapM Instruction.list = .ok (code.map lineOf) := by
    induction code with
    | nil => rfl
    | cons instruction code ih =>
        obtain ⟨first, others⟩ := List.forall_mem_cons.mp listed
        rw [List.mapM_cons, list_eq_lineOf first, ih others]
        rfl
  rw [write, lines]
  rfl

/-- As long as no argument tears its line apart, the lines are read one by one. -/
theorem read_write_of_denoted
    (denoted : ∀ instruction ∈ code, ∀ arg ∈ instruction.args, Denoted arg) :
    (write code >>= read) = .ok code ↔ ∀ instruction ∈ code, readLine (lineOf instruction) = .ok instruction := by
  have lines : lines (['\n'].intercalate (code.map lineOf)) = code.map lineOf := by
    apply lines_intercalate
    · intro line member
      obtain ⟨instruction, present, rfl⟩ := List.mem_map.mp member
      obtain ⟨op, -, known⟩ := (listed instruction present).known
      simpa only [lineOf, known] using line_ne_nil op instruction.args
    · intro line member
      obtain ⟨instruction, present, rfl⟩ := List.mem_map.mp member
      obtain ⟨op, -, known⟩ := (listed instruction present).known
      simpa only [lineOf, known] using unbroken_line (denoted instruction present)
  rw [write_eq_ok listed, ← mapM_map_eq_ok_iff]
  change read (['\n'].intercalate (code.map lineOf)) = .ok code ↔ _
  rw [read, lines]

end

/-- A listing comes back exactly if no integer in it is negative, every text is bare, and no instruction has an
empty text for its only argument. -/
theorem read_write_iff_bare (code : List Instruction)
    (listed : ∀ instruction ∈ code, Listed instruction) :
    (write code >>= read) = .ok code ↔ ∀ instruction ∈ code,
      (∀ n, .int n ∈ instruction.args → 0 ≤ n) ∧ (∀ s, .text s ∈ instruction.args → Bare s) ∧
        instruction.args ≠ [.text ""] := by
  constructor
  · intro back
    have denoted : ∀ instruction ∈ code, ∀ arg ∈ instruction.args, Denoted arg := by
      obtain ⟨text, -, read⟩ := exists_of_bind_eq_ok back
      exact denoted_of_read read
    have lines := (read_write_of_denoted listed denoted).mp back
    intro instruction member
    refine ⟨?_, ?_, ?_⟩
    · intro n inside
      cases denoted instruction member _ inside with
      | int natural => exact natural
    · intro s inside
      cases denoted instruction member _ inside with
      | text bare => exact bare
    · intro hidden
      exact readLine_lineOf_empty (listed instruction member) hidden (lines instruction member)
  · intro kept
    have denoted : ∀ instruction ∈ code, ∀ arg ∈ instruction.args, Denoted arg := by
      intro instruction member arg inside
      obtain ⟨natural, bare, -⟩ := kept instruction member
      cases (listed instruction member).args arg inside with
      | int => exact .int (natural _ inside)
      | text => exact .text (bare _ inside)
    apply (read_write_of_denoted listed denoted).mpr
    intro instruction member
    exact readLine_lineOf (listed instruction member) (denoted instruction member) (kept instruction member).2.2

/-- Empty arguments beside others, a text that only starts like a number, and an instruction without arguments. -/
def padded : List Instruction := [
  .of .storeVar [.text "", .text "10-", .int 7, .text ""], .of (.arithmetic .sub) []]

theorem padded_listed : ∀ instruction ∈ padded, Listed instruction := by
  have seven : Numeral.fitsDecimal 7 = true := by decide +kernel
  have texts : ∀ name, Value.Writable (.text name) := fun _ => .text
  simp only [padded, List.forall_mem_cons]
  refine ⟨⟨⟨.storeVar, by decide, rfl⟩, ?_⟩, ⟨⟨.arithmetic .sub, by decide, rfl⟩, nofun⟩, nofun⟩
  simp [Instruction.of, Value.Writable.int, texts, seven]

theorem listed_of_text {op : Opcode} (own : op ∈ opcodes) (s : String) :
    ∀ instruction ∈ [Instruction.of op [.text s]], Listed instruction := by
  intro instruction member
  obtain rfl := List.mem_singleton.mp member
  refine ⟨⟨op, own, rfl⟩, ?_⟩
  intro arg inside
  obtain rfl := List.mem_singleton.mp inside
  exact .text

/-- A name that is empty and alone is lost, and a superscript is a digit that stands for no number. -/
theorem read_write_iff_bare_padded :
    (∀ instruction ∈ padded, Listed instruction) ∧ (write padded >>= read) = .ok padded ∧
      (write [.of .storeVar [.text ""]] >>= read) ≠ .ok [.of .storeVar [.text ""]] ∧
      (write [.of .loadConst [.text "²"]] >>= read) ≠ .ok [.of .loadConst [.text "²"]] := by
  refine ⟨padded_listed, ?_, ?_, ?_⟩
  · apply (read_write_iff_bare padded padded_listed).mpr
    have empty : Bare "" := by decide
    have started : Bare "10-" := by decide
    simp [padded, Instruction.of, empty, started]
  · intro back
    have kept := (read_write_iff_bare _ (listed_of_text (by decide) "")).mp back _ List.mem_cons_self
    exact kept.2.2 rfl
  · intro back
    have kept := (read_write_iff_bare _ (listed_of_text (by decide) "²")).mp back _ List.mem_cons_self
    exact absurd (kept.2.1 "²" List.mem_cons_self) (by decide)

end Pocket

end StackMachine

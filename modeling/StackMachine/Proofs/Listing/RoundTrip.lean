import StackMachine.Proofs.Listing.Reading
import StackMachine.Proofs.Numeral.Decimal

/-!
Writing a listing and reading it back. A text is written in double quotes, and the quotes are gone once it
has been read, so that what comes back is the text itself or, if it reads as a number, that number.
Instructions with faithful arguments, integers within the digit limit and legible texts, come back as they
were (`Listing.read_render`). Illegible texts cannot be read at all, so instructions that have one do not.
-/

set_option autoImplicit false

namespace StackMachine

open Text

/-- How a value is written in a listing. -/
def Value.spelling : Value → List Char
  | .text s => '"' :: s.toList ++ ['"']
  | value => value.literal

/-- The line of a listing that gives an instruction. -/
def Instruction.rendering (instruction : Instruction) : List Char :=
  let head := match instruction.mnemonic with
    | .known op => op.name
    | .unknown word => word
  head.toList ++ instruction.args.flatMap fun arg => ' ' :: arg.spelling

/-- The listing of a code list. -/
def Listing.render (code : List Instruction) : List Char :=
  ['\n'].intercalate (code.map Instruction.rendering)

/-- A value that a listing is meant to give: an integer within the digit limit or any text. -/
inductive Value.Writable : Value → Prop where
  | int {n : Int} : Numeral.fitsDecimal n = true → Writable (.int n)
  | text {s : String} : Writable (.text s)

/-- An instruction of a known operation code whose arguments are integers and texts. -/
structure Instruction.Writable (instruction : Instruction) : Prop where
  known : ∃ op, instruction.mnemonic = .known op
  args : ∀ arg ∈ instruction.args, arg.Writable

theorem Value.Writable.printable {value : Value} (writable : value.Writable) : value.printable = true := by
  cases writable with
  | int fits => exact fits
  | text => rfl

theorem Instruction.printable_of_writable {instruction : Instruction}
    (writable : ∀ arg ∈ instruction.args, arg.Writable) : instruction.printable = true :=
  List.all_eq_true.mpr fun arg member => (writable arg member).printable

/-- A value that can be both written and read. -/
inductive Value.Faithful : Value → Prop where
  | int {n : Int} : Numeral.fitsDecimal n = true → Faithful (.int n)
  | text {s : String} : Listing.Legible s → Faithful (.text s)

structure Instruction.Faithful (instruction : Instruction) : Prop where
  known : ∃ op, instruction.mnemonic = .known op
  few : instruction.args.length ≤ Listing.mostArguments
  args : ∀ arg ∈ instruction.args, arg.Faithful

namespace Text

theorem cut_append {class_ : Char → Bool} {text : List Char} (solid : ∀ c ∈ text, class_ c = false)
    {separator : Char} (separates : class_ separator = true) (rest : List Char) :
    cut class_ (text ++ separator :: rest) = text :: cut class_ rest := by
  induction text with
  | nil => simp [cut, separates]
  | cons c text ih =>
      have shorter := ih fun other member => solid other (List.mem_cons_of_mem c member)
      rw [List.cons_append, cut, if_neg (by simp [solid c List.mem_cons_self]), shorter]

theorem cut_intercalate {class_ : Char → Bool} {separator : Char} (separates : class_ separator = true)
    {line : List Char} {lines : List (List Char)}
    (solid : ∀ piece ∈ line :: lines, ∀ c ∈ piece, class_ c = false) :
    cut class_ ([separator].intercalate (line :: lines)) = line :: lines := by
  induction lines generalizing line with
  | nil => simpa using cut_of_all (solid line List.mem_cons_self)
  | cons next lines ih =>
      have later := ih fun piece member => solid piece (List.mem_cons_of_mem line member)
      rw [List.intercalate_cons_cons, List.append_assoc, List.singleton_append,
        cut_append (solid line List.mem_cons_self) separates, later]

end Text

namespace Listing

/-- A stretch without quote marks, and outside quotes without spaces, goes to the first piece. -/
theorem pieces_append {insideQuotes : Bool} {text rest first : List Char} {others : List (List Char)}
    (plain : ∀ c ∈ text, isQuote c = false ∧ (c = ' ' → insideQuotes = true))
    (followed : pieces insideQuotes rest = first :: others) :
    pieces insideQuotes (text ++ rest) = (text ++ first) :: others := by
  induction text with
  | nil => exact followed
  | cons c text ih =>
      obtain ⟨unquoted, kept⟩ := plain c List.mem_cons_self
      have shorter := ih fun other member => plain other (List.mem_cons_of_mem c member)
      have joined : ¬ ((c == ' ' && !insideQuotes) = true) := by
        intro cuts
        simp only [Bool.and_eq_true, beq_iff_eq, Bool.not_eq_true'] at cuts
        rw [kept cuts.1] at cuts
        cases cuts.2
      simp only [List.cons_append, pieces, unquoted, Bool.false_eq_true, if_false, joined, shorter]

theorem pieces_quotation {text rest first : List Char} {others : List (List Char)}
    (plain : ∀ c ∈ text, isQuote c = false) (followed : pieces false rest = first :: others) :
    pieces false ('"' :: text ++ '"' :: rest) = (text ++ first) :: others := by
  have closed : pieces true ('"' :: rest) = first :: others := followed
  exact pieces_append (fun c member => ⟨plain c member, fun _ => rfl⟩) closed

end Listing

theorem Listing.isQuote_eq_false {c : Char} (single : c ≠ '\'') (double : c ≠ '"') : isQuote c = false := by
  simp [isQuote, single, double]

theorem Listing.Legible.isQuote_eq_false {text : String} (legible : Legible text) :
    ∀ c ∈ text.toList, isQuote c = false := by
  intro c member
  apply Listing.isQuote_eq_false
  · rintro rfl
    exact legible.unquoted.1 member
  · rintro rfl
    exact legible.unquoted.2 member

theorem Numeral.isQuote_of_mem_decimal {n : Int} {c : Char} (member : c ∈ decimal n) :
    Listing.isQuote c = false := by
  have unquoted {c : Char} (digit : c.isDigit = true) : Listing.isQuote c = false := by
    apply Listing.isQuote_eq_false
    all_goals
      rintro rfl
      exact absurd digit (by decide)
  cases n with
  | ofNat n => exact unquoted (isDigit_of_mem_toDigits member)
  | negSucc n =>
      rcases List.mem_cons.mp member with rfl | digit
      · decide
      · exact unquoted (isDigit_of_mem_toDigits digit)

theorem Value.ofWord_of_legible {text : String} (legible : Listing.Legible text) :
    Value.ofWord text.toList = .text text := by
  simp only [Value.ofWord, legible.notInteger, legible.notFloat, String.ofList_toList]

theorem Opcode.legible_name (op : Opcode) : Listing.Legible op.name := by
  have all : ∀ op ∈ Opcode.all, Listing.Legible op.name := by decide +kernel
  exact all op op.mem_all

theorem Opcode.isBlank_of_mem_name (op : Opcode) : ∀ c ∈ op.name.toList, isBlank c = false := by
  have all : ∀ op ∈ Opcode.all, (op.name.toList.all fun c => !isBlank c) = true := by decide +kernel
  simpa using all op op.mem_all

namespace Value

variable {arg : Value} (faithful : arg.Faithful)

include faithful

theorem display_ne_nil : arg.display ≠ [] := by
  cases faithful with
  | int => exact Numeral.decimal_ne_nil _
  | text legible =>
      intro empty
      exact legible.ne_empty (String.toList_eq_nil_iff.mp empty)

theorem ofWord_display : ofWord arg.display = arg := by
  cases faithful with
  | int fits => simp only [ofWord, display, literal, Numeral.integer?_decimal fits]
  | text legible => exact ofWord_of_legible legible

/-- The quotes around a text are gone once it has been cut into words. -/
theorem pieces_spelling {rest first : List Char} {others : List (List Char)}
    (followed : Listing.pieces false rest = first :: others) :
    Listing.pieces false (arg.spelling ++ rest) = (arg.display ++ first) :: others := by
  cases faithful with
  | int =>
      refine Listing.pieces_append (fun c member => ?_) followed
      refine ⟨Numeral.isQuote_of_mem_decimal member, ?_⟩
      rintro rfl
      exact absurd (Numeral.isBlank_of_mem_decimal member) (by decide)
  | text legible =>
      rw [spelling, List.append_assoc]
      exact Listing.pieces_quotation legible.isQuote_eq_false followed

theorem not_mem_spelling : '\n' ∉ arg.spelling := by
  cases faithful with
  | int =>
      intro member
      exact absurd (Numeral.isBlank_of_mem_decimal member) (by decide)
  | text legible => simpa [spelling] using legible.oneLine

end Value

namespace Instruction

variable {instruction : Instruction} {op : Opcode} {args : List Value}

theorem Readable.fits (readable : instruction.Readable) {n : Int} (inside : .int n ∈ instruction.args) :
    Numeral.fitsDecimal n = true := by
  cases readable.args _ inside with
  | int fits => exact fits

theorem Readable.legible (readable : instruction.Readable) {s : String}
    (inside : .text s ∈ instruction.args) : Listing.Legible s := by
  cases readable.args _ inside with
  | text legible => exact legible

theorem Readable.faithful (readable : instruction.Readable)
    (noFloats : ∀ x, .float x ∉ instruction.args) : instruction.Faithful := by
  refine ⟨readable.known, readable.few, fun arg member => ?_⟩
  cases readable.args arg member with
  | int fits => exact .int fits
  | float => exact absurd member (noFloats _)
  | text legible => exact .text legible

theorem Writable.faithful (writable : instruction.Writable)
    (few : instruction.args.length ≤ Listing.mostArguments)
    (legible : ∀ s, .text s ∈ instruction.args → Listing.Legible s) : instruction.Faithful := by
  refine ⟨writable.known, few, fun arg member => ?_⟩
  cases writable.args arg member with
  | int fits => exact .int fits
  | text => exact .text (legible _ member)

theorem pieces_arguments (faithful : ∀ arg ∈ args, arg.Faithful) :
    Listing.pieces false (args.flatMap fun arg => ' ' :: arg.spelling) = [] :: args.map Value.display := by
  induction args with
  | nil => rfl
  | cons arg args ih =>
      obtain ⟨first, others⟩ := List.forall_mem_cons.mp faithful
      have cut := Value.pieces_spelling first (ih others)
      rw [List.append_nil] at cut
      rw [List.flatMap_cons, List.cons_append, List.map_cons, ← cut]
      rfl

theorem words_rendering (faithful : ∀ arg ∈ args, arg.Faithful) :
    Listing.words (rendering ⟨.known op, args⟩) = op.name.toList :: args.map Value.display := by
  have bare : ∀ c ∈ op.name.toList, Listing.isQuote c = false ∧ (c = ' ' → false = true) := by
    intro c member
    refine ⟨op.legible_name.isQuote_eq_false c member, ?_⟩
    rintro rfl
    exact absurd (op.isBlank_of_mem_name ' ' member) (by decide)
  have cut := Listing.pieces_append bare (pieces_arguments faithful)
  rw [List.append_nil] at cut
  rw [Listing.words, rendering, cut, List.filter_eq_self]
  intro word member
  rcases List.mem_cons.mp member with rfl | member
  · simpa using op.legible_name.ne_empty
  · obtain ⟨arg, inside, rfl⟩ := List.mem_map.mp member
    simpa using Value.display_ne_nil (faithful arg inside)

/-- The line written for an instruction is read as that instruction. -/
theorem readLine_rendering (faithful : instruction.Faithful) :
    Listing.readLine instruction.rendering = .ok instruction := by
  obtain ⟨mnemonic, args⟩ := instruction
  obtain ⟨op, rfl⟩ := faithful.known
  have denoted : (args.map Value.display).map Value.ofWord = args := by
    calc (args.map Value.display).map Value.ofWord
        = args.map id := by
          rw [List.map_map]
          exact List.map_congr_left fun arg member => Value.ofWord_display (faithful.args arg member)
      _ = args := List.map_id args
  have few : args.length ≤ Listing.mostArguments := faithful.few
  simp only [Listing.readLine, words_rendering faithful.args, List.map_cons, denoted,
    Value.ofWord_of_legible op.legible_name, Value.text?, Option.bind_some, op.ofName?_name, few, if_true]

theorem not_mem_rendering (faithful : instruction.Faithful) : '\n' ∉ instruction.rendering := by
  obtain ⟨mnemonic, args⟩ := instruction
  obtain ⟨op, rfl⟩ := faithful.known
  intro member
  rcases List.mem_append.mp member with member | member
  · exact op.legible_name.oneLine member
  · obtain ⟨arg, inside, member⟩ := List.mem_flatMap.mp member
    rcases List.mem_cons.mp member with space | member
    · exact absurd space (by decide)
    · exact Value.not_mem_spelling (faithful.args arg inside) member

theorem rendering_significant (known : ∃ op, instruction.mnemonic = .known op) :
    (instruction.rendering.any fun c => !isBlank c) = true := by
  obtain ⟨mnemonic, args⟩ := instruction
  obtain ⟨op, rfl⟩ := known
  have some : op.name.toList ≠ [] := by simpa using op.legible_name.ne_empty
  obtain ⟨c, rest, named⟩ := List.exists_cons_of_ne_nil some
  have member : c ∈ op.name.toList := by simp [named]
  refine List.any_eq_true.mpr ⟨c, List.mem_append_left _ member, ?_⟩
  simp [op.isBlank_of_mem_name c member]

end Instruction

namespace Listing

variable {code : List Instruction}

theorem significantLines_render (faithful : ∀ instruction ∈ code, instruction.Faithful) :
    significantLines (render code) = code.map Instruction.rendering := by
  have solid : ∀ line ∈ code.map Instruction.rendering, ∀ c ∈ line, (c == '\n') = false := by
    intro line member c inside
    obtain ⟨source, present, rfl⟩ := List.mem_map.mp member
    rw [beq_eq_false_iff_ne]
    rintro rfl
    exact Instruction.not_mem_rendering (faithful source present) inside
  cases lines : code.map Instruction.rendering with
  | nil =>
      -- A listing of nothing is one empty line, which is not significant.
      rw [render, lines]
      rfl
  | cons line others =>
      rw [lines] at solid
      rw [significantLines, render, lines, cut_intercalate rfl solid, List.filter_eq_self, ← lines]
      intro line member
      obtain ⟨source, present, rfl⟩ := List.mem_map.mp member
      exact Instruction.rendering_significant (faithful source present).known

theorem read_render (faithful : ∀ instruction ∈ code, instruction.Faithful) :
    read (render code) = .ok code := by
  rw [read, significantLines_render faithful, mapM_map_eq_ok_iff]
  exact fun instruction member => Instruction.readLine_rendering (faithful instruction member)

/-- Writing loses nothing exactly if every instruction has two arguments at most and every text is legible.
Whatever a text is read as satisfies this, so that a program without floating-point arguments is read again
from its own listing. -/
theorem read_render_iff_legible :
    (∀ code : List Instruction, (∀ instruction ∈ code, instruction.Writable) →
      (read (render code) = .ok code ↔ ∀ instruction ∈ code,
        instruction.args.length ≤ 2 ∧ ∀ s, .text s ∈ instruction.args → Legible s)) ∧
    ∀ (text : List Char) (code : List Instruction), read text = .ok code →
      (∀ instruction ∈ code, instruction.args.length ≤ 2 ∧
        (∀ n, .int n ∈ instruction.args → Numeral.fitsDecimal n = true) ∧
        ∀ s, .text s ∈ instruction.args → Legible s) ∧
      ((∀ instruction ∈ code, ∀ x, .float x ∉ instruction.args) → read (render code) = .ok code) := by
  refine ⟨fun code writable => ⟨?_, ?_⟩, fun text code read => ⟨?_, ?_⟩⟩
  · intro back instruction member
    have readable := readable_of_read back instruction member
    exact ⟨readable.few, fun s inside => readable.legible inside⟩
  · intro faithful
    refine read_render fun instruction member => ?_
    obtain ⟨few, legible⟩ := faithful instruction member
    exact (writable instruction member).faithful few legible
  · intro instruction member
    have readable := readable_of_read read instruction member
    exact ⟨readable.few, fun n inside => readable.fits inside, fun s inside => readable.legible inside⟩
  · intro noFloats
    have readable := readable_of_read read
    exact read_render fun instruction member =>
      (readable instruction member).faithful (noFloats instruction member)

/-- A listing with a quoted space and a line of blanks. -/
def greetingListing : List Char :=
  "LABEL 'good morning' -12\n \n PRINT".toList

def greeting : List Instruction :=
  [.of .label [.text "good morning", .int (-12)], .of .print []]

/-- The greeting comes back from its listing, and a text of digits and an underscore does not. -/
theorem read_render_iff_legible_greeting :
    (read greetingListing = .ok greeting ∧ read (render greeting) = .ok greeting) ∧
    read (render [.of .print [.text "1_0"]]) ≠ .ok [.of .print [.text "1_0"]] := by
  have given : read greetingListing = .ok greeting := by rfl
  have noFloats : ∀ instruction ∈ greeting, ∀ x, .float x ∉ instruction.args := by
    simp [greeting, Instruction.of]
  refine ⟨⟨given, (read_render_iff_legible.2 _ _ given).2 noFloats⟩, fun back => ?_⟩
  have writable : ∀ instruction ∈ [Instruction.of .print [.text "1_0"]], instruction.Writable := by
    intro instruction member
    obtain rfl := List.mem_singleton.mp member
    refine ⟨⟨.print, rfl⟩, fun arg inside => ?_⟩
    obtain rfl := List.mem_singleton.mp inside
    exact .text
  have legible := ((read_render_iff_legible.1 _ writable).mp back _ List.mem_cons_self).2 "1_0"
    List.mem_cons_self
  exact absurd legible (by decide +kernel)

end Listing

end StackMachine

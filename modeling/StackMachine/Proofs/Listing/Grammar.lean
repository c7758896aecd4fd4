import Mathlib.Data.List.Forall2
import StackMachine.Proofs.Listing.RoundTrip

/-!
The grammar of listings. Tokens are defined by position: a space separates unless an odd number of quote marks
comes before it on its line, quote marks are deleted, and what is empty is dropped. A reader that keeps one
flag and the rest of the line finds the same words (`words_eq_tokens`). Reading succeeds exactly on listings
whose lines are all grammatical; otherwise the first line that is not decides the fault.
-/

set_option autoImplicit false

namespace StackMachine

theorem forall₂_of_mapM_eq_ok {α β : Type} {f : α → Except Fault β} {items : List α} {results : List β}
    (mapped : items.mapM f = .ok results) :
    List.Forall₂ (fun item result => f item = .ok result) items results := by
  induction items generalizing results with
  | nil =>
      cases mapped
      exact .nil
  | cons item items ih =>
      rw [List.mapM_cons] at mapped
      obtain ⟨result, first, mapped⟩ := exists_of_bind_eq_ok mapped
      obtain ⟨others, rest, mapped⟩ := exists_of_bind_eq_ok mapped
      cases mapped
      exact .cons first (ih rest)

theorem Text.cut_eq_splitOnP (class_ : Char → Bool) (text : List Char) :
    cut class_ text = text.splitOnP class_ := by
  induction text with
  | nil => rfl
  | cons c rest ih =>
      rw [cut, List.splitOnP_cons_eq_if_modifyHead, ih]
      split
      · rfl
      · cases pieces : rest.splitOnP class_ with
        | nil => exact absurd pieces (List.splitOnP_ne_nil class_ rest)
        | cons piece others => rfl

theorem Opcode.ofName?_eq_some_iff {name : String} {op : Opcode} :
    Opcode.ofName? name = some op ↔ name = op.name := by
  constructor
  · intro found
    have same := List.find?_some found
    exact (of_decide_eq_true same).symm
  · rintro rfl
    exact op.ofName?_name

/-- A word names an operation code if it is spelled like it; no name reads as a number. -/
theorem Value.opcode_ofWord_iff {word : List Char} {op : Opcode} :
    (Value.ofWord word).text?.bind Opcode.ofName? = some op ↔ word = op.name.toList := by
  constructor
  · intro named
    obtain ⟨text, denoted, found⟩ := Option.bind_eq_some_iff.mp named
    rw [← Opcode.ofName?_eq_some_iff.mp found]
    unfold Value.ofWord at denoted
    cases integer : Numeral.integer? word with
    | some n => simp [integer, Value.text?] at denoted
    | none =>
        cases float : Numeral.float? word with
        | some x => simp [integer, float, Value.text?] at denoted
        | none =>
            simp only [integer, float, Value.text?, Option.some.injEq] at denoted
            rw [← denoted, String.toList_ofList]
  · rintro rfl
    rw [Value.ofWord_of_legible op.legible_name]
    exact op.ofName?_name

namespace Listing

open Text

/-- Whether the character at an index of a line is protected: an odd number of quote marks comes before
it. -/
def isProtected (line : List Char) (index : Nat) : Bool :=
  (line.take index).countP isQuote % 2 == 1

/-- The characters of a line, each with whether it is protected. -/
def marked (line : List Char) : List (Char × Bool) :=
  line.mapIdx fun index c => (c, isProtected line index)

def separates (mark : Char × Bool) : Bool :=
  mark.1 == ' ' && !mark.2

/-- The characters of a run without its quote marks. -/
def bare (run : List (Char × Bool)) : List Char :=
  (run.map Prod.fst).filter fun c => !isQuote c

/-- The tokens of a line: its runs between unprotected spaces without their quote marks, the empty ones
dropped. -/
def tokens (line : List Char) : List (List Char) :=
  (((marked line).splitOnP separates).map bare).filter fun token => !token.isEmpty

/-- The lines of a text that are not all white space. -/
def writtenLines (text : List Char) : List (List Char) :=
  (text.splitOn '\n').filter fun line => !line.all isBlank

section

variable (insideQuotes : Bool)

/-- The marks of a line that starts inside or outside quotes. -/
def markedFrom (line : List Char) : List (Char × Bool) :=
  line.mapIdx fun index c => (c, insideQuotes ^^ isProtected line index)

theorem isProtected_succ (c : Char) (rest : List Char) (index : Nat) :
    isProtected (c :: rest) (index + 1) = (isQuote c ^^ isProtected rest index) := by
  unfold isProtected
  rw [List.take_succ_cons, List.countP_cons]
  generalize (rest.take index).countP isQuote = count
  cases isQuote c with
  | false => simp
  | true => rcases Nat.mod_two_eq_zero_or_one count with even | odd <;> simp [Nat.add_mod, *]

theorem markedFrom_cons (c : Char) (rest : List Char) :
    markedFrom insideQuotes (c :: rest) =
      (c, insideQuotes) :: markedFrom (insideQuotes ^^ isQuote c) rest := by
  have first : isProtected (c :: rest) 0 = false := rfl
  simp only [markedFrom, List.mapIdx_cons, first, Bool.xor_false, isProtected_succ, Bool.xor_assoc]

/-- One flag is enough: the pieces that it cuts are the runs between unprotected spaces. -/
theorem pieces_eq_runs (line : List Char) :
    pieces insideQuotes line = ((markedFrom insideQuotes line).splitOnP separates).map bare := by
  induction line generalizing insideQuotes with
  | nil => rfl
  | cons c rest ih =>
      rw [markedFrom_cons, List.splitOnP_cons_eq_if_modifyHead, pieces]
      obtain ⟨run, runs, split⟩ := List.exists_cons_of_ne_nil
        (List.splitOnP_ne_nil separates (markedFrom (insideQuotes ^^ isQuote c) rest))
      have continued := ih (insideQuotes ^^ isQuote c)
      rw [split, List.map_cons] at continued
      by_cases quote : isQuote c = true
      · -- A quote mark is no space, and it is gone from the run that it stands in.
        have noSpace : separates (c, insideQuotes) = false := by
          cases space : c == ' ' with
          | false => simp [separates, space]
          | true =>
              rw [beq_iff_eq.mp space] at quote
              exact absurd quote (by decide)
        rw [quote, Bool.xor_true] at continued split
        rw [if_pos quote, continued, if_neg (by simp [noSpace]), quote, Bool.xor_true, split]
        simp [bare, quote]
      · have plain : isQuote c = false := Bool.eq_false_iff.mpr quote
        rw [plain, Bool.xor_false] at continued split
        rw [if_neg quote, plain, Bool.xor_false, split]
        have same : separates (c, insideQuotes) = (c == ' ' && !insideQuotes) := rfl
        rw [same]
        split
        · rw [List.map_cons, List.map_cons, continued]
          rfl
        · rw [continued]
          simp [bare, plain]

end

/-- Words are tokens: the flag of the reader is the parity of the quote marks before a character. -/
theorem words_eq_tokens (line : List Char) : words line = tokens line := by
  have marks : markedFrom false line = marked line := by
    simp only [markedFrom, marked, Bool.false_xor]
  rw [words, tokens, pieces_eq_runs, marks]

theorem significantLines_eq_writtenLines (text : List Char) :
    significantLines text = writtenLines text := by
  rw [significantLines, writtenLines, cut_eq_splitOnP, List.splitOn_eq_splitOnP]
  congr 1
  funext line
  rw [List.not_all_eq_any_not]

/-- A line of the grammar: one to three tokens, the first of them the name of an operation code. -/
structure Grammatical (line : List Char) : Prop where
  nonempty : 1 ≤ (tokens line).length
  few : (tokens line).length ≤ 3
  named : ∃ op : Opcode, (tokens line).head? = some op.name.toList

/-- The instruction that a line denotes: the operation code that its first token names, with the values of
the other tokens as arguments. -/
def Denotes (line : List Char) (instruction : Instruction) : Prop :=
  ∃ (op : Opcode) (args : List (List Char)), tokens line = op.name.toList :: args ∧
    instruction = .of op (args.map Value.ofWord)

/-- What is wrong with a line: the class of the fault and its message. -/
inductive Offends (line : List Char) : FaultClass → String → Prop where
  | empty (none : tokens line = []) : Offends line .index "list index out of range"
  | unnamed {first : List Char} {others : List (List Char)} (split : tokens line = first :: others)
      (noName : ∀ op : Opcode, first ≠ op.name.toList) :
      Offends line .assertion
        ("Invalid OpCode input: " ++ String.ofList (Value.ofWord first).display)
  | crowded {op : Opcode} {args : List (List Char)} (split : tokens line = op.name.toList :: args)
      (many : 2 < args.length) :
      Offends line .assertion ("Too many arguments (max: 2). Got: " ++ toString args.length)

theorem grammatical_iff {line : List Char} :
    Grammatical line ↔ ∃ (op : Opcode) (args : List (List Char)),
      tokens line = op.name.toList :: args ∧ args.length ≤ 2 := by
  constructor
  · rintro ⟨-, few, op, first⟩
    obtain ⟨args, split⟩ := List.head?_eq_some_iff.mp first
    rw [split, List.length_cons] at few
    exact ⟨op, args, split, by omega⟩
  · rintro ⟨op, args, split, few⟩
    refine ⟨?_, ?_, op, ?_⟩
    · rw [split, List.length_cons]
      omega
    · rw [split, List.length_cons]
      omega
    · rw [split, List.head?_cons]

instance (line : List Char) : Decidable (Grammatical line) :=
  decidable_of_iff
    (1 ≤ (tokens line).length ∧ (tokens line).length ≤ 3 ∧
      ∃ op ∈ Opcode.all, (tokens line).head? = some op.name.toList)
    ⟨fun ⟨nonempty, few, op, _, named⟩ => ⟨nonempty, few, op, named⟩,
      fun ⟨nonempty, few, op, named⟩ => ⟨nonempty, few, op, op.mem_all, named⟩⟩

/-- What reading one line gives, whatever the line. -/
theorem readLine_cases (line : List Char) :
    (Grammatical line ∧ ∃ instruction, readLine line = .ok instruction ∧ Denotes line instruction) ∨
      (¬ Grammatical line ∧ ∃ fault, readLine line = .error fault ∧
        Offends line fault.classOf fault.message) := by
  rw [grammatical_iff]
  unfold readLine
  rw [words_eq_tokens]
  cases split : tokens line with
  | nil =>
      refine .inr ⟨?_, _, rfl, .empty split⟩
      rintro ⟨op, args, same, -⟩
      cases same
  | cons first others =>
      simp only [List.map_cons]
      cases named : (Value.ofWord first).text?.bind Opcode.ofName? with
      | none =>
          have noName : ∀ op : Opcode, first ≠ op.name.toList := by
            intro op same
            have found := Value.opcode_ofWord_iff.mpr same
            rw [named] at found
            cases found
          refine .inr ⟨?_, _, rfl, .unnamed split noName⟩
          rintro ⟨op, args, same, -⟩
          exact noName op (List.cons.inj same).1
      | some op =>
          obtain rfl := Value.opcode_ofWord_iff.mp named
          dsimp only
          rw [List.length_map]
          by_cases few : others.length ≤ mostArguments
          · rw [if_pos few]
            exact .inl ⟨⟨op, others, rfl, few⟩, _, rfl, op, others, split, rfl⟩
          · rw [if_neg few]
            refine .inr ⟨?_, _, rfl, .crowded split (Nat.not_le.mp few)⟩
            rintro ⟨other, args, same, short⟩
            obtain ⟨-, rfl⟩ := List.cons.inj same
            exact few short

theorem readLine_eq_ok {line : List Char} {instruction : Instruction}
    (read : readLine line = .ok instruction) : Grammatical line ∧ Denotes line instruction := by
  rcases readLine_cases line with ⟨grammatical, other, found, denotes⟩ | ⟨-, fault, failed, -⟩
  · obtain rfl := Except.ok.inj (found.symm.trans read)
    exact ⟨grammatical, denotes⟩
  · rw [failed] at read
    cases read

theorem readLine_eq_error {line : List Char} {fault : Fault} (failed : readLine line = .error fault) :
    ¬ Grammatical line ∧ Offends line fault.classOf fault.message := by
  rcases readLine_cases line with ⟨-, instruction, read, -⟩ | ⟨ungrammatical, other, found, offends⟩
  · rw [read] at failed
    cases failed
  · obtain rfl := Except.error.inj (found.symm.trans failed)
    exact ⟨ungrammatical, offends⟩

/-- Reading succeeds exactly if every line that is not all white space is grammatical, and then gives, line by
line, the instructions that they denote. Otherwise the first line that is not grammatical decides: there is
nothing on it, or its first token names no operation code, or it has too many tokens. -/
theorem read_accepts_exactly_grammar (text : List Char) :
    ((∃ code, read text = .ok code) ↔ ∀ line ∈ writtenLines text, Grammatical line) ∧
    (∀ code, read text = .ok code → List.Forall₂ Denotes (writtenLines text) code) ∧
    ((∀ line ∈ writtenLines text, Grammatical line) ∨
      ∃ before line after fault, writtenLines text = before ++ line :: after ∧
        (∀ earlier ∈ before, Grammatical earlier) ∧ ¬ Grammatical line ∧
        read text = .error fault ∧ Offends line fault.classOf fault.message) := by
  rw [read, significantLines_eq_writtenLines]
  generalize writtenLines text = lines
  cases reading : lines.mapM readLine with
  | ok code =>
      have each := (forall₂_of_mapM_eq_ok reading).imp fun _ _ read => readLine_eq_ok read
      obtain ⟨grammatical, denoted⟩ := (List.forall₂_and_left lines code).mp each
      refine ⟨⟨fun _ => grammatical, fun _ => ⟨code, rfl⟩⟩, ?_, .inl grammatical⟩
      intro other same
      obtain rfl := Except.ok.inj same
      exact denoted
  | error fault =>
      obtain ⟨before, line, after, split, passed, failed⟩ := exists_of_mapM_eq_error reading
      obtain ⟨ungrammatical, offends⟩ := readLine_eq_error failed
      have earlier : ∀ earlier ∈ before, Grammatical earlier := by
        intro earlier member
        obtain ⟨instruction, read⟩ := passed earlier member
        exact (readLine_eq_ok read).1
      refine ⟨⟨?_, ?_⟩, ?_, .inr ⟨before, line, after, fault, split, earlier, ungrammatical, rfl, offends⟩⟩
      · rintro ⟨code, read⟩
        cases read
      · intro grammatical
        exact absurd (grammatical line (by simp [split])) ungrammatical
      · intro code read
        cases read

/-- A quotation that one kind of quote mark opens and the other closes, a quotation inside a word, and a line
that holds nothing but a tab. -/
def mixedListing : List Char :=
  "LA'B'EL \"a b' x\n\t\nPRINT".toList

/-- The mixed listing is read as two instructions, and no longer read at all when a line of two quote marks
follows, which is not blank and has no token. -/
theorem read_accepts_exactly_grammar_mixed :
    (∃ code, read mixedListing = .ok code ∧ List.Forall₂ Denotes
      ["LA'B'EL \"a b' x".toList, "PRINT".toList] code) ∧
    ¬ ∃ code, read (mixedListing ++ "\n'\"".toList) = .ok code := by
  have lines : writtenLines mixedListing = ["LA'B'EL \"a b' x".toList, "PRINT".toList] := by decide +kernel
  constructor
  · obtain ⟨succeeds, denoted, -⟩ := read_accepts_exactly_grammar mixedListing
    rw [lines] at succeeds denoted
    obtain ⟨code, read⟩ := succeeds.mpr (by decide +kernel)
    exact ⟨code, read, denoted code read⟩
  · rw [(read_accepts_exactly_grammar _).1]
    decide +kernel

end Listing

end StackMachine

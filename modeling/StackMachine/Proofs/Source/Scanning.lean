import Mathlib.Data.List.Infix
import StackMachine.Proofs.Source.Extent

/-!
Reading a source by positions in it. A search gives the position of what it looks for, and `-1` if that is not found; a
negative position counts from the end of the text, so that a failed search is itself a place to search from. The scan
for headers goes from each header to the next one, from `-1` it finds none, and it reads the functions of the source.
-/

set_option autoImplicit false

namespace StackMachine.Source

open Text

/-- How many characters stand before a position. Positions before the start of the text are its start. -/
def offset (text : List Char) (position : Int) : Nat :=
  if position < 0 then (text.length + position).toNat else position.toNat

/-- The position where a part of a text first begins, from a position on; `-1` if it does not. -/
def search (part text : List Char) (start : Int) : Int :=
  match (text.drop (offset text start)).tails.findIdx? part.isPrefixOf with
  | some skipped => offset text start + skipped
  | none => -1

/-- The text from a position on and before another. -/
def slice (text : List Char) (start stop : Int) : List Char :=
  (text.take (offset text stop)).drop (offset text start)

/-- The text from a position on and before a header, or all of it if no header was found. -/
def codeFrom (text : List Char) (start next : Int) : List Char :=
  if next = -1 then text.drop (offset text start) else slice text start next

/-- The function whose header begins at a position, and where the search for the next header has ended. -/
def functionAt (text : List Char) (start : Int) : Function × Int :=
  let opening := start + header.length
  let closing := search ['"'] text opening
  let next := search header text closing
  (⟨slice text opening closing, trim (codeFrom text (closing + 1) next)⟩, next)

/-- A round of the scan: none if no header is found, which ends the scan. -/
def round (text : List Char) (position : Int) : Option (Function × Int) :=
  let start := search header text position
  if start = -1 then none else some (functionAt text start)

/-- The scan from a position on ends, after it has read some functions, one in each round. -/
inductive Scans (text : List Char) : Int → List Function → Prop where
  | stop {position : Int} : round text position = none → Scans text position []
  | read {position next : Int} {function : Function} {others : List Function} :
      round text position = some (function, next) → Scans text next others →
      Scans text position (function :: others)

theorem Scans.unique {text : List Char} {position : Int} {read other : List Function}
    (scan : Scans text position read) (again : Scans text position other) : read = other := by
  induction scan generalizing other with
  | stop ended =>
      cases again with
      | stop => rfl
      | read found => simp [ended] at found
  | read found _ ih =>
      cases again with
      | stop ended => simp [ended] at found
      | read same later =>
          rw [found] at same
          obtain ⟨rfl, rfl⟩ := Prod.mk.inj (Option.some.inj same)
          rw [ih later]

section

variable (text : List Char)

@[simp] theorem offset_ofNat (count : Nat) : offset text count = count := by
  rw [offset, if_neg (by omega), Int.toNat_natCast]

theorem offset_last : offset text (-1) = text.length - 1 := by
  rw [offset, if_pos (by decide)]
  omega

theorem findIdx?_header : text.tails.findIdx? header.isPrefixOf = (splitAtHeader? text).map (·.1.length) := by
  induction text with
  | nil => rfl
  | cons c rest ih =>
      rw [List.tails_cons, List.findIdx?_cons, splitAtHeader?]
      split
      · rfl
      · rw [ih, Option.map_map, Option.map_map]
        rfl

/-- The last character holds no header. -/
theorem search_last_header : search header text (-1) = -1 := by
  have short : (text.drop (text.length - 1)).length < header.length := by
    simp only [List.length_drop, header, List.length_cons]
    omega
  have headless : ¬ header <:+: text.drop (text.length - 1) := fun inside =>
    Nat.not_le.mpr short inside.length_le
  rw [search, offset_last, findIdx?_header, splitAtHeader?_eq_none headless]
  rfl

theorem round_last : round text (-1) = none := by
  simp [round, search_last_header]

end

theorem findIdx?_quote_of_not_mem {text : List Char} (unquoted : '"' ∉ text) :
    text.tails.findIdx? ['"'].isPrefixOf = none := by
  rw [List.findIdx?_eq_none_iff]
  intro tail member
  rw [List.mem_tails] at member
  cases tail with
  | nil => rfl
  | cons c rest =>
      have other : '"' ≠ c := by
        rintro rfl
        exact unquoted (member.mem List.mem_cons_self)
      simp [List.isPrefixOf, other]

theorem findIdx?_quote {name : List Char} (unquoted : '"' ∉ name) (tail : List Char) :
    (name ++ '"' :: tail).tails.findIdx? ['"'].isPrefixOf = some name.length := by
  induction name with
  | nil =>
      have here : ['"'].isPrefixOf ('"' :: tail) = true := by simp [List.isPrefixOf]
      rw [List.nil_append, List.tails_cons, List.findIdx?_cons, if_pos here, List.length_nil]
  | cons c rest ih =>
      rw [List.mem_cons, not_or] at unquoted
      have later : ¬ ['"'].isPrefixOf (c :: (rest ++ '"' :: tail)) = true := by
        simp [List.isPrefixOf, unquoted.1]
      rw [List.cons_append, List.tails_cons, List.findIdx?_cons, if_neg later, ih unquoted.2, Option.map_some,
        List.length_cons]

/-- Where the header is that a text begins with, behind what comes before; nothing has none. -/
def place (before text : List Char) : Int :=
  if text = [] then -1 else before.length

section

variable {text before name body rest : List Char}

theorem slice_of_append (whole : text = before ++ (body ++ rest)) :
    slice text before.length (before ++ body).length = body := by
  rw [slice, offset_ofNat, offset_ofNat, whole, ← List.append_assoc, List.take_left, List.drop_left]

theorem search_quote (whole : text = before ++ (name ++ '"' :: rest)) (unquoted : '"' ∉ name) :
    search ['"'] text before.length = (before ++ name).length := by
  rw [search, offset_ofNat, whole, List.drop_left, findIdx?_quote unquoted]
  simp

theorem search_quote_of_not_mem (whole : text = before ++ name) (unquoted : '"' ∉ name) :
    search ['"'] text before.length = -1 := by
  rw [search, offset_ofNat, whole, List.drop_left, findIdx?_quote_of_not_mem unquoted]

theorem search_header (whole : text = before ++ (body ++ rest)) (headless : ¬ header <:+: body)
    (next : rest = [] ∨ header <+: rest) :
    search header text before.length = place (before ++ body) rest := by
  rw [search, offset_ofNat, whole, List.drop_left, findIdx?_header]
  rcases next with rfl | ⟨more, rfl⟩
  · rw [List.append_nil, splitAtHeader?_eq_none headless]
    rfl
  · rw [splitAtHeader?_append headless]
    simp [place, header]

theorem place_of_header (headed : header <+: rest) : place before rest = before.length := by
  refine if_neg ?_
  rintro rfl
  exact absurd headed (by decide)

theorem search_place (whole : text = before ++ rest) (next : rest = [] ∨ header <+: rest) :
    search header text (place before rest) = place before rest := by
  rcases next with rfl | headed
  · exact search_last_header text
  · have found := @search_header text before [] rest whole (by decide) (.inr headed)
    rw [List.append_nil] at found
    rwa [place_of_header headed] at found ⊢

theorem codeFrom_place (whole : text = before ++ (body ++ rest)) (next : rest = [] ∨ header <+: rest) :
    codeFrom text before.length (place (before ++ body) rest) = body := by
  rcases next with rfl | headed
  · rw [codeFrom, place, if_pos rfl, if_pos rfl, offset_ofNat, whole, List.append_nil, List.drop_left]
  · have found : ((before ++ body).length : Int) ≠ -1 := by omega
    rw [place_of_header headed, codeFrom, if_neg found, slice_of_append whole]

theorem round_place (whole : text = before ++ rest) (headed : header <+: rest) :
    round text (place before rest) = some (functionAt text before.length) := by
  have found := search_place whole (.inr headed)
  have there : (before.length : Int) ≠ -1 := by omega
  rw [place_of_header headed] at found ⊢
  simp [round, found, there]

end

section

variable {text before rest : List Char}

theorem functionAt_written {function : Function} (separable : function.Separable)
    (whole : text = before ++ (function.written ++ rest)) (next : rest = [] ∨ header <+: rest) :
    functionAt text before.length = (function.trimmed, place (before ++ function.written) rest) := by
  obtain ⟨unquoted, headless⟩ := separable
  have fromName : text = before ++ header ++ (function.name ++ '"' :: (function.body ++ rest)) := by
    simp [whole, Function.written]
  have fromQuote : text = before ++ header ++ function.name ++ ('"' :: function.body ++ rest) := by
    simp [whole, Function.written]
  have fromBody : text = before ++ header ++ function.name ++ ['"'] ++ (function.body ++ rest) := by
    simp [whole, Function.written]
  have quotedBody : ¬ header <:+: '"' :: function.body := by
    rw [List.infix_cons_iff, not_or]
    exact ⟨by simp [header], headless⟩
  have opening : (before.length + header.length : Int) = (before ++ header).length := by simp
  have behindQuote : ((before ++ header ++ function.name).length + 1 : Int) =
      (before ++ header ++ function.name ++ ['"']).length := by simp [Int.add_assoc]
  have joined : before ++ function.written = before ++ header ++ function.name ++ ['"'] ++ function.body := by
    simp [Function.written]
  have following := search_header fromQuote quotedBody next
  rw [← List.singleton_append, ← List.append_assoc, ← joined] at following
  rw [functionAt]
  simp only [opening, search_quote fromName unquoted, following, slice_of_append fromName, behindQuote]
  rw [joined, codeFrom_place fromBody next]
  rfl

theorem functionAt_unclosed {name : List Char} (unquoted : '"' ∉ name)
    (whole : text = before ++ (header ++ name)) :
    functionAt text before.length = (⟨name.dropLast, trim text⟩, -1) := by
  rw [← List.append_assoc] at whole
  have opening : (before.length + header.length : Int) = (before ++ header).length := by simp
  have read : slice text (before ++ header).length (-1) = name.dropLast := by
    have last : (before ++ header ++ name).length - 1 - (before ++ header).length = name.length - 1 := by
      rw [List.length_append]
      omega
    rw [slice, offset_last, offset_ofNat, List.drop_take, whole, List.drop_left, List.dropLast_eq_take, last]
  -- The quote is not found, and `-1` goes on as a position: the name ends before the last character, and the code
  -- begins one behind `-1`, which is the start of the text.
  rw [functionAt]
  simp only [opening, search_quote_of_not_mem whole unquoted, read, search_last_header]
  rfl

example : functionAt (header ++ ['g', 'h']) 0 = (⟨['g'], header ++ ['g', 'h']⟩, -1) := by
  decide

end

section

variable {text ending : List Char} {functions last : List Function}

/-- From a header on, the scan reads one function after the other, and then what the source ends with. -/
theorem scans_written (separable : ∀ function ∈ functions, function.Separable) (ends : Ending text ending last)
    {before : List Char} (whole : text = before ++ (functions.flatMap Function.written ++ ending)) :
    Scans text (place before (functions.flatMap Function.written ++ ending))
      (functions.map Function.trimmed ++ last) := by
  -- Before each round the scan is at the next header, and at `-1` behind the last function.
  induction functions generalizing before with
  | nil =>
      cases ends with
      | closed => exact .stop (round_last text)
      | unclosed unquoted =>
          have round := round_place whole (List.prefix_append _ _)
          rw [functionAt_unclosed unquoted whole] at round
          exact .read round (.stop (round_last text))
  | cons function others ih =>
      obtain ⟨first, later⟩ := List.forall_mem_cons.mp separable
      have headed : header <+: (function :: others).flatMap Function.written ++ ending := by
        simp [Function.written]
      have here : text = before ++ (function.written ++ (others.flatMap Function.written ++ ending)) := by
        simpa using whole
      have round := round_place whole headed
      rw [functionAt_written first here (header_behind ends)] at round
      exact .read round (ih later (by simpa using here))

theorem Scans.congr {position other : Int} {read : List Function}
    (same : search header text position = search header text other) (scan : Scans text position read) :
    Scans text other read := by
  have rounds : round text position = round text other := by rw [round, round, same]
  cases scan with
  | stop ended => exact .stop (rounds ▸ ended)
  | read found later => exact .read (rounds ▸ found) later

end

theorem scans_functions (text : List Char) : Scans text 0 (functions text) := by
  obtain ⟨opening, functions, ending, last, headless, separable, ends, whole⟩ := exists_written text
  rw [functions_of_ending headless separable ends whole]
  rw [written, List.append_assoc] at whole
  have first := @search_header text [] opening _ whole headless (header_behind ends)
  have again := search_place whole (header_behind ends)
  exact (scans_written separable ends whole).congr (again.trans first.symm)

/-- How many times a header begins in a text. -/
def headerCount (text : List Char) : Nat :=
  text.tails.countP header.isPrefixOf

theorem headerCount_le_append (before text : List Char) : headerCount text ≤ headerCount (before ++ text) := by
  induction before with
  | nil => exact Nat.le_refl _
  | cons c before ih =>
      rw [List.cons_append, headerCount, headerCount, List.tails_cons, List.countP_cons]
      exact Nat.le_add_right_of_le ih

theorem headerCount_lt_header (rest : List Char) : headerCount rest < headerCount (header ++ rest) := by
  have later := headerCount_le_append header.tail rest
  have here : header.isPrefixOf (header ++ rest) = true :=
    List.isPrefixOf_iff_prefix.mpr (List.prefix_append _ _)
  have counted : headerCount (header ++ rest) = headerCount (header.tail ++ rest) + 1 := List.countP_cons_of_pos here
  omega

theorem length_le_headerCount {whole ending : List Char} {functions last : List Function}
    (ends : Ending whole ending last) :
    functions.length + last.length ≤ headerCount (functions.flatMap Function.written ++ ending) := by
  induction functions with
  | nil =>
      cases ends with
      | closed => exact Nat.zero_le _
      | unclosed => exact Nat.lt_of_le_of_lt (Nat.zero_le _) (headerCount_lt_header _)
  | cons function others ih =>
      have first := headerCount_lt_header
        (function.name ++ '"' :: (function.body ++ (others.flatMap Function.written ++ ending)))
      have later := headerCount_le_append (function.name ++ '"' :: function.body)
        (others.flatMap Function.written ++ ending)
      simp only [List.flatMap_cons, Function.written, List.append_assoc, List.cons_append,
        List.length_cons] at first later ⊢
      omega

/-- The scan from the start of a text ends, whatever the text. It reads the functions of the source, one in each round,
and there are no more of them than headers. -/
theorem scan_ends_within_headers (text : List Char) :
    (∀ read, Scans text 0 read ↔ read = functions text) ∧ (functions text).length ≤ headerCount text := by
  refine ⟨fun read => ⟨fun scan => scan.unique (scans_functions text), ?_⟩, ?_⟩
  · rintro rfl
    exact scans_functions text
  · obtain ⟨opening, functions, ending, last, headless, separable, ends, whole⟩ := exists_written text
    have counted := @length_le_headerCount text ending functions last ends
    have opened := headerCount_le_append opening (functions.flatMap Function.written ++ ending)
    rw [functions_of_ending headless separable ends whole, List.length_append, List.length_map]
    rw [whole, written, List.append_assoc]
    exact counted.trans opened

end StackMachine.Source

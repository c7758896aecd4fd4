import Mathlib.Data.List.TakeWhile
import StackMachine.Proofs.Source.Recovery

/-!
Where the body of a function ends. Every text is a written source, perhaps with a header behind it whose name is never
closed (`exists_written`). So every body is the code behind a header with its name, up to the next header, unless the
last name is not closed: the function of such a name gets the whole source.
-/

set_option autoImplicit false

namespace StackMachine

section

variable {α : Type} {entry : String × α} {entries : List (String × α)}

theorem eq_or_mem_of_mem_putNamed {name : String} {content : α}
    (member : entry ∈ putNamed name content entries) : entry = (name, content) ∨ entry ∈ entries := by
  induction entries with
  | nil => exact .inl (List.mem_singleton.mp member)
  | cons first rest ih =>
      obtain ⟨other, old⟩ := first
      rw [putNamed] at member
      split at member
      · next same =>
          rcases List.mem_cons.mp member with rfl | later
          · exact .inl (by rw [same])
          · exact .inr (List.mem_cons_of_mem _ later)
      · rcases List.mem_cons.mp member with rfl | later
        · exact .inr List.mem_cons_self
        · exact (ih later).imp_right (List.mem_cons_of_mem _)

theorem mem_of_mem_putAll (member : entry ∈ putAll entries) : entry ∈ entries := by
  induction entries using List.reverseRecOn with
  | nil => exact member
  | append_singleton entries last ih =>
      rw [putAll_append_singleton] at member
      rcases eq_or_mem_of_mem_putNamed member with rfl | earlier
      · exact List.mem_append_right _ List.mem_cons_self
      · exact List.mem_append_left _ (ih earlier)

end

namespace Text

variable {class_ : Char → Bool}

theorem exists_dropWhile_append {c : Char} (stops : class_ c = false) (before rest : List Char) :
    ∃ kept, (before ++ c :: rest).dropWhile class_ = kept ++ c :: rest := by
  induction before with
  | nil => exact ⟨[], List.dropWhile_cons_of_neg (by simp [stops])⟩
  | cons d before ih =>
      rw [List.cons_append, List.dropWhile_cons]
      split
      · exact ih
      · exact ⟨d :: before, rfl⟩

theorem trimBy_within (text : List Char) : trimBy class_ text <:+: text := by
  have front : text.dropWhile class_ <:+ text := List.dropWhile_suffix class_
  have back : trimBy class_ text <+: text.dropWhile class_ := by
    rw [trimBy, ← List.reverse_suffix, List.reverse_reverse]
    exact List.dropWhile_suffix class_
  exact back.isInfix.trans front.isInfix

/-- Trimming leaves alone what begins and ends with a character of another class. -/
theorem infix_trimBy {first last : Char} {middle text : List Char} (solidFirst : class_ first = false)
    (solidLast : class_ last = false) (inside : first :: (middle ++ [last]) <:+: text) :
    first :: (middle ++ [last]) <:+: trimBy class_ text := by
  obtain ⟨before, after, rfl⟩ := inside
  obtain ⟨kept, front⟩ := exists_dropWhile_append solidFirst before (middle ++ [last] ++ after)
  obtain ⟨left, back⟩ := exists_dropWhile_append solidLast after.reverse (middle.reverse ++ first :: kept.reverse)
  have trimmed : trimBy class_ (before ++ first :: (middle ++ [last]) ++ after) =
      kept ++ first :: (middle ++ [last]) ++ left.reverse := by
    have whole : before ++ first :: (middle ++ [last]) ++ after =
        before ++ first :: (middle ++ [last] ++ after) := by simp
    have turned : (kept ++ first :: (middle ++ [last] ++ after)).reverse =
        after.reverse ++ last :: (middle.reverse ++ first :: kept.reverse) := by simp
    rw [trimBy, whole, front, turned, back]
    simp
  exact ⟨kept, left.reverse, trimmed.symm⟩

end Text

namespace Source

open Text

theorem header_infix_trim {text : List Char} (inside : header <:+: text) : header <:+: trim text :=
  @infix_trimBy isBlank 'f' '"' ['u', 'n', 'c', 't', 'i', 'o', 'n', ' '] text (by decide) (by decide) inside

section

variable {text before after : List Char}

theorem written_of_splitAtHeader? (found : splitAtHeader? text = some (before, after)) :
    text = before ++ (header ++ after) ∧ ¬ header <:+: before := by
  induction text generalizing before with
  | nil => cases found
  | cons c rest ih =>
      rw [splitAtHeader?] at found
      split at found
      · next here =>
          obtain ⟨rfl, rfl⟩ := Prod.mk.inj (Option.some.inj found)
          exact ⟨List.prefix_iff_eq_append.mp (List.isPrefixOf_iff_prefix.mp here) |>.symm, by decide⟩
      · next notHere =>
          obtain ⟨⟨skipped, behind⟩, inner, same⟩ := Option.map_eq_some_iff.mp found
          obtain ⟨rfl, rfl⟩ := Prod.mk.inj same
          obtain ⟨rfl, headless⟩ := ih inner
          refine ⟨rfl, ?_⟩
          rw [List.infix_cons_iff, not_or]
          refine ⟨fun straddling => notHere ?_, headless⟩
          exact List.isPrefixOf_iff_prefix.mpr (straddling.trans (List.prefix_append (c :: skipped) _))

theorem headless_of_splitAtHeader? (unfound : splitAtHeader? text = none) : ¬ header <:+: text := by
  induction text with
  | nil => decide
  | cons c rest ih =>
      rw [splitAtHeader?] at unfound
      split at unfound
      · cases unfound
      · next notHere =>
          rw [List.infix_cons_iff, not_or]
          exact ⟨fun here => notHere (List.isPrefixOf_iff_prefix.mpr here), ih (Option.map_eq_none_iff.mp unfound)⟩

end

/-- How a source ends, and what is read there: with the body of its last function, or with a header whose name is not
closed. Such a name loses its last character and takes the whole source for a body. -/
inductive Ending (whole : List Char) : List Char → List Function → Prop where
  | closed : Ending whole [] []
  | unclosed {name : List Char} (unquoted : '"' ∉ name) :
      Ending whole (header ++ name) [⟨name.dropLast, trim whole⟩]

theorem exists_written_behind_header (whole rest : List Char) :
    ∃ (functions : List Function) (ending : List Char) (last : List Function),
      (∀ function ∈ functions, function.Separable) ∧ Ending whole ending last ∧
      header ++ rest = functions.flatMap Function.written ++ ending := by
  -- Along the lengths of what is left, as the names and bodies are read.
  induction length : rest.length using Nat.strong_induction_on generalizing rest with
  | h size ih =>
      by_cases quoted : '"' ∈ rest
      · obtain ⟨name, tail, rfl, unquoted⟩ := List.eq_append_cons_of_mem quoted
        cases split : splitAtHeader? tail with
        | none =>
            refine ⟨[⟨name, tail⟩], [], [], ?_, .closed, by simp [Function.written]⟩
            exact List.forall_mem_singleton.mpr ⟨unquoted, headless_of_splitAtHeader? split⟩
        | some found =>
            obtain ⟨body, next⟩ := found
            obtain ⟨rfl, headless⟩ := written_of_splitAtHeader? split
            have shorter : next.length < size := by
              simp only [List.length_append, List.length_cons] at length
              omega
            obtain ⟨others, ending, last, separable, ends, joined⟩ := ih next.length shorter next rfl
            refine ⟨⟨name, body⟩ :: others, ending, last, ?_, ends, ?_⟩
            · exact List.forall_mem_cons.mpr ⟨⟨unquoted, headless⟩, separable⟩
            · simp only [List.flatMap_cons, Function.written, List.append_assoc, List.cons_append, joined]
      · exact ⟨[], header ++ rest, _, List.forall_mem_nil _, .unclosed quoted, rfl⟩

/-- Every text is a written source with one of the two endings. -/
theorem exists_written (text : List Char) :
    ∃ opening functions ending last, ¬ header <:+: opening ∧ (∀ function ∈ functions, function.Separable) ∧
      Ending text ending last ∧ text = written opening functions ++ ending := by
  cases split : splitAtHeader? text with
  | none =>
      exact ⟨text, [], [], [], headless_of_splitAtHeader? split, List.forall_mem_nil _, .closed, by simp [written]⟩
  | some found =>
      obtain ⟨opening, rest⟩ := found
      obtain ⟨joined, headless⟩ := written_of_splitAtHeader? split
      obtain ⟨functions, ending, last, separable, ends, behind⟩ := exists_written_behind_header text rest
      exact ⟨opening, functions, ending, last, headless, separable, ends,
        by rw [joined, behind, written, List.append_assoc]⟩

theorem functionsFrom_of_unquoted {name : List Char} (unquoted : '"' ∉ name) (whole : List Char) :
    functionsFrom whole name = [⟨name.dropLast, trim whole⟩] := by
  have none : name.dropWhile (· != '"') = [] := by
    rw [List.dropWhile_eq_nil_iff]
    intro c member
    rw [bne_iff_ne]
    rintro rfl
    exact unquoted member
  rw [functionsFrom]
  split
  · rfl
  · next closed =>
      rw [none] at closed
      cases closed

theorem functions_of_ending {text opening ending : List Char} {functions last : List Function}
    (headless : ¬ header <:+: opening) (separable : ∀ function ∈ functions, function.Separable)
    (ends : Ending text ending last) (whole : text = written opening functions ++ ending) :
    Source.functions text = functions.map Function.trimmed ++ last := by
  cases ends with
  | closed => rw [whole, List.append_nil, List.append_nil, functions_written headless separable]
  | unclosed unquoted =>
      rw [whole, functions_written_append headless separable, functionsFrom_of_unquoted unquoted]

/-- Whether a source has a function with a name and a body: somewhere in it a header with the name in quotes stands, and
the body is the code behind it without blanks around it. The code reaches to where the next header begins, or to the
end of the source if there is none. -/
def HasFunction (text : List Char) (name : String) (body : List Char) : Prop :=
  ∃ before code after, text = before ++ (header ++ name.toList ++ '"' :: (code ++ after)) ∧
    (after = [] ∨ header <+: after) ∧ (∀ start < code.length, ¬ header <+: (code ++ after).drop start) ∧
    body = trim code

/-- What follows a function of a source is a header or nothing. -/
theorem header_behind {whole ending : List Char} {functions last : List Function} (ends : Ending whole ending last) :
    functions.flatMap Function.written ++ ending = [] ∨
      header <+: functions.flatMap Function.written ++ ending := by
  cases functions with
  | nil =>
      cases ends with
      | closed => exact .inl rfl
      | unclosed => exact .inr (List.prefix_append _ _)
  | cons function others =>
      refine .inr ?_
      simp only [List.flatMap_cons, Function.written, List.append_assoc]
      exact List.prefix_append _ _

/-- No header begins in a text without headers, though a header may follow it. -/
theorem not_prefix_drop {code after : List Char} (headless : ¬ header <:+: code)
    (next : after = [] ∨ header <+: after) {start : Nat} (within : start < code.length) :
    ¬ header <+: (code ++ after).drop start := by
  have absent : ¬ header <+: code.drop start := fun here =>
    headless (here.isInfix.trans (List.drop_suffix start code).isInfix)
  rw [List.drop_append_of_le_length (Nat.le_of_lt within)]
  rcases next with rfl | ⟨more, rfl⟩
  · rwa [List.append_nil]
  · refine not_prefix_of_header_behind absent ?_ more
    rw [Ne, List.drop_eq_nil_iff]
    omega

theorem hasFunction_of_mem {opening ending : List Char} {functions last : List Function}
    (separable : ∀ function ∈ functions, function.Separable)
    (ends : Ending (written opening functions ++ ending) ending last) {function : Function}
    (member : function ∈ functions) :
    HasFunction (written opening functions ++ ending) function.entry.1 function.entry.2 := by
  obtain ⟨earlier, later, rfl⟩ := List.append_of_mem member
  have next : later.flatMap Function.written ++ ending = [] ∨ _ := header_behind ends
  refine ⟨opening ++ earlier.flatMap Function.written, function.body, _, ?_, next, ?_, rfl⟩
  · simp [written, Function.written, Function.entry]
  · intro start within
    exact not_prefix_drop (separable function member).2 next within

/-- The body of a function has no header in it. -/
theorem HasFunction.headless {text body : List Char} {name : String} (has : HasFunction text name body) :
    ¬ header <:+: body := by
  obtain ⟨-, code, after, -, -, unbegun, rfl⟩ := has
  intro inside
  obtain ⟨skipped, behind, split⟩ := inside.trans (trimBy_within code)
  have within : skipped.length < code.length := by
    rw [← split]
    simp only [List.length_append, header, List.length_cons]
    omega
  refine unbegun skipped.length within ?_
  rw [← split, List.append_assoc, List.append_assoc, List.drop_left]
  exact List.prefix_append _ _

/-- Whether a source ends with a name that is not closed. -/
def EndsUnclosed (text name : List Char) : Prop :=
  '"' ∉ name ∧ ∃ opening functions, ¬ header <:+: opening ∧ (∀ function ∈ functions, function.Separable) ∧
    text = written opening functions ++ (header ++ name)

section

variable {text name : List Char}

/-- A name that is not closed is the last to be put, without its last character, and the whole source with it. -/
theorem EndsUnclosed.bodies (ends : EndsUnclosed text name) :
    ∃ opening functions, (∀ function ∈ functions, function.Separable) ∧
      text = written opening functions ++ (header ++ name) ∧
      Source.bodies text =
        putAll (functions.map Function.entry ++ [(String.ofList name.dropLast, trim text)]) := by
  obtain ⟨unquoted, opening, functions, headless, separable, rfl⟩ := ends
  refine ⟨opening, functions, separable, rfl, ?_⟩
  rw [Source.bodies, functions_of_ending headless separable (.unclosed unquoted) rfl, putAll, List.foldl_append,
    List.foldl_append, List.foldl_map, List.foldl_map]
  rfl

theorem EndsUnclosed.lookup (ends : EndsUnclosed text name) :
    (Source.bodies text).lookup (String.ofList name.dropLast) = some (trim text) := by
  obtain ⟨opening, functions, -, -, read⟩ := ends.bodies
  rw [read, lookup_putAll, List.reverse_append]
  simp

theorem EndsUnclosed.not_hasFunction (ends : EndsUnclosed text name) (other : String) :
    ¬ HasFunction text other (trim text) := by
  obtain ⟨-, opening, functions, -, -, rfl⟩ := ends
  intro has
  exact has.headless (header_infix_trim ⟨written opening functions, name, List.append_assoc _ _ _⟩)

theorem EndsUnclosed.exists_foreign (ends : EndsUnclosed text name) :
    ∃ entry ∈ Source.bodies text, ¬ HasFunction text entry.1 entry.2 := by
  obtain ⟨before, after, split, -⟩ := List.lookup_eq_some_iff.mp ends.lookup
  refine ⟨(String.ofList name.dropLast, trim text), ?_, ends.not_hasFunction _⟩
  simp [split]

theorem EndsUnclosed.hasFunction_of_ne (ends : EndsUnclosed text name) {entry : String × List Char}
    (member : entry ∈ Source.bodies text) (other : entry.1 ≠ String.ofList name.dropLast) :
    HasFunction text entry.1 entry.2 := by
  obtain ⟨opening, functions, separable, rfl, read⟩ := ends.bodies
  rw [read] at member
  rcases List.mem_append.mp (mem_of_mem_putAll member) with closed | last
  · obtain ⟨function, among, rfl⟩ := List.mem_map.mp closed
    exact hasFunction_of_mem separable (.unclosed ends.1) among
  · cases List.mem_singleton.mp last
    exact absurd rfl other

end

theorem hasFunction_of_written {opening : List Char} {functions : List Function}
    (headless : ¬ header <:+: opening) (separable : ∀ function ∈ functions, function.Separable)
    {entry : String × List Char} (member : entry ∈ bodies (written opening functions)) :
    HasFunction (written opening functions) entry.1 entry.2 := by
  rw [bodies_eq_putAll (functions_written headless separable)] at member
  obtain ⟨function, among, rfl⟩ := List.mem_map.mp (mem_of_mem_putAll member)
  have has := @hasFunction_of_mem opening [] functions [] separable .closed function among
  rwa [List.append_nil] at has

/-- Every body is that of a function of the source if and only if the source does not end with a name that is not
closed. If it does, the whole source is the body under that name less its last character, and the bodies under all
other names are still those of functions. -/
theorem bodies_of_functions_unless_unclosed (text : List Char) :
    ((∀ entry ∈ bodies text, HasFunction text entry.1 entry.2) ↔ ∀ name, ¬ EndsUnclosed text name) ∧
      ∀ name, EndsUnclosed text name →
        (bodies text).lookup (String.ofList name.dropLast) = some (trim text) ∧
          ∀ entry ∈ bodies text, entry.1 ≠ String.ofList name.dropLast → HasFunction text entry.1 entry.2 := by
  refine ⟨⟨?_, ?_⟩, ?_⟩
  · intro own name ends
    obtain ⟨entry, member, foreign⟩ := ends.exists_foreign
    exact foreign (own entry member)
  · intro closed entry member
    obtain ⟨opening, functions, ending, last, headless, separable, ends, whole⟩ := exists_written text
    cases ends with
    | closed =>
        rw [List.append_nil] at whole
        subst whole
        exact hasFunction_of_written headless separable member
    | unclosed unquoted => exact absurd ⟨unquoted, opening, functions, headless, separable, whole⟩ (closed _)
  · intro name ends
    exact ⟨ends.lookup, fun entry member other => ends.hasFunction_of_ne member other⟩

/-- A source of a function and of a header whose name is not closed. -/
def brokenOff : List Char :=
  written [] [⟨['f'], ['\n', 'R', 'E', 'T', '\n']⟩] ++ (header ++ ['g', 'h'])

theorem brokenOff_endsUnclosed : EndsUnclosed brokenOff ['g', 'h'] :=
  ⟨by decide, [], [⟨['f'], ['\n', 'R', 'E', 'T', '\n']⟩], by decide,
    List.forall_mem_singleton.mpr ⟨by decide, by decide⟩, rfl⟩

theorem bodies_of_functions_unless_unclosed_brokenOff :
    EndsUnclosed brokenOff ['g', 'h'] ∧ (bodies brokenOff).lookup "g" = some brokenOff ∧
      ∀ entry ∈ bodies brokenOff, entry.1 ≠ "g" → HasFunction brokenOff entry.1 entry.2 := by
  obtain ⟨whole, others⟩ := (bodies_of_functions_unless_unclosed brokenOff).2 ['g', 'h'] brokenOff_endsUnclosed
  exact ⟨brokenOff_endsUnclosed, whole, others⟩

/-- The broken off name takes the function before it into its body. -/
theorem body_from_outside : ¬ ∀ entry ∈ bodies brokenOff, HasFunction brokenOff entry.1 entry.2 := by
  intro own
  obtain ⟨entry, member, foreign⟩ := brokenOff_endsUnclosed.exists_foreign
  exact foreign (own entry member)

end Source

end StackMachine

import Mathlib.Data.List.DropRight
import StackMachine.Proofs.Listing.Grammar

/-!
The words of a text. They do not depend on where else a text is cut at blanks before (`words_eq_flatMap_cut`) nor on
blanks at its ends (`words_trimBy`), and every other character stands in one of them.
-/

set_option autoImplicit false

namespace StackMachine.Text

section

variable {class_ : Char → Bool} {text : List Char}

theorem cut_append_cons {separator : Char} (separates : class_ separator = true) (left right : List Char) :
    cut class_ (left ++ separator :: right) = cut class_ left ++ cut class_ right := by
  rw [cut_eq_splitOnP, List.splitOnP_append_cons left right separates, ← cut_eq_splitOnP, ← cut_eq_splitOnP]

theorem words_append_cons {separator : Char} (blank : isBlank separator = true) (left right : List Char) :
    words (left ++ separator :: right) = words left ++ words right := by
  rw [words, cut_append_cons blank, List.filter_append]
  rfl

theorem words_cons_of_blank {c : Char} (blank : isBlank c = true) (rest : List Char) :
    words (c :: rest) = words rest :=
  words_append_cons blank [] rest

theorem words_of_blanks (blanks : ∀ c ∈ text, isBlank c = true) : words text = [] := by
  induction text with
  | nil => rfl
  | cons c rest ih =>
      rw [List.forall_mem_cons] at blanks
      rw [words_cons_of_blank blanks.1, ih blanks.2]

theorem modifyHead_nil_append (pieces : List (List Char)) : pieces.modifyHead ([] ++ ·) = pieces := by
  cases pieces <;> rfl

/-- Every character that is not cut at stands in a piece. -/
theorem exists_mem_cut {c : Char} (inside : c ∈ text) (solid : class_ c = false) :
    ∃ piece ∈ cut class_ text, c ∈ piece := by
  induction text with
  | nil => cases inside
  | cons d rest ih =>
      rw [cut]
      split
      · next separates =>
          rcases List.mem_cons.mp inside with rfl | later
          · rw [solid] at separates
            cases separates
          · obtain ⟨piece, member, among⟩ := ih later
            exact ⟨piece, List.mem_cons_of_mem [] member, among⟩
      · cases pieces : cut class_ rest with
        | nil => exact absurd pieces (cut_ne_nil class_ rest)
        | cons first others =>
            rcases List.mem_cons.mp inside with rfl | later
            · exact ⟨_, List.mem_cons_self, List.mem_cons_self⟩
            · obtain ⟨piece, member, among⟩ := ih later
              rw [pieces] at member
              rcases List.mem_cons.mp member with rfl | other
              · exact ⟨_, List.mem_cons_self, List.mem_cons_of_mem d among⟩
              · exact ⟨piece, List.mem_cons_of_mem _ other, among⟩

theorem exists_mem_words {c : Char} (inside : c ∈ text) (solid : isBlank c = false) :
    ∃ word ∈ words text, c ∈ word := by
  obtain ⟨word, member, among⟩ := exists_mem_cut inside solid
  refine ⟨word, List.mem_filter.mpr ⟨member, ?_⟩, among⟩
  cases word with
  | nil => cases among
  | cons _ _ => rfl

theorem solid_of_mem_words {word : List Char} (member : word ∈ words text) :
    word ≠ [] ∧ ∀ c ∈ word, isBlank c = false := by
  obtain ⟨piece, some_⟩ := List.mem_filter.mp member
  exact ⟨by simpa using some_, fun c inside => (mem_of_mem_cut piece inside).2⟩

theorem dropWhile_of_none (solid : ∀ c ∈ text, class_ c = false) : text.dropWhile class_ = text := by
  cases text with
  | nil => rfl
  | cons c rest => exact List.dropWhile_cons_of_neg (by simp [solid c List.mem_cons_self])

theorem takeWhile_of_none (solid : ∀ c ∈ text, class_ c = false) : text.takeWhile class_ = [] := by
  cases text with
  | nil => rfl
  | cons c rest => exact List.takeWhile_cons_of_neg (by simp [solid c List.mem_cons_self])

theorem rdropWhile_append_of_all {tail : List Char} (solid : ∀ c ∈ text, class_ c = false)
    (pads : ∀ c ∈ tail, class_ c = true) : (text ++ tail).rdropWhile class_ = text := by
  have behind : ∀ c ∈ tail.reverse, class_ c = true := fun c member => pads c (List.mem_reverse.mp member)
  have before : ∀ c ∈ text.reverse, class_ c = false := fun c member => solid c (List.mem_reverse.mp member)
  rw [List.rdropWhile, List.reverse_append, List.dropWhile_append_of_pos behind, dropWhile_of_none before,
    List.reverse_reverse]

theorem rdropWhile_append_of_exists (solid : ∃ c ∈ text, class_ c = false) (lead : List Char) :
    (lead ++ text).rdropWhile class_ = lead ++ text.rdropWhile class_ := by
  have some_ : text.reverse.dropWhile class_ ≠ [] := by
    rw [Ne, List.dropWhile_eq_nil_iff]
    obtain ⟨c, inside, stops⟩ := solid
    intro all
    exact Bool.false_ne_true (stops.symm.trans (all c (List.mem_reverse.mpr inside)))
  rw [List.rdropWhile, List.reverse_append, List.dropWhile_append, if_neg (by simpa using some_),
    List.reverse_append, List.reverse_reverse, List.rdropWhile]

theorem trimBy_eq_self (solid : ∀ c ∈ text, class_ c = false) : trimBy class_ text = text := by
  have none : ∀ c ∈ ([] : List Char), class_ c = true := nofun
  have back := rdropWhile_append_of_all solid none
  rw [List.append_nil] at back
  change List.rdropWhile class_ (text.dropWhile class_) = text
  rw [dropWhile_of_none solid, back]

theorem trimBy_trimBy (class_ : Char → Bool) (text : List Char) :
    trimBy class_ (trimBy class_ text) = trimBy class_ text := by
  -- A trimmed text begins with the character at which dropping from the left has stopped.
  have front : (trimBy class_ text).dropWhile class_ = trimBy class_ text := by
    cases trimmed : trimBy class_ text with
    | nil => rfl
    | cons c rest =>
        obtain ⟨tail, whole⟩ : trimBy class_ text <+: text.dropWhile class_ := List.rdropWhile_prefix class_ _
        have stops := List.head?_dropWhile_not class_ text
        rw [← whole, trimmed] at stops
        exact List.dropWhile_cons_of_neg (by simpa using stops)
  change List.rdropWhile class_ ((trimBy class_ text).dropWhile class_) = _
  rw [front]
  exact List.rdropWhile_idempotent class_ _

end

section

variable {class_ : Char → Bool} (blank : ∀ c, class_ c = true → isBlank c = true)
include blank

theorem words_append_left {left : List Char} (pads : ∀ c ∈ left, class_ c = true) (text : List Char) :
    words (left ++ text) = words text := by
  induction left with
  | nil => rfl
  | cons c left ih =>
      rw [List.forall_mem_cons] at pads
      rw [List.cons_append, words_cons_of_blank (blank c pads.1), ih pads.2]

theorem words_append_right {right : List Char} (pads : ∀ c ∈ right, class_ c = true) (text : List Char) :
    words (text ++ right) = words text := by
  cases right with
  | nil => rw [List.append_nil]
  | cons c right =>
      rw [List.forall_mem_cons] at pads
      rw [words_append_cons (blank c pads.1), words_of_blanks fun d member => blank d (pads.2 d member),
        List.append_nil]

theorem words_dropWhile (text : List Char) : words (text.dropWhile class_) = words text := by
  have pads : ∀ c ∈ text.takeWhile class_, class_ c = true := fun c member => List.mem_takeWhile_imp member
  rw [← words_append_left blank pads, List.takeWhile_append_dropWhile]

theorem words_rdropWhile (text : List Char) : words (text.rdropWhile class_) = words text := by
  have pads : ∀ c ∈ text.rtakeWhile class_, class_ c = true := fun c member => List.mem_rtakeWhile_imp member
  rw [← words_append_right blank pads, List.rdropWhile_append_rtakeWhile]

theorem words_trimBy (text : List Char) : words (trimBy class_ text) = words text :=
  (words_rdropWhile blank _).trans (words_dropWhile blank text)

theorem words_append_eq_flatMap (lead text : List Char) :
    words (lead ++ text) = ((cut class_ text).modifyHead (lead ++ ·)).flatMap words := by
  induction text generalizing lead with
  | nil => simp [cut]
  | cons c rest ih =>
      rw [cut]
      split
      · next separates =>
          have later := ih []
          rw [List.nil_append, modifyHead_nil_append] at later
          rw [words_append_cons (blank c separates), later]
          simp
      · have later := ih (lead ++ [c])
        rw [List.append_assoc, List.singleton_append] at later
        rw [later]
        cases pieces : cut class_ rest with
        | nil => exact absurd pieces (cut_ne_nil class_ rest)
        | cons piece others => simp

/-- A text may be cut at some of its blanks first. -/
theorem words_eq_flatMap_cut (text : List Char) : words text = (cut class_ text).flatMap words := by
  have whole := words_append_eq_flatMap blank [] text
  rwa [List.nil_append, modifyHead_nil_append] at whole

end

end StackMachine.Text

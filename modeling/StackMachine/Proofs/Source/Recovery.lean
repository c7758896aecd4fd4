import Mathlib.Data.List.Induction
import Mathlib.Data.List.Infix
import StackMachine.Source

/-!
Reading back a source that was put together from functions. Headers are told from everything else by their
letters alone: no header can begin inside another one, so that joining texts without headers at headers
makes no new ones. Names may hold anything but the quote that ends them, headers without it included.
-/

set_option autoImplicit false

namespace StackMachine

section

variable {α : Type} (name : String) (content : α) (entries : List (String × α))

/-- A name that is there keeps its place, and a new one comes last. -/
theorem putNamed_names :
    (putNamed name content entries).map Prod.fst =
      if name ∈ entries.map Prod.fst then entries.map Prod.fst else entries.map Prod.fst ++ [name] := by
  induction entries with
  | nil => rfl
  | cons entry rest ih =>
      obtain ⟨other, old⟩ := entry
      rw [putNamed]
      by_cases same : other = name
      · simp [same]
      · have different : name ≠ other := fun equal => same equal.symm
        rw [if_neg same, List.map_cons, List.map_cons, ih]
        by_cases present : name ∈ rest.map Prod.fst
        · rw [if_pos present, if_pos (List.mem_cons_of_mem other present)]
        · have absent : name ∉ other :: rest.map Prod.fst := by
            rw [List.mem_cons, not_or]
            exact ⟨different, present⟩
          rw [if_neg present, if_neg absent, List.cons_append]

private theorem lookup_entry (key : String) :
    ((name, content) :: entries).lookup key = if key = name then some content else entries.lookup key := by
  by_cases asked : key = name
  · rw [if_pos asked, List.lookup_cons, beq_iff_eq.mpr asked]
  · rw [if_neg asked, List.lookup_cons, beq_eq_false_iff_ne.mpr asked]

theorem lookup_putNamed (key : String) :
    (putNamed name content entries).lookup key =
      if key = name then some content else entries.lookup key := by
  induction entries with
  | nil => exact lookup_entry name content [] key
  | cons entry rest ih =>
      obtain ⟨other, old⟩ := entry
      rw [putNamed, lookup_entry other old]
      by_cases same : other = name
      · rw [if_pos same, lookup_entry, same]
        by_cases asked : key = name
        · simp only [asked, if_true]
        · simp only [asked, if_false]
      · rw [if_neg same, lookup_entry, ih]
        by_cases asked : key = other
        · simp only [asked, same, if_true, if_false]
        · simp only [asked, if_false]

/-- Entries put under their names one after the other. -/
def putAll (entries : List (String × α)) : List (String × α) :=
  entries.foldl (fun named entry => putNamed entry.1 entry.2 named) []

theorem putAll_append_singleton (entry : String × α) :
    putAll (entries ++ [entry]) = putNamed entry.1 entry.2 (putAll entries) := by
  rw [putAll, List.foldl_append]
  rfl

theorem putAll_names : (putAll entries).map Prod.fst = (entries.map Prod.fst).eraseDups := by
  induction entries using List.reverseRecOn with
  | nil => rfl
  | append_singleton entries last ih =>
      rw [putAll_append_singleton, putNamed_names, ih, List.map_append, List.eraseDups_append]
      simp only [List.mem_eraseDups, List.removeAll, List.map_cons, List.map_nil]
      by_cases again : last.1 ∈ entries.map Prod.fst
      · simp [again]
      · simp [again, List.eraseDups_cons]

theorem lookup_putAll (name : String) : (putAll entries).lookup name = entries.reverse.lookup name := by
  induction entries using List.reverseRecOn with
  | nil => rfl
  | append_singleton entries last ih =>
      rw [putAll_append_singleton, lookup_putNamed, ih, List.reverse_append]
      exact (lookup_entry last.1 last.2 entries.reverse name).symm

end

namespace Source

open Text

/-- A function as a source has it: a header, the name with its closing quote, and the body. -/
def Function.written (function : Function) : List Char :=
  header ++ function.name ++ '"' :: function.body

/-- The source that consists of some text and functions after it. -/
def written (opening : List Char) (functions : List Function) : List Char :=
  opening ++ functions.flatMap Function.written

theorem splitAtHeader?_eq_none {text : List Char} (absent : ¬ header <:+: text) :
    splitAtHeader? text = none := by
  induction text with
  | nil => rfl
  | cons c rest ih =>
      rw [List.infix_cons_iff, not_or] at absent
      have notHere : ¬ header.isPrefixOf (c :: rest) = true := by
        rw [List.isPrefixOf_iff_prefix]
        exact absent.1
      rw [splitAtHeader?, if_neg notHere, ih absent.2]
      rfl

/-- The first letter of a header does not come again in it. -/
private theorem header_getElem?_ne : ∀ index < header.length, 0 < index → header[index]? ≠ some 'f' := by
  decide

/-- A text without headers that a header follows has none that begins in the text and reaches into what
follows. -/
theorem not_prefix_of_header_behind {text : List Char} (absent : ¬ header <+: text) (someText : text ≠ [])
    (after : List Char) : ¬ header <+: text ++ (header ++ after) := by
  intro straddling
  obtain within | beyond := Nat.lt_or_ge text.length header.length
  · obtain ⟨more, joined⟩ := straddling
    have inHeader : header[text.length]? = some 'f' := by
      rw [← List.getElem?_append_left within, joined, List.getElem?_append_right (Nat.le_refl _),
        Nat.sub_self]
      rfl
    exact header_getElem?_ne text.length within (List.length_pos_of_ne_nil someText) inHeader
  · exact absent (List.prefix_of_prefix_length_le straddling (List.prefix_append _ _) beyond)

theorem splitAtHeader?_append {before : List Char} (absent : ¬ header <:+: before) (after : List Char) :
    splitAtHeader? (before ++ (header ++ after)) = some (before, after) := by
  induction before with
  | nil =>
      have here : header.isPrefixOf (header ++ after) = true :=
        List.isPrefixOf_iff_prefix.mpr (List.prefix_append _ _)
      exact if_pos here
  | cons c rest ih =>
      rw [List.infix_cons_iff, not_or] at absent
      have notHere : ¬ header.isPrefixOf (c :: (rest ++ (header ++ after))) = true := by
        rw [List.isPrefixOf_iff_prefix]
        exact not_prefix_of_header_behind absent.1 (List.cons_ne_nil c rest) after
      rw [List.cons_append, splitAtHeader?, if_neg notHere, ih absent.2]
      rfl

/-- Behind a header, the name reaches to the first quote. -/
theorem functionsFrom_of_quote {name : List Char} (unquoted : '"' ∉ name) (whole tail : List Char) :
    functionsFrom whole (name ++ '"' :: tail) =
      match splitAtHeader? tail with
      | none => [⟨name, trim tail⟩]
      | some (body, rest) => ⟨name, trim body⟩ :: functionsFrom whole rest := by
  have letters : ∀ c ∈ name, (c != '"') = true := by
    intro c member
    rw [bne_iff_ne]
    rintro rfl
    exact unquoted member
  have closing : (name ++ '"' :: tail).dropWhile (· != '"') = '"' :: tail := by
    rw [List.dropWhile_append_of_pos letters]
    rfl
  have nameRead : (name ++ '"' :: tail).takeWhile (· != '"') = name := by
    rw [List.takeWhile_append_of_pos letters]
    exact List.append_nil name
  rw [functionsFrom]
  split
  · next unclosed =>
      rw [closing] at unclosed
      cases unclosed
  · next mark other closed =>
      rw [closing] at closed
      obtain ⟨-, rfl⟩ := List.cons.inj closed
      rw [nameRead]
      split
      · next unfound => rw [unfound]
      · next found => rw [found]

/-- A function without blanks around its body. -/
def Function.trimmed (function : Function) : Function :=
  { function with body := trim function.body }

/-- Whether a function can be told from those around it: no quote is in its name and no header in its
body. -/
def Function.Separable (function : Function) : Prop :=
  '"' ∉ function.name ∧ ¬ header <:+: function.body

/-- Functions that a header follows are read one after the other, and then what the header begins. -/
theorem functionsFrom_flatMap {functions : List Function}
    (separable : ∀ function ∈ functions, function.Separable) (whole rest : List Char) :
    ∃ first, functions.flatMap Function.written ++ (header ++ rest) = header ++ first ∧
      functionsFrom whole first = functions.map Function.trimmed ++ functionsFrom whole rest := by
  induction functions with
  | nil => exact ⟨rest, rfl, rfl⟩
  | cons function others ih =>
      obtain ⟨⟨unquoted, headless⟩, later⟩ := List.forall_mem_cons.mp separable
      obtain ⟨second, joined, read⟩ := ih later
      refine ⟨function.name ++ '"' :: (function.body ++ (header ++ second)), ?_, ?_⟩
      · simp only [List.flatMap_cons, Function.written, List.append_assoc, List.cons_append, joined]
      · rw [functionsFrom_of_quote unquoted, splitAtHeader?_append headless]
        exact congrArg (List.cons function.trimmed) read

/-- Text without headers before the first one belongs to no function. -/
theorem functions_written_append {opening : List Char} (headless : ¬ header <:+: opening)
    {functions : List Function} (separable : ∀ function ∈ functions, function.Separable) (rest : List Char) :
    Source.functions (written opening functions ++ (header ++ rest)) =
      functions.map Function.trimmed ++
        functionsFrom (written opening functions ++ (header ++ rest)) rest := by
  obtain ⟨first, joined, read⟩ :=
    functionsFrom_flatMap separable (written opening functions ++ (header ++ rest)) rest
  have split : splitAtHeader? (written opening functions ++ (header ++ rest)) = some (opening, first) := by
    rw [written, List.append_assoc, joined]
    exact splitAtHeader?_append headless first
  rw [Source.functions, split]
  exact read

/-- The functions of a source that was put together are those it was put together from. -/
theorem functions_written {opening : List Char} (headless : ¬ header <:+: opening)
    {functions : List Function} (separable : ∀ function ∈ functions, function.Separable) :
    Source.functions (written opening functions) = functions.map Function.trimmed := by
  induction functions using List.reverseRecOn with
  | nil =>
      rw [written, Source.functions, List.flatMap_nil, List.append_nil, splitAtHeader?_eq_none headless]
      rfl
  | append_singleton functions last _ =>
      obtain ⟨earlier, final⟩ := List.forall_mem_append.mp separable
      obtain ⟨unquoted, headlessBody⟩ := final last List.mem_cons_self
      have joined : written opening (functions ++ [last]) =
          written opening functions ++ (header ++ (last.name ++ '"' :: last.body)) := by
        simp [written, Function.written]
      rw [joined, functions_written_append headless earlier, functionsFrom_of_quote unquoted,
        splitAtHeader?_eq_none headlessBody, List.map_append]
      rfl

/-- The entry that a function makes among the bodies of its source. -/
def Function.entry (function : Function) : String × List Char :=
  (String.ofList function.name, trim function.body)

theorem bodies_eq_putAll {text : List Char} {functions : List Function}
    (read : Source.functions text = functions.map Function.trimmed) :
    bodies text = putAll (functions.map Function.entry) := by
  rw [bodies, read, putAll, List.foldl_map, List.foldl_map]
  rfl

/-- If no name holds a quote and neither the text before the first function nor any body holds a header, the
bodies of the source are those of the functions, without blanks around them, put under their names one after
the other. So each name has the place where it first comes and the body that comes last, and no other name
is there. -/
theorem bodies_written (opening : List Char) (functions : List Function)
    (unquoted : ∀ function ∈ functions, '"' ∉ function.name)
    (headless : ¬ header <:+: opening)
    (headlessBodies : ∀ function ∈ functions, ¬ header <:+: function.body) :
    let entries := functions.map fun function => (String.ofList function.name, trim function.body)
    bodies (written opening functions) =
        entries.foldl (fun named entry => putNamed entry.1 entry.2 named) [] ∧
      (bodies (written opening functions)).map Prod.fst = (entries.map Prod.fst).eraseDups ∧
      ∀ name, (bodies (written opening functions)).lookup name = entries.reverse.lookup name := by
  intro entries
  have separable : ∀ function ∈ functions, function.Separable := fun function member =>
    ⟨unquoted function member, headlessBodies function member⟩
  have filled : bodies (written opening functions) = putAll entries :=
    bodies_eq_putAll (functions_written headless separable)
  rw [filled]
  exact ⟨rfl, putAll_names entries, lookup_putAll entries⟩

/-- Two names that come twice, one of them the beginning of a header, and a body that breaks off in a header
where the next one starts. -/
def entangled : List Function := [
  ⟨['f', 'u', 'n', 'c', 't', 'i', 'o', 'n', ' '], ['\n', 'R', 'E', 'T', '\n', 'f', 'u', 'n', 'c']⟩,
  ⟨['f'], ['"', 'a', ' ']⟩,
  ⟨['f', 'u', 'n', 'c', 't', 'i', 'o', 'n', ' '], [' ', 'C', 'A', 'L', 'L', '\n']⟩,
  ⟨['f'], []⟩]

theorem bodies_written_entangled :
    (∀ function ∈ entangled, '"' ∉ function.name) ∧ ¬ header <:+: ['f', 'u', 'n', 'c'] ∧
      (∀ function ∈ entangled, ¬ header <:+: function.body) ∧
      (bodies (written ['f', 'u', 'n', 'c'] entangled)).map Prod.fst = ["function ", "f"] ∧
      (bodies (written ['f', 'u', 'n', 'c'] entangled)).lookup "function " = some ['C', 'A', 'L', 'L'] ∧
      (bodies (written ['f', 'u', 'n', 'c'] entangled)).lookup "f" = some [] := by
  have unquoted : ∀ function ∈ entangled, '"' ∉ function.name := by decide
  have headless : ¬ header <:+: ['f', 'u', 'n', 'c'] := by decide
  have headlessBodies : ∀ function ∈ entangled, ¬ header <:+: function.body := by decide
  obtain ⟨-, names, found⟩ := bodies_written ['f', 'u', 'n', 'c'] entangled unquoted headless headlessBodies
  refine ⟨unquoted, headless, headlessBodies, ?_, ?_, ?_⟩
  · rw [names]
    decide
  · rw [found]
    decide
  · rw [found]
    decide

end Source

end StackMachine

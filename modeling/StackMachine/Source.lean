import StackMachine.Text.Blank

/-!
Program sources: texts of several functions, each after a header that names it.

A header is the word `function`, a space and a name in double quotes. The body of a function reaches
from behind its header to the next header, and text before the first header belongs to none.
-/

set_option autoImplicit false

namespace StackMachine

/-- Puts an entry under a name: in the place of the one that has it, else at the end. -/
def putNamed {α : Type} (name : String) (content : α) : List (String × α) → List (String × α)
  | [] => [(name, content)]
  | (other, old) :: rest =>
    if other = name then (other, content) :: rest else (other, old) :: putNamed name content rest

namespace Source

open Text

/-- How a header begins: everything before the name. -/
def header : List Char := ['f', 'u', 'n', 'c', 't', 'i', 'o', 'n', ' ', '"']

/-- The text before the first header and the text behind it. -/
def splitAtHeader? : List Char → Option (List Char × List Char)
  | [] => none
  | c :: rest =>
    if header.isPrefixOf (c :: rest) then some ([], (c :: rest).drop header.length)
    else (splitAtHeader? rest).map fun (before, after) => (c :: before, after)

theorem length_lt_of_splitAtHeader? {text before after : List Char}
    (found : splitAtHeader? text = some (before, after)) : after.length < text.length := by
  induction text generalizing before with
  | nil => simp [splitAtHeader?] at found
  | cons c rest ih =>
      rw [splitAtHeader?] at found
      by_cases here : header.isPrefixOf (c :: rest) = true
      · rw [if_pos here] at found
        obtain ⟨-, rfl⟩ := Prod.mk.inj (Option.some.inj found)
        simp only [List.length_drop, List.length_cons, header]
        omega
      · rw [if_neg here] at found
        obtain ⟨⟨before', after'⟩, inner, same⟩ := Option.map_eq_some_iff.1 found
        obtain ⟨-, rfl⟩ := Prod.mk.inj same
        have shorter := ih inner
        simp only [List.length_cons]
        omega

/-- A function of a source: its name and its body, without blanks around it. -/
structure Function where
  name : List Char
  body : List Char
  deriving Repr, DecidableEq

/-- The functions of a text that starts right behind the beginning of a header. -/
def functionsFrom (whole : List Char) (text : List Char) : List Function :=
  match _closing : text.dropWhile (· != '"') with
  -- A name whose quotes are not closed loses its last character and takes the whole source for a body.
  | [] => [⟨text.dropLast, trim whole⟩]
  | _ :: tail =>
    let name := text.takeWhile (· != '"')
    match _split : splitAtHeader? tail with
    | none => [⟨name, trim tail⟩]
    | some (body, rest) => ⟨name, trim body⟩ :: functionsFrom whole rest
termination_by text.length
decreasing_by
  have shorter := length_lt_of_splitAtHeader? _split
  have suffix := (List.dropWhile_suffix (fun c => c != '"') : text.dropWhile (· != '"') <:+ text).length_le
  rw [_closing] at suffix
  simp only [List.length_cons] at suffix
  omega

def functions (text : List Char) : List Function :=
  match splitAtHeader? text with
  | none => []
  | some (_, rest) => functionsFrom text rest

/-- The bodies of a source by function name. A name that comes again keeps its place and takes the
later body. -/
def bodies (text : List Char) : List (String × List Char) :=
  (functions text).foldl (fun named function => putNamed (String.ofList function.name) function.body named) []

end Source

end StackMachine

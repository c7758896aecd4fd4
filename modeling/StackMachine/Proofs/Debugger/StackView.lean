import StackMachine.Debugger.Functions
import StackMachine.Proofs.Listing.RoundTrip

/-!
Two views of one stack. The machine's own view and the `stack` command of the debugger for several functions word their
messages alike and bound the number that can be asked for differently: the machine shows all values but the last by
number, the debugger all of them. So they show the same entries unless exactly all are asked for
(`showStack_shows_top_unless_all`).
-/

set_option autoImplicit false

namespace StackMachine

/-- The line of a view that shows the value at an index from the top. -/
def stackEntry (index : Nat) (value : Value) : String :=
  "[" ++ toString index ++ "] " ++ String.ofList value.literal

/-- The lines of a view that show a value. No message and no heading begins with a bracket. -/
def Printout.entries (printout : Printout) : List String :=
  printout.lines.filter fun line => line.toList.head? == some '['

/-- Whether a text asks for a number of values: it has one word, and that denotes the number. -/
def Requests (request : List Char) (count : Int) : Prop :=
  ∃ word, Text.words request = [word] ∧ Numeral.integer? word = some count

/-- How many values of a stack are shown at a request if at most `bound` can be asked for. -/
def shownCount (bound length : Nat) (request : List Char) : Nat :=
  if request.isEmpty then length
  else
    match Text.words request with
    | [word] =>
      match Numeral.integer? word with
      | some count => if count < 0 ∨ bound < count then 0 else count.toNat
      | none => 0
    | _ => 0

theorem shownCount_le {bound length : Nat} (bounded : bound ≤ length) (request : List Char) :
    shownCount bound length request ≤ length := by
  unfold shownCount
  repeat' split
  all_goals omega

theorem shownCount_of_requests {request : List Char} {count : Int} (requests : Requests request count)
    (bound length : Nat) :
    shownCount bound length request = if count < 0 ∨ bound < count then 0 else count.toNat := by
  obtain ⟨word, words, denotes⟩ := requests
  have given : ¬ request.isEmpty = true := by
    intro empty
    rw [List.isEmpty_iff.mp empty] at words
    cases words
  rw [shownCount, if_neg given, words]
  dsimp only
  rw [denotes]

/-- Where a larger bound makes a difference: what is asked for lies between the two. -/
theorem shownCount_eq_iff {length : Nat} (some_ : 0 < length) (request : List Char) :
    shownCount (length - 1) length request = shownCount length length request ↔ ¬ Requests request length := by
  by_cases requests : Requests request length
  · refine iff_of_false ?_ (not_not_intro requests)
    rw [shownCount_of_requests requests, shownCount_of_requests requests]
    split <;> split <;> omega
  · refine iff_of_true ?_ requests
    unfold shownCount
    split
    · rfl
    · split
      · next word words =>
          split
          · next count denotes =>
              have other : count ≠ length := by
                rintro rfl
                exact requests ⟨word, words, denotes⟩
              split <;> split <;> omega
          · rfl
      · rfl

section

variable {stack : List Value} (printable : ∀ value ∈ stack, value.printable = true)
include printable

theorem numberedLines_of_printable (index : Nat) :
    numberedLines index stack = .of (stack.mapIdx fun offset => stackEntry (index + offset)) := by
  induction stack generalizing index with
  | nil => rfl
  | cons value rest ih =>
      obtain ⟨first, others⟩ := List.forall_mem_cons.mp printable
      have written : value.write = .ok value.literal := if_pos first
      have shifted : (rest.mapIdx fun offset => stackEntry (index + (offset + 1))) =
          rest.mapIdx fun offset => stackEntry (index + 1 + offset) := by
        congr 1
        funext offset
        rw [Nat.add_assoc, Nat.add_comm 1]
      rw [numberedLines, ih others, written, List.mapIdx_cons, shifted]
      rfl

theorem numberedLines_take (count : Nat) :
    numberedLines 0 (stack.take count) = .of ((stack.take count).mapIdx stackEntry) := by
  rw [numberedLines_of_printable fun value member => printable value (List.mem_of_mem_take member)]
  congr 2
  funext offset
  rw [Nat.zero_add]

theorem viewTop_of_printable (wording : StackWording) {count : Int} (least : 1 ≤ count)
    (most : count ≤ wording.bound) :
    viewTop wording stack count =
      .of ((wording.lead ++ "Stack slice (top is [0]):") :: (stack.take count.toNat).mapIdx stackEntry) := by
  have inside : ¬ (count < 0 ∨ (wording.bound : Int) < count) := by omega
  have some_ : count ≠ 0 := by omega
  rw [viewTop, if_neg inside, if_neg some_, numberedLines_take printable]
  rfl

end

section

variable {lead : String} (leads : lead = "" ∨ lead = "\n")
include leads

theorem entries_of_heading {heading : String} (plain : heading.toList.head? ≠ some '[') (stack : List Value) :
    (Printout.of ((lead ++ heading) :: stack.mapIdx stackEntry)).entries = stack.mapIdx stackEntry := by
  have apart : ¬ ((lead ++ heading).toList.head? == some '[') = true := by
    rcases leads with rfl | rfl
    · simpa using plain
    · simp
  change List.filter _ ((lead ++ heading) :: stack.mapIdx stackEntry) = _
  rw [List.filter_cons, if_neg apart, List.filter_eq_self]
  intro line member
  obtain ⟨index, _, rfl⟩ := List.mem_mapIdx.mp member
  simp [stackEntry]

theorem entries_of_message {message : String} (plain : message.toList.head? ≠ some '[') :
    (Printout.of [lead ++ message]).entries = [] :=
  entries_of_heading leads plain []

theorem entries_viewTop {stack : List Value} (printable : ∀ value ∈ stack, value.printable = true) (bound : Nat)
    (count : Int) :
    (viewTop ⟨lead, bound⟩ stack count).entries =
      (stack.take (if count < 0 ∨ bound < count then 0 else count.toNat)).mapIdx stackEntry := by
  by_cases outside : count < 0 ∨ (bound : Int) < count
  · have plain : ("Index out of range (0.." ++ (toString bound ++ ")")).toList.head? ≠ some '[' := by simp
    rw [viewTop, if_pos outside, if_pos outside, String.append_assoc, String.append_assoc,
      entries_of_message leads plain]
    rfl
  · rw [if_neg outside]
    by_cases none : count = 0
    · rw [viewTop, if_neg outside, if_pos none, entries_of_message leads (by decide), none]
      rfl
    · rw [viewTop_of_printable printable ⟨lead, bound⟩ (by omega) (by dsimp only; omega)]
      exact entries_of_heading leads (by decide) _

theorem entries_viewStackBy {stack : List Value} (printable : ∀ value ∈ stack, value.printable = true) (bound : Nat)
    (request : List Char) :
    (viewStackBy ⟨lead, bound⟩ stack request).entries =
      (stack.take (shownCount bound stack.length request)).mapIdx stackEntry := by
  unfold viewStackBy shownCount
  by_cases empty : request.isEmpty = true
  · rw [if_pos empty, if_pos empty]
    have all : numberedLines 0 stack = .of (stack.mapIdx stackEntry) := by
      simpa only [List.take_length] using numberedLines_take printable stack.length
    rw [all, List.take_length]
    exact entries_of_heading leads (by decide) stack
  · rw [if_neg empty, if_neg empty]
    have refused : (Printout.of [lead ++ "Incorrect input. Usage: stack [N]"]).entries = [] :=
      entries_of_message leads (by decide)
    cases Text.words request with
    | nil => exact refused
    | cons word others =>
        cases others with
        | cons _ _ => exact refused
        | nil =>
            dsimp only
            cases Numeral.integer? word with
            | some count => exact entries_viewTop leads printable bound count
            | none =>
                exact @entries_of_message lead leads "Arguments must be numbers!" (by decide)

end

theorem Machine.showStack_of_text {machine : Machine} (some_ : machine.stack ≠ []) (request : List Char) :
    machine.showStack (some (.text (String.ofList request))) =
      viewStackBy ⟨"", machine.stack.length - 1⟩ machine.stack request := by
  have given : ¬ machine.stack.isEmpty = true := by simpa using some_
  have shown : (Value.text (String.ofList request)).show = .ok request := by
    unfold Value.show
    rw [if_pos (show (Value.text (String.ofList request)).printable = true from rfl), Value.display,
      String.toList_ofList]
  simp only [showStack, if_neg given, shown]

theorem Value.show_of_decimal {count : Nat} {request : List Char} (fits : Numeral.fitsDecimal count = true)
    (numeral : Numeral.decimal count = request) : (Value.int count).show = .ok request := by
  rw [Value.show_int fits, numeral]

theorem viewStackBy_of_numeral {count : Nat} {request : List Char} (shown : (Value.int count).show = .ok request)
    (wording : StackWording) (stack : List Value) :
    viewStackBy wording stack request = viewTop wording stack count := by
  unfold Value.show at shown
  split at shown
  · next fits =>
      obtain rfl := Except.ok.inj shown
      have words : Text.words (Numeral.decimal count) = [Numeral.decimal count] :=
        Text.words_of_all (Numeral.decimal_ne_nil _) fun _ => Numeral.isBlank_of_mem_decimal
      have given : ¬ (Numeral.decimal count).isEmpty = true := by
        simpa using Numeral.decimal_ne_nil count
      change viewStackBy wording stack (Numeral.decimal count) = _
      rw [viewStackBy, if_neg given, words]
      dsimp only
      rw [Numeral.integer?_decimal fits]
  · cases shown

namespace Debugger

def Functions.State.stackView (state : Functions.State) (request : List Char) : Printout :=
  viewStack ⟨"\n", state.machine.stack.length⟩ state.machine.stack request

/-- A stack of integers and texts that is not empty. Asked by number for values from the top, the machine's own view
shows them, a line for each, unless all are asked for: then it shows none. The `stack` command of the debugger shows the
same entries at every request but that one. -/
theorem showStack_shows_top_unless_all (machine : Machine) (some_ : machine.stack ≠ [])
    (writable : ∀ value ∈ machine.stack, value.Writable) :
    (∀ (count : Nat) (request : List Char), 1 ≤ count → count ≤ machine.stack.length →
      (Value.int count).show = .ok request →
      machine.showStack (some (.text (String.ofList request))) =
        if count < machine.stack.length then
          .of ("Stack slice (top is [0]):" :: (machine.stack.take count).mapIdx stackEntry)
        else .of ["Index out of range (0.." ++ toString (machine.stack.length - 1) ++ ")"]) ∧
    ∀ (state : Functions.State) (request : List Char), state.machine.stack = machine.stack →
      Functions.answer state ⟨.stack, request⟩ = state.report (state.stackView request) ∧
      ((machine.showStack (some (.text (String.ofList request)))).entries = (state.stackView request).entries ↔
        ¬ Requests request machine.stack.length) := by
  have printable : ∀ value ∈ machine.stack, value.printable = true :=
    fun value member => (writable value member).printable
  constructor
  · intro count request least most shown
    rw [Machine.showStack_of_text some_, viewStackBy_of_numeral shown]
    split
    · next fewer =>
        have bounded : (count : Int) ≤ (machine.stack.length - 1 : Nat) := by omega
        exact viewTop_of_printable printable ⟨"", machine.stack.length - 1⟩ (by omega) bounded
    · have beyond : (count : Int) < 0 ∨ ((machine.stack.length - 1 : Nat) : Int) < count := by omega
      rw [viewTop, if_pos beyond]
      rfl
  · intro state request same
    refine ⟨rfl, ?_⟩
    have given : ¬ state.machine.stack.isEmpty = true := by simpa [same] using some_
    have few := shownCount_le (Nat.sub_le machine.stack.length 1) request
    have all := shownCount_le (Nat.le_refl machine.stack.length) request
    rw [Machine.showStack_of_text some_, Functions.State.stackView, viewStack, if_neg given, same,
      entries_viewStackBy (.inl rfl) printable, entries_viewStackBy (.inr rfl) printable,
      ← shownCount_eq_iff (List.length_pos_iff.mpr some_)]
    constructor
    · intro shown
      have counts := congrArg List.length shown
      rw [List.length_mapIdx, List.length_mapIdx, List.length_take_of_le few, List.length_take_of_le all] at counts
      exact counts
    · intro counts
      rw [counts]

/-- A stack of three values, the top first. -/
def threeValues : Machine :=
  { stack := [.text "it's", .int (-7), .text ""] }

def viewingThree : Functions.State where
  settings := ⟨false, true, .adaptive, 10⟩
  files := ⟨[]⟩
  machine := threeValues
  console := {}
  program := .empty

/-- The top two of three values are shown, and all three are refused. The debugger shows all three at that request, and
agrees with the machine at one for fewer than none. -/
theorem showStack_shows_top_unless_all_three :
    (threeValues.showStack (some (.text "2"))).lines = ["Stack slice (top is [0]):", "[0] \"it's\"", "[1] -7"] ∧
    (threeValues.showStack (some (.text "3"))).lines = ["Index out of range (0..2)"] ∧
    (threeValues.showStack (some (.text " +3"))).entries ≠ (viewingThree.stackView " +3".toList).entries ∧
    (threeValues.showStack (some (.text "-1"))).entries = (viewingThree.stackView "-1".toList).entries := by
  have writable : ∀ value ∈ threeValues.stack, value.Writable := by
    intro value member
    simp only [threeValues, List.mem_cons, List.not_mem_nil, or_false] at member
    rcases member with rfl | rfl | rfl
    · exact .text
    · exact .int (by decide +kernel)
    · exact .text
  obtain ⟨top, alike⟩ := showStack_shows_top_unless_all threeValues (List.cons_ne_nil _ _) writable
  have two := top 2 "2".toList (by decide) (by decide) (Value.show_of_decimal (by decide +kernel) (by decide +kernel))
  have three := top 3 "3".toList (by decide) (by decide) (Value.show_of_decimal (by decide +kernel) (by decide +kernel))
  have all := (alike viewingThree " +3".toList rfl).2
  have none := (alike viewingThree "-1".toList rfl).2
  rw [String.ofList_toList] at two three all none
  rw [two, three]
  refine ⟨by decide +kernel, by decide +kernel, ?_, none.mpr ?_⟩
  · intro same
    exact all.mp same ⟨"+3".toList, by decide +kernel, by decide +kernel⟩
  · rintro ⟨word, words, denotes⟩
    have given : Text.words "-1".toList = ["-1".toList] := by decide +kernel
    obtain rfl := (List.cons.inj (given.symm.trans words)).1
    exact absurd denotes (by decide +kernel)

/-- A view of the only value of a stack, asked for by number, does not show it. -/
theorem showStack_refuses_all :
    ¬ ∀ (machine : Machine) (count : Nat) (request : List Char), machine.stack ≠ [] →
      (∀ value ∈ machine.stack, value.Writable) → 1 ≤ count → count ≤ machine.stack.length →
      (Value.int count).show = .ok request →
      machine.showStack (some (.text (String.ofList request))) =
        .of ("Stack slice (top is [0]):" :: (machine.stack.take count).mapIdx stackEntry) := by
  intro shows
  have writable : ∀ value ∈ [Value.int 5], value.Writable := by
    intro value member
    obtain rfl := List.mem_singleton.mp member
    exact .int (by decide +kernel)
  have one := shows { stack := [.int 5] } 1 "1".toList (List.cons_ne_nil _ _) writable (by decide) (by decide)
    (Value.show_of_decimal (by decide +kernel) (by decide +kernel))
  have lines := congrArg (fun printout : Printout => printout.lines.length) one
  exact absurd lines (by decide +kernel)

end Debugger

end StackMachine

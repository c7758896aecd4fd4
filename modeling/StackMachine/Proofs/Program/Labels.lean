import StackMachine.Program
import StackMachine.Proofs.Listing.Reading

/-!
Where the labels of a program stand. The labels of a function that was read stand at its own instructions,
so that a jump cannot leave the function that makes it.
-/

set_option autoImplicit false

namespace StackMachine

theorem sameKey_eq_true_iff {left right : Option Key} :
    sameKey left right = true ↔ ∃ key, left = some key ∧ right = some key := by
  constructor
  · intro same
    cases left with
    | none => cases same
    | some key =>
        cases right with
        | none => cases same
        | some other =>
            obtain rfl := of_decide_eq_true same
            exact ⟨key, rfl, rfl⟩
  · rintro ⟨key, rfl, rfl⟩
    exact decide_eq_true rfl

theorem Value.eq_text_of_sameKey {name : Value} {text : String}
    (same : sameKey name.key? (Value.text text).key? = true) : name = .text text := by
  obtain ⟨key, nameKey, textKey⟩ := sameKey_eq_true_iff.mp same
  obtain rfl := Option.some.inj textKey
  cases name with
  | text other =>
      cases nameKey
      rfl
  | float x =>
      simp only [Value.key?] at nameKey
      split at nameKey
      · cases nameKey
      · split at nameKey <;> cases nameKey
  | _ => cases nameKey

theorem Table.find?_store {α : Type} (key : Option Key) (name : Value) (content : α)
    (entries : List (Value × α)) :
    find? key (store name content entries) =
      if sameKey name.key? key then some content else find? key entries := by
  induction entries with
  | nil => rfl
  | cons entry rest ih =>
      obtain ⟨other, old⟩ := entry
      rw [store]
      by_cases replaced : sameKey other.key? name.key? = true
      · obtain ⟨own, otherKey, nameKey⟩ := sameKey_eq_true_iff.mp replaced
        rw [if_pos replaced, find?, find?, otherKey, nameKey]
        by_cases found : sameKey (some own) key = true
        · rw [if_pos found, if_pos found]
        · rw [if_neg found, if_neg found, if_neg found]
      · rw [if_neg replaced, find?, ih]
        by_cases found : sameKey other.key? key = true
        · -- The entry found first is another than the one stored, so its key is not the name's.
          have different : ¬ sameKey name.key? key = true := by
            intro same
            obtain ⟨own, otherKey, ownKey⟩ := sameKey_eq_true_iff.mp found
            obtain ⟨next, nameKey, nextKey⟩ := sameKey_eq_true_iff.mp same
            obtain rfl := Option.some.inj (ownKey.symm.trans nextKey)
            exact replaced (sameKey_eq_true_iff.mpr ⟨own, otherKey, nameKey⟩)
          rw [if_pos found, if_neg different, find?, if_pos found]
        · rw [if_neg found, find?, if_neg found]

/-- What a table holds after storing: the new content under keys equal to the name's, and what it held
before under all others. -/
theorem Table.get?_insert {α : Type} (table : Table α) (name key : Value) (content : α) :
    (table.insert name content).get? key =
      if sameKey name.key? key.key? then some content else table.get? key :=
  find?_store key.key? name content table.entries

/-- Labels that stand at the first `count` instructions. -/
def Labels.Within (labels : Labels) (count : Nat) : Prop :=
  ∀ target index, labels.get? target = some index → 0 ≤ index ∧ index < count

theorem Listing.within_addLabels {labels result : Labels} {index count : Nat} {code : List Instruction}
    (within : labels.Within count) (added : addLabels labels index code = .ok result)
    (fits : index + code.length ≤ count) : result.Within count := by
  induction code generalizing labels index with
  | nil =>
      obtain rfl := Except.ok.inj added
      exact within
  | cons instruction rest ih =>
      rw [List.length_cons] at fits
      have fits' : index + 1 + rest.length ≤ count := by omega
      rw [addLabels] at added
      by_cases isLabel : instruction.is .label = true
      · rw [if_pos isLabel] at added
        cases args : instruction.args with
        | nil => simp [args] at added
        | cons name others =>
            simp only [args] at added
            split at added
            · refine ih ?_ added fits'
              intro target place found
              rw [Table.get?_insert] at found
              split at found
              · obtain rfl := Option.some.inj found
                omega
              · exact within target place found
            · cases added
      · rw [if_neg isLabel] at added
        exact ih within added fits'

theorem Listing.within_labels {code : List Instruction} {result : Labels}
    (linked : labels code = .ok result) : result.Within code.length := by
  have none : Labels.Within .empty code.length := by
    intro target index found
    cases found
  exact within_addLabels none linked (by omega)

/-- Whether an instruction is a label with a given name. -/
def Instruction.declares (instruction : Instruction) (name : String) : Bool :=
  instruction.is .label &&
    match instruction.args with
    | .text other :: _ => other == name
    | _ => false

/-- The index of the last label of a code list that has a given name. -/
def Listing.lastLabel? (name : String) : List Instruction → Option Nat
  | [] => none
  | instruction :: rest =>
    match lastLabel? name rest with
    | some index => some (index + 1)
    | none => if instruction.declares name then some 0 else none

/-- Labels that tell where the names of a code list's labels stand, the last one where a name comes again. -/
def Labels.Locate (labels : Labels) (code : List Instruction) : Prop :=
  ∀ name, labels.get? (.text name) = (Listing.lastLabel? name code).map Int.ofNat

/-- Whether an instruction is a label whose first argument has the key of a value. -/
def Instruction.labelled (instruction : Instruction) (name : Value) : Bool :=
  instruction.is .label && instruction.args.head?.any fun own => sameKey own.key? name.key?

/-- The index of the last label of a code list that has the key of a value. -/
def Listing.lastLabelled? (name : Value) : List Instruction → Option Nat
  | [] => none
  | instruction :: rest =>
    match lastLabelled? name rest with
    | some index => some (index + 1)
    | none => if instruction.labelled name then some 0 else none

/-- Labels that map the first arguments of a code list's labels to their indices and nothing else, the last index
where a name comes again. -/
def Labels.Chart (labels : Labels) (code : List Instruction) : Prop :=
  ∀ name, labels.get? name = (Listing.lastLabelled? name code).map Int.ofNat

theorem Instruction.labelled_text (instruction : Instruction) (name : String) :
    instruction.labelled (.text name) = instruction.declares name := by
  unfold labelled declares
  cases instruction.args with
  | nil => rfl
  | cons own others =>
      congr 1
      apply Bool.eq_iff_iff.mpr
      constructor
      · intro same
        obtain rfl := Value.eq_text_of_sameKey same
        exact beq_self_eq_true name
      · intro declared
        cases own with
        | text other =>
            rw [beq_iff_eq.mp declared]
            exact decide_eq_true rfl
        | _ => cases declared

theorem Labels.chart_congr {labels : Labels} {old new : List Instruction} (chart : labels.Chart old) :
    labels.Chart new ↔ ∀ name, Listing.lastLabelled? name old = Listing.lastLabelled? name new := by
  constructor
  · intro other name
    have same := (chart name).symm.trans (other name)
    exact Option.map_injective (fun _ _ => Int.ofNat.inj) same
  · intro same name
    rw [chart name, same name]

namespace Listing

theorem lastLabelled?_text (name : String) (code : List Instruction) :
    lastLabelled? (.text name) code = lastLabel? name code := by
  induction code with
  | nil => rfl
  | cons instruction rest ih => rw [lastLabelled?, lastLabel?, ih, Instruction.labelled_text]

theorem get?_addLabels {labels result : Labels} {start : Nat} {code : List Instruction}
    (added : addLabels labels start code = .ok result) (name : Value) :
    result.get? name =
      match lastLabelled? name code with
      | some index => some (Int.ofNat (start + index))
      | none => labels.get? name := by
  induction code generalizing labels start with
  | nil =>
      obtain rfl := Except.ok.inj added
      rfl
  | cons instruction rest ih =>
      rw [addLabels] at added
      rw [lastLabelled?]
      by_cases isLabel : instruction.is .label = true
      · rw [if_pos isLabel] at added
        cases args : instruction.args with
        | nil => simp [args] at added
        | cons own others =>
            have labelled : instruction.labelled name = sameKey own.key? name.key? := by
              rw [Instruction.labelled, isLabel, args, List.head?_cons, Option.any_some, Bool.true_and]
            simp only [args] at added
            split at added
            · rw [ih added, labelled, Table.get?_insert]
              cases lastLabelled? name rest with
              | some index => simp only [Nat.add_assoc, Nat.add_comm 1]
              | none =>
                  by_cases same : sameKey own.key? name.key? = true
                  · simp only [same, if_true, Nat.add_zero]
                    rfl
                  · simp only [same, Bool.false_eq_true, if_false]
            · cases added
      · rw [if_neg isLabel] at added
        have unlabelled : instruction.labelled name = false := by simp [Instruction.labelled, isLabel]
        rw [ih added, unlabelled]
        cases lastLabelled? name rest with
        | some index => simp only [Nat.add_assoc, Nat.add_comm 1]
        | none => simp only [Bool.false_eq_true, if_false]

theorem lastLabel?_lt {name : String} {code : List Instruction} {place : Nat}
    (found : lastLabel? name code = some place) : place < code.length := by
  induction code generalizing place with
  | nil => cases found
  | cons instruction rest ih =>
      rw [lastLabel?] at found
      rw [List.length_cons]
      cases later : lastLabel? name rest with
      | some index =>
          rw [later] at found
          obtain rfl := Option.some.inj found
          exact Nat.succ_lt_succ (ih later)
      | none =>
          rw [later] at found
          dsimp only at found
          split at found <;> cases found
          exact Nat.succ_pos rest.length

theorem chart_labels {code : List Instruction} {result : Labels} (linked : labels code = .ok result) :
    result.Chart code := by
  intro name
  rw [get?_addLabels linked]
  cases lastLabelled? name code with
  | none => rfl
  | some index => simp

theorem locate_labels {code : List Instruction} {result : Labels} (linked : labels code = .ok result) :
    result.Locate code := by
  intro name
  rw [chart_labels linked, lastLabelled?_text]

end Listing

def Function.LabelsInside (function : Function) : Prop :=
  function.labels.Within function.instructions.length

namespace Program

/-- A program whose functions have their labels inside. -/
def LabelsInside (program : Program) : Prop :=
  ∀ name function, program.function name = .ok function → function.LabelsInside

/-- A program whose functions have the labels that their instructions give them. -/
def Linked (program : Program) : Prop :=
  ∀ name function, program.function name = .ok function →
    Listing.labels function.instructions = .ok function.labels

theorem linked_of_readBody {link : Bool} {text : List Char} {function : Function}
    (read : readBody link text = .ok (.linked function)) :
    Listing.read text = .ok function.instructions ∧
      Listing.labels function.instructions = .ok function.labels := by
  obtain ⟨instructions, code, read⟩ := exists_of_bind_eq_ok read
  cases link with
  | false => cases read
  | true =>
      obtain ⟨labels, linked, read⟩ := exists_of_bind_eq_ok read
      cases read
      exact ⟨code, linked⟩

theorem mem_bodies_of_function {program : Program} {name : Value} {function : Function}
    (loaded : program.function name = .ok function) :
    ∃ text, name = .text text ∧ (text, .linked function) ∈ program.bodies := by
  unfold Program.function at loaded
  cases name with
  | text text =>
      cases found : program.body? text with
      | none => simp [found] at loaded
      | some body =>
          cases body with
          | unlinked => simp [found] at loaded
          | linked other =>
              simp only [found, Except.ok.injEq] at loaded
              obtain ⟨before, after, bodies, -⟩ := List.lookup_eq_some_iff.mp found
              exact ⟨text, rfl, by simp [bodies, loaded]⟩
  | _ => simp at loaded

theorem exists_readBody_of_read {link : Bool} {text : List Char} {program : Program}
    (read : Program.read link text = .ok program) {name : Value} {function : Function}
    (loaded : program.function name = .ok function) : ∃ body, readBody link body = .ok (.linked function) := by
  obtain ⟨title, -, member⟩ := mem_bodies_of_function loaded
  obtain ⟨bodies, translated, read⟩ := exists_of_bind_eq_ok read
  cases read
  obtain ⟨⟨source, listing⟩, -, named⟩ := exists_mem_of_mapM_eq_ok translated member
  obtain ⟨body, read, named⟩ := exists_of_bind_eq_ok named
  cases named
  exact ⟨listing, read⟩

theorem linked_of_read {link : Bool} {text : List Char} {program : Program}
    (read : Program.read link text = .ok program) : program.Linked := by
  intro name function loaded
  obtain ⟨body, readBody⟩ := exists_readBody_of_read read loaded
  exact (linked_of_readBody readBody).2

/-- The labels of a program that was read stand at instructions of their own functions. -/
theorem labelsInside_of_read {link : Bool} {text : List Char} {program : Program}
    (read : Program.read link text = .ok program) : program.LabelsInside := by
  intro name function loaded
  exact Listing.within_labels (linked_of_read read name function loaded)

theorem labelsInside_empty : Program.empty.LabelsInside := by
  intro name function loaded
  obtain ⟨title, -, member⟩ := mem_bodies_of_function loaded
  cases member

end Program

end StackMachine

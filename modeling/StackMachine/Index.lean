import StackMachine.Fault

/-!
Items of lists by integer index.
-/

set_option autoImplicit false

namespace StackMachine

/-- The item of a list at an index; a negative index counts from the end. -/
def itemAt? {α : Type} (items : List α) (index : Int) : Option α :=
  if 0 ≤ index then items[index.toNat]?
  else if -index ≤ items.length then items[(items.length + index).toNat]?
  else none

/-- Indexes from this one on, and below its opposite, are larger than any list. -/
def indexBound : Int := Int.pow 2 63

/-- Whether an index is within what a list could have. -/
def fitsIndex (index : Int) : Bool :=
  -indexBound ≤ index && index < indexBound

/-- The fault of an index at which there is nothing. -/
def Fault.badIndex (index : Int) : Fault :=
  if fitsIndex index then .indexOutOfRange else .indexTooLarge

/-- The item of a list at an index, or the fault if there is none. -/
def itemAt {α : Type} (items : List α) (index : Int) : Except Fault α :=
  match itemAt? items index with
  | some item => .ok item
  | none => .error (.badIndex index)

theorem getElem?_of_itemAt {α : Type} {items : List α} {index : Int} {item : α} (natural : 0 ≤ index)
    (found : itemAt items index = .ok item) : items[index.toNat]? = some item := by
  unfold itemAt itemAt? at found
  rw [if_pos natural] at found
  cases at_ : items[index.toNat]? with
  | none => simp [at_] at found
  | some other =>
      simp only [at_, Except.ok.injEq] at found
      rw [found]

theorem mem_of_itemAt {α : Type} {items : List α} {index : Int} {item : α}
    (found : itemAt items index = .ok item) : item ∈ items := by
  unfold itemAt at found
  cases at_ : itemAt? items index with
  | none => simp [at_] at found
  | some other =>
      simp only [at_, Except.ok.injEq] at found
      subst found
      unfold itemAt? at at_
      split at at_
      · exact List.mem_of_getElem? at_
      · split at at_
        · exact List.mem_of_getElem? at_
        · cases at_

theorem itemAt_of_getElem? {α : Type} {items : List α} {index : Int} {item : α} (natural : 0 ≤ index)
    (present : items[index.toNat]? = some item) : itemAt items index = .ok item := by
  unfold itemAt itemAt?
  rw [if_pos natural, present]

theorem exists_itemAt {α : Type} {items : List α} {index : Int} (natural : 0 ≤ index)
    (inside : index < items.length) : ∃ item, itemAt items index = .ok item := by
  have bound : index.toNat < items.length := by omega
  exact ⟨items[index.toNat], itemAt_of_getElem? natural (List.getElem?_eq_getElem bound)⟩

end StackMachine

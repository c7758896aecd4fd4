import Mathlib.Tactic.Ring
import StackMachine.Machine.Run
import StackMachine.Proofs.Listing.Reading
import StackMachine.Proofs.Machine.Console
import StackMachine.Proofs.Numeral.Decimal

/-!
A loop that sums up the integers from one to a bound that is read. Its condition is tested by a branch that leads
out of the loop, and a jump at the end of its body leads back to the test. After each round the sum is that of
the integers counted so far, so that the loop ends with the whole sum, and with none if the bound is below one.
-/

set_option autoImplicit false

namespace StackMachine.Summation

open Numeral

def listing : String :=
  "INPUT_NUMBER\nSTORE_VAR \"N\"\nLOAD_CONST 0\nSTORE_VAR \"s\"\nLOAD_CONST 1\nSTORE_VAR \"i\"\n\n" ++
  "LABEL for_condition\nLOAD_VAR \"N\"\nLOAD_VAR \"i\"\nGT\nCJMP after_for\n\n" ++
  "LABEL for_loop_body\nLOAD_VAR \"s\"\nLOAD_VAR \"i\"\nADD\nSTORE_VAR \"s\"\n\n" ++
  "LABEL count_inc\nLOAD_VAR \"i\"\nLOAD_CONST 1\nADD\nSTORE_VAR \"i\"\nJMP for_condition\n\n" ++
  "LABEL after_for\nLOAD_VAR \"s\"\nPRINT\n"

def code : List Instruction := [
  -- From 0: the bound is read, the sum starts at zero and the counter at one.
  .of .inputNumber [], .of .storeVar [.text "N"],
  .of .loadConst [.int 0], .of .storeVar [.text "s"],
  .of .loadConst [.int 1], .of .storeVar [.text "i"],
  -- From 6: the counter, on top, is compared with the bound.
  .of .label [.text "for_condition"],
  .of .loadVar [.text "N"], .of .loadVar [.text "i"], .of (.compare .gt) [],
  .of .branch [.text "after_for"],
  -- From 11: the counter is added to the sum, then raised by one.
  .of .label [.text "for_loop_body"],
  .of .loadVar [.text "s"], .of .loadVar [.text "i"], .of (.arithmetic .add) [],
  .of .storeVar [.text "s"],
  .of .label [.text "count_inc"],
  .of .loadVar [.text "i"], .of .loadConst [.int 1], .of (.arithmetic .add) [],
  .of .storeVar [.text "i"],
  .of .jump [.text "for_condition"],
  -- From 22: the sum is printed.
  .of .label [.text "after_for"], .of .loadVar [.text "s"], .of .print []]

def labels : Labels :=
  ⟨[(.text "for_condition", 6), (.text "for_loop_body", 11), (.text "count_inc", 16),
    (.text "after_for", 22)]⟩

theorem read_listing : Listing.read listing.toList = .ok code := by
  unfold listing
  repeat rw [String.toList_append]
  repeat rw [Text.toList_of_spelling rfl]
  rfl

/-- The machine inside or behind the loop. -/
def looping (stack : List Value) (bound sum counter ip : Int) : Machine where
  stack := stack
  bindings := ⟨[(.text "N", .int bound), (.text "s", .int sum), (.text "i", .int counter)]⟩
  ip := ip

def answering (answers : List Value) : Console where
  feed := some ⟨.prompted, .list answers⟩

/-- A number of instructions lead from one machine to the other, whatever the console is, and leave it alone. -/
def Leads (count : Nat) (machine last : Machine) : Prop :=
  ∀ console visited, ∃ since,
    Run.forward labels code count ⟨machine, console, visited⟩ = (⟨last, console, since⟩, .outOfFuel)

theorem Leads.trans {first second : Nat} {machine middle last : Machine} (leads : Leads first machine middle)
    (onward : Leads second middle last) : Leads (first + second) machine last := by
  intro console visited
  obtain ⟨since, went⟩ := leads console visited
  rw [Run.forward_add went]
  exact onward console since

theorem starts (bound : Int) :
    Run.forward labels code 6 ⟨{}, answering [.int bound], []⟩ =
      (⟨looping [] bound 0 1 6, answering [], [5, 4, 3, 2, 1, 0]⟩, .outOfFuel) := by rfl

section

variable (bound sum counter : Int)

theorem tests :
    Leads 4 (looping [] bound sum counter 6)
      (looping [.int (if decide (counter > bound) then 1 else 0)] bound sum counter 10) :=
  fun _ _ => ⟨_, rfl⟩

theorem adds :
    Leads 6 (looping [.int 0] bound sum counter 10) (looping [] bound (counter + sum) counter 16) :=
  fun _ _ => ⟨_, rfl⟩

theorem counts :
    Leads 6 (looping [] bound sum counter 16) (looping [] bound sum (1 + counter) 6) :=
  fun _ _ => ⟨_, rfl⟩

theorem leaves :
    Leads 3 (looping [.int 1] bound sum counter 10) (looping [.int sum] bound sum counter 24) :=
  fun _ _ => ⟨_, rfl⟩

variable {bound sum counter}

theorem round_leads (within : counter ≤ bound) :
    Leads 16 (looping [] bound sum counter 6) (looping [] bound (counter + sum) (1 + counter) 6) := by
  have test := tests bound sum counter
  rw [decide_eq_false (Int.not_lt.mpr within)] at test
  exact test.trans ((adds bound sum counter).trans (counts bound (counter + sum) counter))

theorem exit_leads (beyond : bound < counter) :
    Leads 7 (looping [] bound sum counter 6) (looping [.int sum] bound sum counter 24) := by
  have test := tests bound sum counter
  rw [decide_eq_true beyond] at test
  exact test.trans (leaves bound sum counter)

end

/-- The sum of the integers from one to a number. -/
def triangle (count : Nat) : Int :=
  count * (count + 1) / 2

theorem triangle_succ (count : Nat) : triangle (count + 1) = (count + 1) + triangle count := by
  have next : ((count + 1 : Nat) : Int) * ((count + 1 : Nat) + 1) = count * (count + 1) + (count + 1) * 2 := by
    push_cast
    ring
  rw [triangle, next, Int.add_mul_ediv_right _ _ (by decide), Int.add_comm, triangle]

/-- The loop after a number of rounds: that many integers have been summed up, and the next one is due. -/
theorem rounds_lead {bound : Int} {count : Nat} (within : count ≤ bound.toNat) :
    Leads (16 * count) (looping [] bound 0 1 6) (looping [] bound (triangle count) (count + 1) 6) := by
  induction count with
  | zero => exact fun _ visited => ⟨visited, rfl⟩
  | succ count ih =>
      have counter : ((count + 1 : Nat) : Int) + 1 = 1 + (count + 1) := by omega
      rw [triangle_succ, counter]
      exact (ih (by omega)).trans (round_leads (by omega))

/-- What the loop comes to for a bound. -/
def total (bound : Int) : Int :=
  if 1 ≤ bound then bound * (bound + 1) / 2 else 0

theorem triangle_toNat (bound : Int) : triangle bound.toNat = total bound := by
  unfold total
  split
  · next positive =>
      rw [triangle, Int.toNat_of_nonneg (by omega)]
  · next below =>
      rw [Int.toNat_of_nonpos (by omega)]
      rfl

theorem fitsDecimal_total {bound : Int} (fits : fitsDecimal (bound * (bound + 1) / 2) = true) :
    fitsDecimal (total bound) = true := by
  unfold total
  split
  · exact fits
  · decide +kernel

/-- The loop ends after one round for each integer from one to the bound. -/
theorem loop_leads (bound : Int) :
    Leads (16 * bound.toNat + 7) (looping [] bound 0 1 6)
      (looping [.int (total bound)] bound (total bound) (max bound 0 + 1) 24) := by
  rw [← triangle_toNat, ← Int.toNat_eq_max]
  exact (rounds_lead (Nat.le_refl _)).trans (exit_leads (by omega))

/-- The console after the sum has been printed. Nothing is left to be read. -/
def printing (sum : Int) : Console :=
  { (answering []).writeLine (String.ofList (decimal sum)) with printed := [.int sum] }

theorem prints (bound counter : Int) {sum : Int} (fits : fitsDecimal sum = true) (visited : List Int) :
    Run.forward labels code 1 ⟨looping [.int sum] bound sum counter 24, answering [], visited⟩ =
      (⟨looping [] bound sum counter 25, printing sum, 24 :: visited⟩, .outOfFuel) := by
  let run : Run := ⟨looping [.int sum] bound sum counter 24, answering [], visited⟩
  have inside : run.machine.ip < code.length := show (24 : Int) < 25 by decide
  have executed : run.machine.execute labels run.console (.of .print []) =
      .done (looping [] bound sum counter 24) (printing sum) :=
    Machine.execute_print labels run.console rfl (Value.show_int fits)
  have advanced : run.advance labels code =
      (⟨looping [] bound sum counter 25, printing sum, 24 :: visited⟩, .going) :=
    Run.advance_of_done inside rfl executed
  rw [Run.forward, advanced]
  rfl

/-- The listing can be read and its labels can be found. For every bound whose sum keeps to the digit limit, a new
machine that is given the bound to read then comes to the end of the code, by sixteen instructions for each
integer from one to the bound and fourteen more. It has printed exactly one object, the sum, and has nothing left
but the three variables. -/
theorem forward_prints_sum (bound : Int) (fits : fitsDecimal (bound * (bound + 1) / 2) = true) :
    ∃ instructions places final, Listing.read listing.toList = .ok instructions ∧
      Listing.labels instructions = .ok places ∧
      (∀ fuel, 16 * bound.toNat + 14 < fuel →
        Run.forward places instructions fuel ⟨{}, { feed := some ⟨.prompted, .list [.int bound]⟩ }, []⟩ =
          (final, .finished)) ∧
      final.console.printed = [.int (if 1 ≤ bound then bound * (bound + 1) / 2 else 0)] ∧
      final.console.feed = some ⟨.prompted, .list []⟩ ∧
      final.machine = {
        stack := []
        bindings := ⟨[(.text "N", .int bound),
          (.text "s", .int (if 1 ≤ bound then bound * (bound + 1) / 2 else 0)),
          (.text "i", .int (max bound 0 + 1))]⟩
        frames := []
        saved := []
        ip := 25
        current := .text entryPoint } := by
  obtain ⟨since, looped⟩ := loop_leads bound (answering []) [5, 4, 3, 2, 1, 0]
  refine ⟨code, labels,
    ⟨looping [] bound (total bound) (max bound 0 + 1) 25, printing (total bound), 24 :: since⟩,
    read_listing, rfl, ?_, rfl, rfl, rfl⟩
  intro fuel enough
  obtain ⟨rest, rfl⟩ := Nat.exists_eq_add_of_lt enough
  have parts : 16 * bound.toNat + 14 + rest + 1 = 6 + (16 * bound.toNat + 7 + (1 + (rest + 1))) := by omega
  rw [parts]
  calc
    Run.forward labels code (6 + (16 * bound.toNat + 7 + (1 + (rest + 1)))) ⟨{}, answering [.int bound], []⟩
    _ = _ := Run.forward_add (starts bound) _
    _ = _ := Run.forward_add looped _
    _ = _ := Run.forward_add (prints bound _ (fitsDecimal_total fits) since) _
    _ = _ := Run.forward_of_past (Int.lt_irrefl 25) (Nat.succ_pos rest)

theorem forward_prints_sum_hundred :
    ∃ instructions places final, Listing.read listing.toList = .ok instructions ∧
      Listing.labels instructions = .ok places ∧
      Run.forward places instructions 1615 ⟨{}, { feed := some ⟨.prompted, .list [.int 100]⟩ }, []⟩ =
        (final, .finished) ∧ final.console.printed = [.int 5050] := by
  obtain ⟨instructions, places, final, read, found, runs, printed, -⟩ := forward_prints_sum 100 (by decide +kernel)
  exact ⟨instructions, places, final, read, found, runs 1615 (by decide), printed⟩

end StackMachine.Summation

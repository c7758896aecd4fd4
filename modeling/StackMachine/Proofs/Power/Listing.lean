import StackMachine.Power.Listing
import StackMachine.Proofs.Listing.Reading
import StackMachine.Proofs.Power.Squaring
import StackMachine.Proofs.Program.Leads

/-!
The power program for the machine. Its listings are read into the code below. The recursive function is
cut into blocks at its branches and at its call; what a block does is computed, with base, exponent and
the rest of the machine unknown. The blocks put together halve the exponent and square the result, so that
a call of the function ends with the power on the stack and the caller's variables back.
-/

set_option autoImplicit false

namespace StackMachine.Power

def powCode : List Instruction := [
  -- From 0: the arguments are taken, and the exponent is compared with zero.
  .of .storeVar [.text "x"], .of .storeVar [.text "n"],
  .of .loadConst [.int 0], .of .loadVar [.text "n"], .of (.compare .eq) [],
  .of .branch [.text "Power 0"],
  -- From 6: half the exponent, rounded down, is doubled again and compared with the exponent.
  .of .loadConst [.int 2], .of .loadVar [.text "n"], .of (.arithmetic .div) [],
  .of .storeVar [.text "d"], .of .loadVar [.text "d"],
  .of .loadConst [.int 2], .of (.arithmetic .mul) [],
  .of .loadVar [.text "n"], .of (.compare .eq) [],
  .of .branch [.text "Even"],
  -- From 16: the exponent is odd.
  .of .loadConst [.int 1], .of .loadVar [.text "n"], .of (.compare .eq) [],
  .of .branch [.text "Stop"],
  .of .loadVar [.text "d"], .of .loadVar [.text "x"], .of .loadConst [.text "pow"],
  .of .call [],
  .of .storeVar [.text "xn"], .of .loadVar [.text "xn"], .of .loadVar [.text "xn"],
  .of (.arithmetic .mul) [], .of .loadVar [.text "x"], .of (.arithmetic .mul) [],
  .of .ret [],
  -- From 31: the exponent is one.
  .of .label [.text "Stop"], .of .loadVar [.text "x"],
  .of .ret [],
  -- From 34: the exponent is even.
  .of .label [.text "Even"],
  .of .loadVar [.text "d"], .of .loadVar [.text "x"], .of .loadConst [.text "pow"],
  .of .call [],
  .of .storeVar [.text "xn"], .of .loadVar [.text "xn"], .of .loadVar [.text "xn"],
  .of (.arithmetic .mul) [],
  .of .ret [],
  -- From 44: the exponent is zero.
  .of .label [.text "Power 0"], .of .loadConst [.text "This func cannot take power of 0."],
  .of .ret []]

def powFunction : Function :=
  ⟨powCode, ⟨[(.text "Stop", 31), (.text "Even", 34), (.text "Power 0", 44)]⟩⟩

def entryCode : List Instruction := [
  .of .inputNumber [], .of .storeVar [.text "x"], .of .inputNumber [], .of .storeVar [.text "n"],
  .of .loadVar [.text "n"], .of .loadVar [.text "x"], .of .loadConst [.text "pow"], .of .call [],
  .of .storeVar [.text "xn"], .of .loadVar [.text "xn"], .of .print []]

def entryFunction : Function :=
  ⟨entryCode, .empty⟩

private theorem read_entryListing : Listing.read entryListing.toList = .ok entryCode := by
  unfold entryListing
  repeat rw [String.toList_append]
  repeat rw [Text.toList_of_spelling rfl]
  rfl

set_option maxRecDepth 2000 in
private theorem read_powListing : Listing.read (powListing "cannot").toList = .ok powCode := by
  unfold powListing
  repeat rw [String.toList_append]
  repeat rw [Text.toList_of_spelling rfl]
  rfl

theorem readBody_entryListing :
    Program.readBody true entryListing.toList = .ok (.linked entryFunction) := by
  rw [Program.readBody, read_entryListing]
  rfl

theorem readBody_powListing :
    Program.readBody true (powListing "cannot").toList = .ok (.linked powFunction) := by
  rw [Program.readBody, read_powListing]
  rfl

/-- The variables of the recursive function once the exponent has been halved. -/
def halved (x n half : Int) : Bindings :=
  ⟨[(.text "x", .int x), (.text "n", .int n), (.text "d", .int half)]⟩

/-! The blocks of the recursive function, each from one branch or call to the next. -/

section

variable {program : Program} (loaded : program.function (.text "pow") = .ok powFunction)
  (x n half : Int) (stack : List Value) (frames : List Bindings) (saved : List ReturnPoint)

include loaded

theorem pow_halves (nonzero : n ≠ 0) :
    program.Leads ⟨.int x :: .int n :: stack, .empty, frames, saved, 0, .text "pow"⟩
      ⟨.int (if decide (n = 2 * n.fdiv 2) then 1 else 0) :: stack, halved x n (n.fdiv 2), frames, saved,
        15, .text "pow"⟩ := by
  have tested : powFunction.steps? 5 ⟨.int x :: .int n :: stack, .empty, frames, saved, 0, .text "pow"⟩ =
      some ⟨.int (if decide (n = 0) then 1 else 0) :: stack,
        ⟨[(.text "x", .int x), (.text "n", .int n)]⟩, frames, saved, 5, .text "pow"⟩ := by rfl
  have divided : powFunction.steps? 5 ⟨.int 0 :: stack,
        ⟨[(.text "x", .int x), (.text "n", .int n)]⟩, frames, saved, 5, .text "pow"⟩ =
      some ⟨stack, halved x n (n.fdiv 2), frames, saved, 10, .text "pow"⟩ := by rfl
  have compared (half : Int) : powFunction.steps? 5
        ⟨stack, halved x n half, frames, saved, 10, .text "pow"⟩ =
      some ⟨.int (if decide (n = 2 * half) then 1 else 0) :: stack, halved x n half, frames, saved, 15,
        .text "pow"⟩ := by rfl
  rw [decide_eq_false nonzero] at tested
  exact (Program.leads_of_steps? 5 loaded tested).trans <|
    (Program.leads_of_steps? 5 loaded divided).trans (Program.leads_of_steps? 5 loaded (compared _))

theorem pow_even_calls :
    program.Leads ⟨.int 1 :: stack, halved x n half, frames, saved, 15, .text "pow"⟩
      ⟨.int x :: .int half :: stack, .empty, halved x n half :: frames, ⟨.text "pow", 38⟩ :: saved, 0,
        .text "pow"⟩ := by
  have prepared : powFunction.steps? 5 ⟨.int 1 :: stack, halved x n half, frames, saved, 15, .text "pow"⟩ =
      some ⟨.text "pow" :: .int x :: .int half :: stack, halved x n half, frames, saved, 38,
        .text "pow"⟩ := by rfl
  exact (Program.leads_of_steps? 5 loaded prepared).trans (Program.leads_of_call loaded rfl)

theorem pow_even_returns (result : Int) (bindings : Bindings) (place : ReturnPoint) :
    program.Leads
      ⟨.int result :: stack, halved x n half, bindings :: frames, place :: saved, 39, .text "pow"⟩
      ⟨.int (result * result) :: stack, bindings, frames, saved, place.ip + 1, place.function⟩ := by
  have squared : powFunction.steps? 4
        ⟨.int result :: stack, halved x n half, bindings :: frames, place :: saved, 39, .text "pow"⟩ =
      some ⟨.int (result * result) :: stack, (halved x n half).insert (.text "xn") (.int result),
        bindings :: frames, place :: saved, 43, .text "pow"⟩ := by rfl
  exact (Program.leads_of_steps? 4 loaded squared).trans (Program.leads_of_ret loaded rfl)

theorem pow_odd_tests :
    program.Leads ⟨.int 0 :: stack, halved x n half, frames, saved, 15, .text "pow"⟩
      ⟨.int (if decide (n = 1) then 1 else 0) :: stack, halved x n half, frames, saved, 19,
        .text "pow"⟩ := by
  have tested : powFunction.steps? 4 ⟨.int 0 :: stack, halved x n half, frames, saved, 15, .text "pow"⟩ =
      some ⟨.int (if decide (n = 1) then 1 else 0) :: stack, halved x n half, frames, saved, 19,
        .text "pow"⟩ := by rfl
  exact Program.leads_of_steps? 4 loaded tested

theorem pow_one_returns (bindings : Bindings) (place : ReturnPoint) :
    program.Leads ⟨.int 1 :: stack, halved x n half, bindings :: frames, place :: saved, 19, .text "pow"⟩
      ⟨.int x :: stack, bindings, frames, saved, place.ip + 1, place.function⟩ := by
  have fetched : powFunction.steps? 3
        ⟨.int 1 :: stack, halved x n half, bindings :: frames, place :: saved, 19, .text "pow"⟩ =
      some ⟨.int x :: stack, halved x n half, bindings :: frames, place :: saved, 33, .text "pow"⟩ := by rfl
  exact (Program.leads_of_steps? 3 loaded fetched).trans (Program.leads_of_ret loaded rfl)

theorem pow_odd_calls :
    program.Leads ⟨.int 0 :: stack, halved x n half, frames, saved, 19, .text "pow"⟩
      ⟨.int x :: .int half :: stack, .empty, halved x n half :: frames, ⟨.text "pow", 23⟩ :: saved, 0,
        .text "pow"⟩ := by
  have prepared : powFunction.steps? 4 ⟨.int 0 :: stack, halved x n half, frames, saved, 19, .text "pow"⟩ =
      some ⟨.text "pow" :: .int x :: .int half :: stack, halved x n half, frames, saved, 23,
        .text "pow"⟩ := by rfl
  exact (Program.leads_of_steps? 4 loaded prepared).trans (Program.leads_of_call loaded rfl)

theorem pow_odd_returns (result : Int) (bindings : Bindings) (place : ReturnPoint) :
    program.Leads
      ⟨.int result :: stack, halved x n half, bindings :: frames, place :: saved, 24, .text "pow"⟩
      ⟨.int (x * (result * result)) :: stack, bindings, frames, saved, place.ip + 1,
        place.function⟩ := by
  have multiplied : powFunction.steps? 6
        ⟨.int result :: stack, halved x n half, bindings :: frames, place :: saved, 24, .text "pow"⟩ =
      some ⟨.int (x * (result * result)) :: stack, (halved x n half).insert (.text "xn") (.int result),
        bindings :: frames, place :: saved, 30, .text "pow"⟩ := by rfl
  exact (Program.leads_of_steps? 6 loaded multiplied).trans (Program.leads_of_ret loaded rfl)

end

/-- A call of the recursive function with a positive exponent returns the power. Below the arguments the
stack stays as it is, and so do the frames and return points below the call's own. -/
theorem pow_leads {program : Program} (loaded : program.function (.text "pow") = .ok powFunction)
    (x : Int) (n : Nat) (positive : 0 < n) (stack : List Value) (bindings : Bindings)
    (frames : List Bindings) (place : ReturnPoint) (saved : List ReturnPoint) :
    program.Leads
      ⟨.int x :: .int n :: stack, .empty, bindings :: frames, place :: saved, 0, .text "pow"⟩
      ⟨.int (x ^ n) :: stack, bindings, frames, saved, place.ip + 1, place.function⟩ := by
  -- The recursive call has other frames below it, so the induction is for all machines at once.
  induction n using Nat.strongRecOn generalizing stack bindings frames place saved with
  | ind n ih =>
      have halves := pow_halves loaded x n stack (bindings :: frames) (place :: saved) (by omega)
      have half : (n : Int).fdiv 2 = (n / 2 : Nat) := by
        rw [Int.fdiv_eq_ediv_of_nonneg _ (by decide)]
        rfl
      rw [half] at halves
      refine halves.trans ?_
      by_cases even : n = 2 * (n / 2)
      · have isEven : decide ((n : Int) = 2 * (n / 2 : Nat)) = true := decide_eq_true (by omega)
        rw [isEven, pow_of_even x (by omega)]
        exact (pow_even_calls loaded x n _ stack _ _).trans <|
          (ih (n / 2) (by omega) (by omega) stack _ _ _ _).trans
            (pow_even_returns loaded x n _ stack frames saved _ bindings place)
      · have isOdd : decide ((n : Int) = 2 * (n / 2 : Nat)) = false := decide_eq_false (by omega)
        rw [isOdd]
        refine (pow_odd_tests loaded x n _ stack _ _).trans ?_
        by_cases one : n = 1
        · have isOne : decide ((n : Int) = 1) = true := decide_eq_true (by omega)
          rw [isOne, one, Int.pow_one]
          exact pow_one_returns loaded x _ _ stack frames saved bindings place
        · have isMore : decide ((n : Int) = 1) = false := decide_eq_false (by omega)
          rw [isMore, pow_of_odd x (by omega), Int.mul_comm _ x]
          exact (pow_odd_calls loaded x n _ stack _ _).trans <|
            (ih (n / 2) (by omega) (by omega) stack _ _ _ _).trans
              (pow_odd_returns loaded x n _ stack frames saved _ bindings place)

end StackMachine.Power

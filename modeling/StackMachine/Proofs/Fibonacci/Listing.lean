import StackMachine.Proofs.Listing.Reading
import StackMachine.Proofs.Program.Leads

/-!
A program for the Fibonacci numbers: a function that calls itself twice and an entry that reads which number
is wanted. Between the two calls the first result waits on the operand stack, below everything that the second
call does there.
-/

set_option autoImplicit false

namespace StackMachine.Fibonacci

/-- The Fibonacci numbers, counted from one: 0, 1, 1, 2, 3, 5 and so on. -/
def number : Nat → Nat
  | 0 | 1 => 0
  | 2 => 1
  | n + 3 => number (n + 2) + number (n + 1)

theorem number_succ {n : Nat} (later : 3 ≤ n) : number n = number (n - 1) + number (n - 2) := by
  obtain ⟨k, rfl⟩ := Nat.exists_eq_add_of_le' later
  rfl

theorem le_number {n : Nat} (later : 7 ≤ n) : n ≤ number n := by
  induction n using Nat.strongRecOn with
  | ind n ih =>
      rcases Nat.lt_or_ge n 9 with few | many
      · obtain rfl | rfl : n = 7 ∨ n = 8 := by omega
        · decide
        · decide
      · have before := ih (n - 1) (by omega) (by omega)
        have earlier := ih (n - 2) (by omega) (by omega)
        rw [number_succ (by omega)]
        omega

def functionListing : String :=
  "STORE_VAR \"n\"\n\n" ++
  "LABEL if\nLOAD_CONST 0\nLOAD_VAR \"n\"\nGT\nCJMP elif\n\n" ++
  "LABEL elif\nLOAD_CONST 1\nLOAD_VAR \"n\"\nNEQ\nCJMP elif2\n\n" ++
  "LOAD_CONST 0\nRET\n\n" ++
  "LABEL elif2\nLOAD_CONST 2\nLOAD_VAR \"n\"\nNEQ\nCJMP else\n\n" ++
  "LOAD_CONST 1\nRET\n\n" ++
  "LABEL else\n\n" ++
  "LABEL fibonacci(n-1)\nLOAD_CONST 1\nLOAD_VAR \"n\"\nSUB\nLOAD_CONST \"fibonacci\"\nCALL\n\n" ++
  "LABEL fibonacci(n-2)\nLOAD_CONST 2\nLOAD_VAR \"n\"\nSUB\nLOAD_CONST \"fibonacci\"\nCALL\n\n" ++
  "ADD\nRET\n\n" ++
  "LABEL after_if_unreachable\nRET\n"

def entryListing : String :=
  "INPUT_NUMBER\nSTORE_VAR \"N\"\nLOAD_VAR \"N\"\nLOAD_CONST \"fibonacci\"\nCALL\n\n" ++
  "STORE_VAR \"FibNumber\"\nLOAD_VAR \"FibNumber\"\nPRINT\n"

def functionCode : List Instruction := [
  -- From 0: a branch to the instruction after it.
  .of .storeVar [.text "n"],
  .of .label [.text "if"],
  .of .loadConst [.int 0], .of .loadVar [.text "n"], .of (.compare .gt) [],
  .of .branch [.text "elif"],
  -- From 6: the first number.
  .of .label [.text "elif"],
  .of .loadConst [.int 1], .of .loadVar [.text "n"], .of (.compare .neq) [],
  .of .branch [.text "elif2"],
  .of .loadConst [.int 0],
  .of .ret [],
  -- From 13: the second number.
  .of .label [.text "elif2"],
  .of .loadConst [.int 2], .of .loadVar [.text "n"], .of (.compare .neq) [],
  .of .branch [.text "else"],
  .of .loadConst [.int 1],
  .of .ret [],
  -- From 20: the two calls.
  .of .label [.text "else"],
  .of .label [.text "fibonacci(n-1)"],
  .of .loadConst [.int 1], .of .loadVar [.text "n"], .of (.arithmetic .sub) [],
  .of .loadConst [.text "fibonacci"],
  .of .call [],
  .of .label [.text "fibonacci(n-2)"],
  .of .loadConst [.int 2], .of .loadVar [.text "n"], .of (.arithmetic .sub) [],
  .of .loadConst [.text "fibonacci"],
  .of .call [],
  .of (.arithmetic .add) [],
  .of .ret [],
  -- From 35: never reached.
  .of .label [.text "after_if_unreachable"],
  .of .ret []]

def function : Function :=
  ⟨functionCode, ⟨[(.text "if", 1), (.text "elif", 6), (.text "elif2", 13), (.text "else", 20),
    (.text "fibonacci(n-1)", 21), (.text "fibonacci(n-2)", 27), (.text "after_if_unreachable", 35)]⟩⟩

def entryFunction : Function :=
  ⟨[.of .inputNumber [], .of .storeVar [.text "N"], .of .loadVar [.text "N"],
    .of .loadConst [.text "fibonacci"], .of .call [],
    .of .storeVar [.text "FibNumber"], .of .loadVar [.text "FibNumber"], .of .print []], .empty⟩

private theorem read_functionListing : Listing.read functionListing.toList = .ok functionCode := by
  unfold functionListing
  repeat rw [String.toList_append]
  repeat rw [Text.toList_of_spelling rfl]
  rfl

theorem readBody_functionListing :
    Program.readBody true functionListing.toList = .ok (.linked function) := by
  rw [Program.readBody, read_functionListing]
  rfl

theorem readBody_entryListing :
    Program.readBody true entryListing.toList = .ok (.linked entryFunction) := by
  unfold entryListing
  repeat rw [String.toList_append]
  repeat rw [Text.toList_of_spelling rfl]
  rfl

/-- The one variable of the function. -/
def own (n : Int) : Bindings :=
  ⟨[(.text "n", .int n)]⟩

/-! The blocks of the function, each from one branch or call to the next. -/

section

variable {program : Program} (loaded : program.function (.text "fibonacci") = .ok function)
  (n : Int) (stack : List Value) (frames : List Bindings) (saved : List ReturnPoint)

include loaded

theorem function_starts (positive : 0 < n) :
    program.Leads ⟨.int n :: stack, .empty, frames, saved, 0, .text "fibonacci"⟩
      ⟨.int (if decide (n ≠ 1) then 1 else 0) :: stack, own n, frames, saved, 10, .text "fibonacci"⟩ := by
  have tested : function.steps? 5 ⟨.int n :: stack, .empty, frames, saved, 0, .text "fibonacci"⟩ =
      some ⟨.int (if decide (n > 0) then 1 else 0) :: stack, own n, frames, saved, 5,
        .text "fibonacci"⟩ := by rfl
  have compared : function.steps? 5 ⟨.int 1 :: stack, own n, frames, saved, 5, .text "fibonacci"⟩ =
      some ⟨.int (if decide (n ≠ 1) then 1 else 0) :: stack, own n, frames, saved, 10,
        .text "fibonacci"⟩ := by rfl
  rw [decide_eq_true positive] at tested
  exact (Program.leads_of_steps? 5 loaded tested).trans (Program.leads_of_steps? 5 loaded compared)

theorem function_returns_first (bindings : Bindings) (place : ReturnPoint) :
    program.Leads ⟨.int 0 :: stack, own n, bindings :: frames, place :: saved, 10, .text "fibonacci"⟩
      ⟨.int 0 :: stack, bindings, frames, saved, place.ip + 1, place.function⟩ := by
  have fetched : function.steps? 2
        ⟨.int 0 :: stack, own n, bindings :: frames, place :: saved, 10, .text "fibonacci"⟩ =
      some ⟨.int 0 :: stack, own n, bindings :: frames, place :: saved, 12, .text "fibonacci"⟩ := by rfl
  exact (Program.leads_of_steps? 2 loaded fetched).trans (Program.leads_of_ret loaded rfl)

theorem function_goes_on :
    program.Leads ⟨.int 1 :: stack, own n, frames, saved, 10, .text "fibonacci"⟩
      ⟨.int (if decide (n ≠ 2) then 1 else 0) :: stack, own n, frames, saved, 17, .text "fibonacci"⟩ := by
  have compared : function.steps? 5 ⟨.int 1 :: stack, own n, frames, saved, 10, .text "fibonacci"⟩ =
      some ⟨.int (if decide (n ≠ 2) then 1 else 0) :: stack, own n, frames, saved, 17,
        .text "fibonacci"⟩ := by rfl
  exact Program.leads_of_steps? 5 loaded compared

theorem function_returns_second (bindings : Bindings) (place : ReturnPoint) :
    program.Leads ⟨.int 0 :: stack, own n, bindings :: frames, place :: saved, 17, .text "fibonacci"⟩
      ⟨.int 1 :: stack, bindings, frames, saved, place.ip + 1, place.function⟩ := by
  have fetched : function.steps? 2
        ⟨.int 0 :: stack, own n, bindings :: frames, place :: saved, 17, .text "fibonacci"⟩ =
      some ⟨.int 1 :: stack, own n, bindings :: frames, place :: saved, 19, .text "fibonacci"⟩ := by rfl
  exact (Program.leads_of_steps? 2 loaded fetched).trans (Program.leads_of_ret loaded rfl)

theorem function_calls_once :
    program.Leads ⟨.int 1 :: stack, own n, frames, saved, 17, .text "fibonacci"⟩
      ⟨.int (n - 1) :: stack, .empty, own n :: frames, ⟨.text "fibonacci", 26⟩ :: saved, 0,
        .text "fibonacci"⟩ := by
  have prepared : function.steps? 7 ⟨.int 1 :: stack, own n, frames, saved, 17, .text "fibonacci"⟩ =
      some ⟨.text "fibonacci" :: .int (n - 1) :: stack, own n, frames, saved, 26,
        .text "fibonacci"⟩ := by rfl
  exact (Program.leads_of_steps? 7 loaded prepared).trans (Program.leads_of_call loaded rfl)

theorem function_calls_again :
    program.Leads ⟨stack, own n, frames, saved, 27, .text "fibonacci"⟩
      ⟨.int (n - 2) :: stack, .empty, own n :: frames, ⟨.text "fibonacci", 32⟩ :: saved, 0,
        .text "fibonacci"⟩ := by
  have prepared : function.steps? 5 ⟨stack, own n, frames, saved, 27, .text "fibonacci"⟩ =
      some ⟨.text "fibonacci" :: .int (n - 2) :: stack, own n, frames, saved, 32,
        .text "fibonacci"⟩ := by rfl
  exact (Program.leads_of_steps? 5 loaded prepared).trans (Program.leads_of_call loaded rfl)

theorem function_returns_sum (first second : Int) (bindings : Bindings) (place : ReturnPoint) :
    program.Leads
      ⟨.int second :: .int first :: stack, own n, bindings :: frames, place :: saved, 33,
        .text "fibonacci"⟩
      ⟨.int (second + first) :: stack, bindings, frames, saved, place.ip + 1, place.function⟩ := by
  have added : function.steps? 1
        ⟨.int second :: .int first :: stack, own n, bindings :: frames, place :: saved, 33,
          .text "fibonacci"⟩ =
      some ⟨.int (second + first) :: stack, own n, bindings :: frames, place :: saved, 34,
        .text "fibonacci"⟩ := by rfl
  exact (Program.leads_of_steps? 1 loaded added).trans (Program.leads_of_ret loaded rfl)

end

/-- A call of the function with a positive argument returns that Fibonacci number. Below the argument the
stack stays as it is, whatever the two calls inside do above it. -/
theorem function_leads {program : Program}
    (loaded : program.function (.text "fibonacci") = .ok function) (n : Nat) (positive : 1 ≤ n)
    (stack : List Value) (bindings : Bindings) (frames : List Bindings) (place : ReturnPoint)
    (saved : List ReturnPoint) :
    program.Leads
      ⟨.int n :: stack, .empty, bindings :: frames, place :: saved, 0, .text "fibonacci"⟩
      ⟨.int (number n) :: stack, bindings, frames, saved, place.ip + 1, place.function⟩ := by
  -- The second call has the first result below its argument, so the induction is for all stacks at once.
  induction n using Nat.strongRecOn generalizing stack bindings frames place saved with
  | ind n ih =>
      refine (function_starts loaded n stack (bindings :: frames) (place :: saved) (by omega)).trans ?_
      by_cases first : n = 1
      · subst first
        exact function_returns_first loaded 1 stack frames saved bindings place
      have isLater : decide ((n : Int) ≠ 1) = true := decide_eq_true (by omega)
      rw [isLater]
      refine (function_goes_on loaded n stack (bindings :: frames) (place :: saved)).trans ?_
      by_cases second : n = 2
      · subst second
        exact function_returns_second loaded 2 stack frames saved bindings place
      have isMore : decide ((n : Int) ≠ 2) = true := decide_eq_true (by omega)
      rw [isMore]
      have minusOne : (n : Int) - 1 = (n - 1 : Nat) := by omega
      have minusTwo : (n : Int) - 2 = (n - 2 : Nat) := by omega
      have calls := function_calls_once loaded n stack (bindings :: frames) (place :: saved)
      have callsAgain := function_calls_again loaded n (.int (number (n - 1)) :: stack) (bindings :: frames)
        (place :: saved)
      rw [minusOne] at calls
      rw [minusTwo] at callsAgain
      have sum : (number n : Int) = number (n - 2) + number (n - 1) := by
        rw [number_succ (by omega)]
        omega
      rw [sum]
      exact calls.trans <|
        (ih (n - 1) (by omega) (by omega) stack _ _ _ _).trans <|
          callsAgain.trans <|
            (ih (n - 2) (by omega) (by omega) _ _ _ _ _).trans
              (function_returns_sum loaded n stack frames saved _ _ bindings place)

end StackMachine.Fibonacci

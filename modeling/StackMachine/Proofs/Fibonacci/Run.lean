import StackMachine.Proofs.Debugger.Running
import StackMachine.Proofs.Fibonacci.Listing
import StackMachine.Proofs.Numeral.Decimal

/-!
The Fibonacci program under the debugger: it reads which number is wanted, prints that number, and leaves
nothing behind but the two variables of its entry.
-/

set_option autoImplicit false

namespace StackMachine.Fibonacci

open Debugger.Functions Numeral

/-- A state in which the Fibonacci program has just been loaded: nothing has been carried out yet, and the
two functions are what their listings are read as. Reads have to be answered although the machine gives a
prompt. -/
structure Loaded (state : State) : Prop where
  fresh : state.machine = {}
  entry : ∃ body, Program.readBody true entryListing.toList = .ok body ∧
    state.program.body? entryPoint = some body
  fibonacci : ∃ body, Program.readBody true functionListing.toList = .ok body ∧
    state.program.body? "fibonacci" = some body
  answering : state.settings.feedStyle ≠ .silent

/-- A Fibonacci number outgrows its place, so that a place whose number can be written can be written too. -/
theorem fitsDecimal_of_number {n : Nat} (fits : fitsDecimal (number n) = true) : fitsDecimal n = true := by
  unfold fitsDecimal at fits ⊢
  rw [decide_eq_true_eq, Int.natAbs_natCast] at fits ⊢
  rcases Nat.lt_or_ge n 7 with few | many
  · have powers (limit : Nat) (some : 1 ≤ limit) : Nat.pow 10 1 ≤ Nat.pow 10 limit :=
      Nat.pow_le_pow_right (by decide) some
    have ten : Nat.pow 10 1 ≤ decimalBound := by
      unfold decimalBound
      exact powers digitLimit (by decide)
    have seven : 7 ≤ Nat.pow 10 1 := by decide
    omega
  · have below := le_number many
    omega

/-- The state in which a run of the program ends. -/
def ending (state : State) (n : Nat) (more : List Value) (rest : List Keystroke) : State :=
  { state with
    machine := {
      bindings := ⟨[(.text "N", .int n), (.text "FibNumber", .int (number n))]⟩
      ip := 8 }
    console := {
      feed := some ⟨state.settings.feedStyle, .list more⟩
      printed := state.console.printed ++ [.int (number n)]
      terminal := {
        script := rest
        finished := (state.console.terminal.current ++ numberQuestion) :: state.console.terminal.finished
        current := String.ofList (decimal (number n)) ++ "\n" } } }

namespace Loaded

variable {state : State} (loaded : Loaded state)

include loaded

theorem entryFunction_eq : state.program.function (.text entryPoint) = .ok entryFunction :=
  Program.function_of_readBody loaded.entry readBody_entryListing

theorem function_eq : state.program.function (.text "fibonacci") = .ok function :=
  Program.function_of_readBody loaded.fibonacci readBody_functionListing

/-- Between reading and printing: the place is stored, the function is called, and the number is stored. -/
theorem entry_computes (n : Nat) (positive : 1 ≤ n) :
    state.program.Leads ⟨[.int n], .empty, [], [], 1, .text entryPoint⟩
      ⟨[.int (number n)], ⟨[(.text "N", .int n), (.text "FibNumber", .int (number n))]⟩, [], [], 7,
        .text entryPoint⟩ := by
  have prepared : entryFunction.steps? 3 ⟨[.int n], .empty, [], [], 1, .text entryPoint⟩ =
      some ⟨[.text "fibonacci", .int n], ⟨[(.text "N", .int n)]⟩, [], [], 4, .text entryPoint⟩ := by rfl
  have stored (result : Int) : entryFunction.steps? 2
        ⟨[.int result], ⟨[(.text "N", .int n)]⟩, [], [], 5, .text entryPoint⟩ =
      some ⟨[.int result], ⟨[(.text "N", .int n), (.text "FibNumber", .int result)]⟩, [], [], 7,
        .text entryPoint⟩ := by rfl
  exact (Program.leads_of_steps? 3 loaded.entryFunction_eq prepared).trans <|
    (Program.leads_of_call loaded.entryFunction_eq rfl).trans <|
      (function_leads loaded.function_eq n positive [] _ [] _ []).trans
        (Program.leads_of_steps? 2 loaded.entryFunction_eq (stored _))

theorem reaches_ending {n : Nat} {line : String} {more : List Value} {rest : List Keystroke}
    (positive : 1 ≤ n) (fits : fitsDecimal (number n) = true)
    (waiting : state.script = .line line :: rest)
    (read : readNumbers line.toList = .ok (.int n :: more)) :
    state.Reaches (ending state n more rest) := by
  obtain ⟨settings, files, machine, console, program⟩ := state
  obtain rfl : machine = {} := loaded.fresh
  have active := loaded.entryFunction_eq
  have reaches := State.Reaches.trans
    (State.reaches_of_inputNumber (State.fetch?_of_itemAt? active rfl) waiting read loaded.answering) <|
    .trans (State.reaches_of_leads (loaded.entry_computes n positive) rfl rfl) <|
    State.reaches_of_print (State.fetch?_of_itemAt? active rfl) rfl (Value.show_int fits)
  -- What has been written differs from the ending by texts appended to an empty one.
  simpa only [ending, State.afterNumbers, State.onTerminal, State.feedFrom, Console.writeLine,
    Terminal.writeLine, Terminal.write, String.empty_append, Int.reduceAdd] using reaches

end Loaded

/-- For every place whose Fibonacci number keeps to the digit limit: once the program has been loaded, `run`
comes back to the prompt, whichever line gives the place, as its decimal numeral does. Then exactly that
number has been printed, and the machine is empty but for the place and the number. -/
theorem run_prints_fibonacci (n : Int) (positive : 1 ≤ n)
    (fits : fitsDecimal (number n.toNat) = true) (state : State) (loaded : Loaded state) :
    Answers (String.ofList (decimal n)) n ∧
      ∀ line rest, Answers line n → state.script = .line line :: rest →
        ∃ bound final, (∀ fuel, bound ≤ fuel → run fuel state = .prompt final) ∧
          final.console.printed = state.console.printed ++ [.int (number n.toNat)] ∧
          final.console.terminal = {
            script := rest
            finished := (state.console.terminal.current ++ numberQuestion) ::
              state.console.terminal.finished
            current := String.ofList (decimal (number n.toNat)) ++ "\n" } ∧
          final.machine = {
            stack := []
            bindings := ⟨[(.text "N", .int n), (.text "FibNumber", .int (number n.toNat))]⟩
            frames := []
            saved := []
            ip := 8
            current := .text entryPoint } := by
  obtain ⟨n, rfl⟩ := Int.eq_ofNat_of_zero_le (show 0 ≤ n by omega)
  rw [Int.toNat_natCast] at fits ⊢
  refine ⟨answers_decimal (fitsDecimal_of_number fits), ?_⟩
  rintro line rest ⟨more, read⟩ waiting
  obtain ⟨bound, runs⟩ := run_of_reaches (loaded.reaches_ending (by omega) fits waiting read)
    loaded.entryFunction_eq (Int.le_refl 8)
  exact ⟨bound, _, runs, rfl, rfl, rfl⟩

def eleventh : State where
  settings := ⟨false, true, .adaptive, 0⟩
  files := ⟨[]⟩
  machine := {}
  console := { terminal := { script := [.line "11"] } }
  program := ⟨[("fibonacci", .linked function), (entryPoint, .linked entryFunction)]⟩

theorem run_prints_fibonacci_eleventh :
    Loaded eleventh ∧ ∃ bound final, (∀ fuel, bound ≤ fuel → run fuel eleventh = .prompt final) ∧
      final.console.printed = [.int 55] := by
  have loaded : Loaded eleventh :=
    ⟨rfl, ⟨_, readBody_entryListing, rfl⟩, ⟨_, readBody_functionListing, rfl⟩, by decide⟩
  obtain ⟨-, runs⟩ := run_prints_fibonacci 11 (by decide) (by decide +kernel) eleventh loaded
  obtain ⟨bound, final, runs, printed, -⟩ := runs "11" [] ⟨[], rfl⟩ rfl
  exact ⟨loaded, bound, final, runs, printed⟩

end StackMachine.Fibonacci

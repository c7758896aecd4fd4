import StackMachine.Proofs.Debugger.Running
import StackMachine.Proofs.Numeral.Decimal
import StackMachine.Proofs.Power.Listing

/-!
The power program under the debugger: it reads base and exponent, prints the power, and leaves nothing
behind but the variables of its entry.
-/

set_option autoImplicit false

namespace StackMachine.Power

open Debugger.Functions Numeral

/-- A state in which the power program has just been loaded: nothing has been carried out yet, and the
two functions are what their listings are read as. Reads have to be answered although the machine gives a
prompt. -/
structure Loaded (state : State) : Prop where
  fresh : state.machine = {}
  entry : ∃ body, Program.readBody true entryListing.toList = .ok body ∧
    state.program.body? entryPoint = some body
  pow : ∃ body, Program.readBody true (powListing "cannot").toList = .ok body ∧
    state.program.body? "pow" = some body
  answering : state.settings.feedStyle ≠ .silent

/-- The state in which a run of the power program ends: the entry's variables are all that is left in
the machine, and the power has been written in a line of its own since the second question. -/
def ending (state : State) (x : Int) (n : Nat) (more : List Value) (rest : List Keystroke) : State :=
  { state with
    machine := {
      bindings := ⟨[(.text "x", .int x), (.text "n", .int n), (.text "xn", .int (x ^ n))]⟩
      ip := 11 }
    console := {
      feed := some ⟨state.settings.feedStyle, .list more⟩
      printed := state.console.printed ++ [.int (x ^ n)]
      terminal := {
        script := rest
        finished := numberQuestion :: (state.console.terminal.current ++ numberQuestion) ::
          state.console.terminal.finished
        current := String.ofList (decimal (x ^ n)) ++ "\n" } } }

namespace Loaded

variable {state : State} (loaded : Loaded state)

include loaded

theorem entryFunction_eq : state.program.function (.text entryPoint) = .ok entryFunction :=
  Program.function_of_readBody loaded.entry readBody_entryListing

theorem powFunction_eq : state.program.function (.text "pow") = .ok powFunction :=
  Program.function_of_readBody loaded.pow readBody_powListing

theorem fetch?_entry {other : State} {instruction : Instruction}
    (program : other.program = state.program) (current : other.machine.current = .text entryPoint)
    (found : itemAt? entryCode other.machine.ip = some instruction) :
    other.fetch? = some (entryFunction, instruction) := by
  apply State.fetch?_of_itemAt?
  · rw [State.active, program, current]
    exact loaded.entryFunction_eq
  · exact found

/-- Between reading the exponent and printing: the exponent is stored, the function is called, and the
power is stored. -/
theorem entry_computes (x : Int) (n : Nat) (positive : 0 < n) :
    state.program.Leads
      ⟨[.int n], ⟨[(.text "x", .int x)]⟩, [], [], 3, .text entryPoint⟩
      ⟨[.int (x ^ n)], ⟨[(.text "x", .int x), (.text "n", .int n), (.text "xn", .int (x ^ n))]⟩, [], [],
        10, .text entryPoint⟩ := by
  have prepared : entryFunction.steps? 4
        ⟨[.int n], ⟨[(.text "x", .int x)]⟩, [], [], 3, .text entryPoint⟩ =
      some ⟨[.text "pow", .int x, .int n], ⟨[(.text "x", .int x), (.text "n", .int n)]⟩, [], [], 7,
        .text entryPoint⟩ := by rfl
  have stored : entryFunction.steps? 2
        ⟨[.int (x ^ n)], ⟨[(.text "x", .int x), (.text "n", .int n)]⟩, [], [], 8, .text entryPoint⟩ =
      some ⟨[.int (x ^ n)], ⟨[(.text "x", .int x), (.text "n", .int n), (.text "xn", .int (x ^ n))]⟩,
        [], [], 10, .text entryPoint⟩ := by rfl
  exact (Program.leads_of_steps? 4 loaded.entryFunction_eq prepared).trans <|
    (Program.leads_of_call loaded.entryFunction_eq rfl).trans <|
      (pow_leads loaded.powFunction_eq x n positive [] _ [] _ []).trans
        (Program.leads_of_steps? 2 loaded.entryFunction_eq stored)

theorem reaches_ending {x : Int} {n : Nat} {baseLine exponentLine : String}
    {moreBase moreExponent : List Value} {rest : List Keystroke} (positive : 0 < n)
    (fits : fitsDecimal (x ^ n) = true)
    (waiting : state.script = .line baseLine :: .line exponentLine :: rest)
    (readBase : readNumbers baseLine.toList = .ok (.int x :: moreBase))
    (readExponent : readNumbers exponentLine.toList = .ok (.int n :: moreExponent)) :
    state.Reaches (ending state x n moreExponent rest) := by
  obtain ⟨settings, files, machine, console, program⟩ := state
  obtain rfl : machine = {} := loaded.fresh
  have stored : entryFunction.steps? 1 ⟨[.int x], .empty, [], [], 1, .text entryPoint⟩ =
      some ⟨[], ⟨[(.text "x", .int x)]⟩, [], [], 2, .text entryPoint⟩ := by rfl
  have readsBase := State.reaches_of_inputNumber (loaded.fetch?_entry rfl rfl rfl) waiting readBase
    loaded.answering
  have reaches := State.Reaches.trans readsBase <|
    .trans (State.reaches_of_leads (Program.leads_of_steps? 1 loaded.entryFunction_eq stored) rfl rfl) <|
    .trans (State.reaches_of_inputNumber (loaded.fetch?_entry rfl rfl rfl) rfl readExponent
      loaded.answering) <|
    .trans (State.reaches_of_leads (loaded.entry_computes x n positive) rfl rfl) <|
    State.reaches_of_print (loaded.fetch?_entry rfl rfl rfl) rfl (Value.show_int fits)
  -- What has been written differs from the ending by texts appended to an empty one.
  simpa only [ending, State.afterNumbers, State.onTerminal, State.feedFrom, Console.writeLine,
    Terminal.writeLine, Terminal.write, String.empty_append, Int.reduceAdd] using reaches

end Loaded

/-- For every integer and every positive exponent whose numerals keep to the digit limit, as the power's
does: once the power program has been loaded, `run` comes back to the prompt, whichever lines give base
and exponent, as their decimal numerals do. Then exactly the power has been printed, which is the one
that repeated squaring gives, and the machine is empty but for the variables of the entry. -/
theorem run_prints_power (x n : Int) (positive : 1 ≤ n) (fitsBase : fitsDecimal x = true)
    (fitsExponent : fitsDecimal n = true) (fitsPower : fitsDecimal (x ^ n.toNat) = true)
    (state : State) (loaded : Loaded state) :
    powerBy (.int x) (.int n) = .ok (.int (x ^ n.toNat)) ∧
      Answers (String.ofList (decimal x)) x ∧ Answers (String.ofList (decimal n)) n ∧
      ∀ baseLine exponentLine rest, Answers baseLine x → Answers exponentLine n →
        state.script = .line baseLine :: .line exponentLine :: rest →
        ∃ bound final, (∀ fuel, bound ≤ fuel → run fuel state = .prompt final) ∧
          final.console.printed = state.console.printed ++ [.int (x ^ n.toNat)] ∧
          final.console.terminal = {
            script := rest
            finished := numberQuestion :: (state.console.terminal.current ++ numberQuestion) ::
              state.console.terminal.finished
            current := String.ofList (decimal (x ^ n.toNat)) ++ "\n" } ∧
          final.machine = {
            stack := []
            bindings := ⟨[(.text "x", .int x), (.text "n", .int n), (.text "xn", .int (x ^ n.toNat))]⟩
            frames := []
            saved := []
            ip := 11
            current := .text entryPoint } := by
  obtain ⟨n, rfl⟩ := Int.eq_ofNat_of_zero_le (show 0 ≤ n by omega)
  rw [Int.toNat_natCast] at fitsPower ⊢
  refine ⟨power_int x (by omega), answers_decimal fitsBase, answers_decimal fitsExponent, ?_⟩
  rintro baseLine exponentLine rest ⟨moreBase, readBase⟩ ⟨moreExponent, readExponent⟩ waiting
  obtain ⟨bound, runs⟩ := run_of_reaches
    (loaded.reaches_ending (by omega) fitsPower waiting readBase readExponent)
    loaded.entryFunction_eq (Int.le_refl 11)
  exact ⟨bound, _, runs, rfl, rfl, rfl⟩

def fifthPower : State where
  settings := ⟨false, true, .adaptive, 0⟩
  files := ⟨[]⟩
  machine := {}
  console := { terminal := { script := [.line "-3", .line "5"] } }
  program := ⟨[("pow", .linked powFunction), (entryPoint, .linked entryFunction)]⟩

theorem run_prints_power_fifthPower :
    Loaded fifthPower ∧ ∃ bound final, (∀ fuel, bound ≤ fuel → run fuel fifthPower = .prompt final) ∧
      final.console.printed = [.int (-243)] := by
  have loaded : Loaded fifthPower :=
    ⟨rfl, ⟨_, readBody_entryListing, rfl⟩, ⟨_, readBody_powListing, rfl⟩, by decide⟩
  obtain ⟨-, -, -, runs⟩ := run_prints_power (-3) 5 (by decide) (by decide +kernel) (by decide +kernel)
    (by decide +kernel) fifthPower loaded
  obtain ⟨bound, final, runs, printed, -⟩ := runs "-3" "5" [] ⟨[], rfl⟩ ⟨[], rfl⟩ rfl
  exact ⟨loaded, bound, final, runs, printed⟩

end StackMachine.Power

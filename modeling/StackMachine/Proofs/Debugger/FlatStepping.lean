import StackMachine.Debugger.Flat
import StackMachine.Proofs.Machine.Destination

/-!
A step of the debugger for a single list against a step of the machine's own loop. Both carry out the same
instruction. But the loop goes on from the machine's instruction pointer, and the debugger from a place of its
own, which it moves on by one whatever the instruction was. So the two part at every jump, call and return that
leads elsewhere than to the next instruction (`step_keeps_up_iff_straight`). Only the debugger announces what it
carries out, so an instruction too long to be written stops the step and not the loop.
-/

set_option autoImplicit false

namespace StackMachine

theorem lt_length_of_itemAt {α : Type} {items : List α} {index : Int} {item : α} (natural : 0 ≤ index)
    (found : itemAt items index = .ok item) : index < items.length := by
  have inside := (List.getElem?_eq_some_iff.mp (getElem?_of_itemAt natural found)).1
  omega

/-- Where an item is found there are items, and the index is not behind them. -/
theorem within_of_itemAt {α : Type} {items : List α} {index : Int} {item : α}
    (found : itemAt items index = .ok item) : ¬ items.isEmpty = true ∧ ¬ items.length ≤ index := by
  by_cases natural : 0 ≤ index
  · have before := lt_length_of_itemAt natural found
    constructor
    · intro empty
      rw [List.isEmpty_iff.mp empty, List.length_nil] at before
      omega
    · omega
  · constructor
    · intro empty
      have far : ¬ -index ≤ ([] : List α).length := by
        rw [List.length_nil]
        omega
      rw [List.isEmpty_iff.mp empty, itemAt, itemAt?, if_neg natural, if_neg far] at found
      cases found
    · omega

theorem Run.advance_of_carried {labels : Labels} {code : List Instruction} {run : Run} {instruction : Instruction}
    (before : run.machine.ip < code.length) (found : itemAt code run.machine.ip = .ok instruction)
    (carried : (run.machine.execute labels run.console instruction).fault = none) :
    let outcome := run.machine.execute labels run.console instruction
    run.advance labels code =
      (⟨{ outcome.machine with ip := outcome.machine.ip + 1 }, outcome.console,
        run.machine.ip :: run.visited⟩, .going) := by
  unfold advance
  rw [if_pos before, found]
  dsimp only
  rw [carried]

namespace Debugger.Flat

section

variable {labels : Labels} {code : List Instruction} {ip : Int} {machine : Machine} {console : Console}
  {instruction : Instruction} (found : itemAt code ip = .ok instruction)
include found

/-- A step announces its instruction before it does anything else, and fails where that cannot be written. -/
theorem step_of_unwritten (long : instruction.printable = false) :
    step labels code ip machine console = ⟨ip, machine, console, some .writtenTooLong⟩ := by
  obtain ⟨loaded, unended⟩ := within_of_itemAt found
  unfold step
  rw [if_neg loaded, if_neg unended, found]
  dsimp only
  rw [long]
  rfl

theorem step_of_carried (written : instruction.printable = true) (other : instruction.is .breakpoint = false)
    (carried : (machine.execute labels (console.writeLine (announcement ip instruction))
      instruction).fault = none) :
    let outcome := machine.execute labels (console.writeLine (announcement ip instruction)) instruction
    step labels code ip machine console = ⟨ip + 1, outcome.machine, outcome.console, none⟩ := by
  obtain ⟨loaded, unended⟩ := within_of_itemAt found
  unfold step
  rw [if_neg loaded, if_neg unended, found]
  dsimp only
  rw [written, other, carried]
  rfl

end

/-- Started at the same place on an instruction that succeeds and is no breakpoint, a step leaves the machine
and the console as the loop does, before the loop moves on. The place the step returns is the next one, always.
It is the place that the loop goes on from if and only if the instruction leads nowhere else. An instruction
that is too long to be announced is not carried out at all. -/
theorem step_keeps_up_iff_straight (labels : Labels) (code : List Instruction) (ip : Int) (machine : Machine)
    (console : Console) (visited : List Int) (instruction : Instruction) (together : machine.ip = ip)
    (natural : 0 ≤ ip) (found : code[ip.toNat]? = some instruction)
    (other : instruction.is .breakpoint = false)
    (carried : (machine.execute labels (console.writeLine (announcement ip instruction))
      instruction).fault = none) :
    let result := step labels code ip machine console
    (instruction.printable = false → result = ⟨ip, machine, console, some .writtenTooLong⟩) ∧
    (instruction.printable = true → ∃ next : Run,
      Run.advance labels code ⟨machine, console.writeLine (announcement ip instruction), visited⟩ =
        (next, .going) ∧
      next.machine = { result.machine with ip := result.machine.ip + 1 } ∧ next.console = result.console ∧
      next.machine.ip = (instruction.destination? labels machine).getD (ip + 1) ∧
      result.fault = none ∧ result.ip = ip + 1 ∧
      (result.ip = result.machine.ip + 1 ↔
        ∀ place, instruction.destination? labels machine = some place → place = ip + 1)) := by
  subst together
  have item := itemAt_of_getElem? natural found
  have before := lt_length_of_itemAt natural item
  have leads := Machine.ip_of_execute carried
  intro result
  refine ⟨step_of_unwritten item, ?_⟩
  intro written
  have stepped : result = _ := step_of_carried item written other carried
  refine ⟨_, Run.advance_of_carried before item carried, ?_⟩
  rw [stepped]
  refine ⟨rfl, rfl, leads, rfl, rfl, ?_⟩
  dsimp only
  rw [leads]
  cases instruction.destination? labels machine with
  | none =>
      constructor
      · intro _ place leading
        cases leading
      · intro _
        rfl
  | some place =>
      constructor
      · intro same place leading
        obtain rfl := Option.some.inj leading
        exact same.symm
      · intro straight
        exact (straight place rfl).symm

def forking : List Instruction :=
  [.of .branch [.text "next"], .of .label [.text "next"], .of .call []]

def forkingLabels : Labels := Table.empty.insert (.text "next") 1

def takingFork : Machine := { stack := [.int 1] }

def callingFork : Machine := { stack := [.text "f"], ip := 2 }

def quietConsole : Console := { terminal := { script := [] } }

/-- A branch that is taken keeps the two together if it leads to the next instruction. The call behind it
parts them, since the loop goes on from the first instruction. -/
theorem step_keeps_up_iff_straight_forking :
    (step forkingLabels forking 0 takingFork quietConsole).ip =
      (step forkingLabels forking 0 takingFork quietConsole).machine.ip + 1 ∧
    ∃ next : Run,
      Run.advance forkingLabels forking
        ⟨callingFork, quietConsole.writeLine (announcement 2 (.of .call [])), []⟩ = (next, .going) ∧
      next.machine.ip = 0 ∧ (step forkingLabels forking 2 callingFork quietConsole).ip = 3 := by
  constructor
  · obtain ⟨-, carriedOut⟩ := step_keeps_up_iff_straight forkingLabels forking 0 takingFork
      quietConsole [] (.of .branch [.text "next"]) rfl (by decide) rfl rfl (by decide +kernel)
    obtain ⟨-, -, -, -, -, -, -, keepsUp⟩ := carriedOut rfl
    apply keepsUp.mpr
    intro place leads
    exact (Option.some.inj leads).symm
  · obtain ⟨-, carriedOut⟩ := step_keeps_up_iff_straight forkingLabels forking 2
      callingFork quietConsole [] (.of .call []) rfl (by decide) rfl rfl (by decide +kernel)
    obtain ⟨next, advanced, -, -, leads, -, counted, -⟩ := carriedOut rfl
    exact ⟨next, advanced, leads, counted⟩

def skipping : List Instruction :=
  [.of .jump [.text "end"], .of .loadConst [.int 1], .of .label [.text "end"]]

def skippingLabels : Labels := Table.empty.insert (.text "end") 2

/-- A jump over an instruction is lost on a step. -/
theorem step_falls_behind_jump :
    ¬ ∀ (labels : Labels) (code : List Instruction) (ip : Int) (machine : Machine) (console : Console)
      (instruction : Instruction), machine.ip = ip → 0 ≤ ip → code[ip.toNat]? = some instruction →
      instruction.is .breakpoint = false → instruction.printable = true →
      (machine.execute labels (console.writeLine (announcement ip instruction)) instruction).fault = none →
      (step labels code ip machine console).ip = (step labels code ip machine console).machine.ip + 1 := by
  intro keepsUp
  have same := keepsUp skippingLabels skipping 0 {} quietConsole (.of .jump [.text "end"]) rfl (by decide) rfl rfl
    rfl (by decide +kernel)
  revert same
  decide +kernel

end Debugger.Flat

end StackMachine

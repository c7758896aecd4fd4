import StackMachine.Index
import StackMachine.Listing
import StackMachine.Machine

/-!
Running a code list: one instruction after the other, from where the instruction pointer stands, until
it is past the end or an instruction fails.
-/

set_option autoImplicit false

namespace StackMachine

/-- A run in progress, with the instruction pointers from which it has carried out instructions, the
latest first. -/
structure Run where
  machine : Machine
  console : Console
  visited : List Int

/-- How a run stands after trying one more instruction. -/
inductive RunStatus where
  | going
  | finished
  | failed (fault : Fault)

inductive RunEnd where
  | finished
  | failed (fault : Fault)
  | outOfFuel

namespace Run

/-- Carries out the instruction at the instruction pointer and moves on, unless the end is reached. -/
def advance (labels : Labels) (code : List Instruction) (run : Run) : Run × RunStatus :=
  if run.machine.ip < code.length then
    match itemAt code run.machine.ip with
    | .error fault => (run, .failed fault)
    | .ok instruction =>
      let outcome := run.machine.execute labels run.console instruction
      let visited := run.machine.ip :: run.visited
      match outcome.fault with
      | some fault => (⟨outcome.machine, outcome.console, visited⟩, .failed fault)
      | none =>
        (⟨{ outcome.machine with ip := outcome.machine.ip + 1 }, outcome.console, visited⟩, .going)
  else (run, .finished)

theorem advance_of_done {labels : Labels} {code : List Instruction} {run : Run} {instruction : Instruction}
    {after : Machine} {console : Console} (inside : run.machine.ip < code.length)
    (found : itemAt code run.machine.ip = .ok instruction)
    (carried : run.machine.execute labels run.console instruction = .done after console) :
    run.advance labels code =
      (⟨{ after with ip := after.ip + 1 }, console, run.machine.ip :: run.visited⟩, .going) := by
  rw [advance, if_pos inside, found]
  dsimp only
  rw [carried]
  rfl

/-- Carries out at most `fuel` instructions. -/
def forward (labels : Labels) (code : List Instruction) : Nat → Run → Run × RunEnd
  | 0, run => (run, .outOfFuel)
  | fuel + 1, run =>
    match run.advance labels code with
    | (run, .going) => forward labels code fuel run
    | (run, .finished) => (run, .finished)
    | (run, .failed fault) => (run, .failed fault)

/-- A run of more instructions, cut where some have been carried out. -/
theorem forward_add {labels : Labels} {code : List Instruction} {count : Nat} {run last : Run}
    (went : forward labels code count run = (last, .outOfFuel)) (fuel : Nat) :
    forward labels code (count + fuel) run = forward labels code fuel last := by
  induction count generalizing run with
  | zero =>
      obtain ⟨rfl, -⟩ := Prod.mk.inj went
      rw [Nat.zero_add]
  | succ count ih =>
      rw [forward] at went
      rw [Nat.succ_add, forward]
      cases advanced : run.advance labels code with
      | mk next status =>
          rw [advanced] at went
          cases status with
          | going => exact ih went
          | finished | failed => cases went

theorem forward_of_past {labels : Labels} {code : List Instruction} {run : Run} {fuel : Nat}
    (past : ¬ run.machine.ip < code.length) (fuelled : 0 < fuel) :
    forward labels code fuel run = (run, .finished) := by
  obtain ⟨fuel, rfl⟩ := Nat.exists_eq_add_one_of_ne_zero (Nat.ne_of_gt fuelled)
  rw [forward, advance, if_neg past]

end Run

namespace Machine

/-- What running a code list without labels meets: a fault unless the end is already reached. -/
def runUnlabelled (machine : Machine) (code : List Instruction) : Option Fault :=
  if machine.ip < code.length then
    match itemAt code machine.ip with
    | .error fault => some fault
    | .ok _ => some .missingLabels
  else none

/-- What running named functions in the place of a code list meets: they are not numbered, so nothing
is found at the instruction pointer unless it is past their count. -/
def runNamed (machine : Machine) (count : Nat) : Option Fault :=
  if machine.ip < count then some (.missingKey (.int machine.ip)) else none

end Machine

/-- The operations of the machine that are not written yet. Each takes one argument, a path, and does nothing. -/
inductive Stub where
  | runFromJson
  | dumpStack
  | loadStack
  | dumpMemory
  | loadMemory
  deriving Repr, DecidableEq

namespace Stub

def name : Stub → String
  | .runFromJson => "run_code_from_json"
  | .dumpStack => "dump_stack"
  | .loadStack => "load_stack"
  | .dumpMemory => "dump_memory"
  | .loadMemory => "load_memory"

/-- What calling a stub with a path meets. Called on a machine it is given the machine as well, which is one
argument too many. -/
def call (stub : Stub) (onMachine : Bool) : Option Fault :=
  if onMachine then some (.unexpectedArgument stub.name) else none

end Stub

end StackMachine

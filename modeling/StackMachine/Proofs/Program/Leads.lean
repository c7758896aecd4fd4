import StackMachine.Index
import StackMachine.Program
import StackMachine.Proofs.Machine.Console
import StackMachine.Proofs.Machine.Effect

/-!
Runs of a program that have nothing to do with the console, as a relation between machines. Inside one
function such a run is computed: `Function.steps?` carries out instructions as long as they stay in the
function, so that what a block of code does to a machine with unknown values can be evaluated. Calls and
returns put blocks together.
-/

set_option autoImplicit false

namespace StackMachine

/-- `program.Leads machine last`: the program takes the one machine to the other, by instructions that
succeed whatever the console is and leave it alone. -/
inductive Program.Leads (program : Program) : Machine → Machine → Prop where
  | refl {machine : Machine} : program.Leads machine machine
  | step {machine after last : Machine} {function : Function} {instruction : Instruction}
      (active : program.function machine.current = .ok function)
      (found : itemAt? function.instructions machine.ip = some instruction)
      (silent : instruction.reads = false)
      (carried : ∀ console, machine.execute function.labels console instruction = .done after console)
      (leads : program.Leads { after with ip := after.ip + 1 } last) : program.Leads machine last

/-- Whether an instruction stays in the active function and leaves the console alone. -/
def Instruction.isLocal (instruction : Instruction) : Bool :=
  match instruction.mnemonic with
  | .known op => op.quiet && !instruction.transfers
  | .unknown _ => false

namespace Function

/-- The machine after one instruction of a function, if that is a local one and succeeds. -/
def step? (function : Function) (machine : Machine) : Option Machine :=
  match itemAt? function.instructions machine.ip with
  | none => none
  | some instruction =>
    if instruction.isLocal then
      let outcome := machine.execute function.labels {} instruction
      match outcome.fault with
      | none => some { outcome.machine with ip := outcome.machine.ip + 1 }
      | some _ => none
    else none

def steps? (function : Function) : Nat → Machine → Option Machine
  | 0, machine => some machine
  | count + 1, machine =>
    match function.step? machine with
    | none => none
    | some next => function.steps? count next

end Function

theorem Instruction.reads_of_isLocal {instruction : Instruction} (isLocal : instruction.isLocal = true) :
    instruction.reads = false := by
  obtain ⟨mnemonic, args⟩ := instruction
  cases mnemonic with
  | unknown word => rfl
  | known op =>
      obtain ⟨quiet, -⟩ := Bool.and_eq_true_iff.mp isLocal
      cases op with
      | inputNumber | inputString => cases quiet
      | _ => rfl

/-- A local instruction does not depend on the console, and the active function stays. -/
theorem Instruction.execute_of_isLocal {instruction : Instruction} (isLocal : instruction.isLocal = true)
    (labels : Labels) (machine : Machine)
    (succeeds : (machine.execute labels {} instruction).fault = none) :
    (∀ console, machine.execute labels console instruction =
        .done (machine.execute labels {} instruction).machine console) ∧
      (machine.execute labels {} instruction).machine.current = machine.current := by
  obtain ⟨mnemonic, args⟩ := instruction
  cases mnemonic with
  | unknown word => cases isLocal
  | known op =>
      obtain ⟨quiet, stays⟩ := Bool.and_eq_true_iff.mp isLocal
      constructor
      · intro console
        obtain ⟨after, fault, same⟩ := Machine.perform_quiet labels machine quiet args
        simp only [Machine.execute, same] at succeeds ⊢
        rw [succeeds]
        rfl
      · have effect := Machine.execute_effect labels machine {} ⟨.known op, args⟩
        rw [succeeds] at effect
        generalize (machine.execute labels {} ⟨.known op, args⟩).machine = after at effect
        cases effect with
        | worked | stored | jumped => rfl
        | called isCall => simp [transfers, isCall] at stays
        | returned isRet => simp [transfers, isRet] at stays

namespace Program

variable {program : Program}

/-- The function under a name, if its body is what a listing is read as. -/
theorem function_of_readBody {name : String} {listing : List Char} {function : Function}
    (loaded : ∃ body, readBody true listing = .ok body ∧ program.body? name = some body)
    (read : readBody true listing = .ok (.linked function)) :
    program.function (.text name) = .ok function := by
  obtain ⟨body, readAs, found⟩ := loaded
  obtain rfl := Except.ok.inj (readAs.symm.trans read)
  simp only [Program.function, found]

theorem Leads.trans {machine middle last : Machine} (first : program.Leads machine middle)
    (second : program.Leads middle last) : program.Leads machine last := by
  induction first with
  | refl => exact second
  | step active found silent carried _ ih => exact .step active found silent carried (ih second)

theorem leads_of_step? {function : Function} {machine next : Machine}
    (active : program.function machine.current = .ok function)
    (stepped : function.step? machine = some next) :
    program.Leads machine next ∧ next.current = machine.current := by
  unfold Function.step? at stepped
  cases found : itemAt? function.instructions machine.ip with
  | none => simp [found] at stepped
  | some instruction =>
      simp only [found] at stepped
      split at stepped
      · next isLocal =>
          split at stepped
          · next succeeds =>
              obtain ⟨carried, stays⟩ :=
                Instruction.execute_of_isLocal isLocal function.labels machine succeeds
              obtain rfl := Option.some.inj stepped
              exact ⟨.step active found (Instruction.reads_of_isLocal isLocal) carried .refl, stays⟩
          · cases stepped
      · cases stepped

/-- What a block of local instructions computes, the program leads to. -/
theorem leads_of_steps? {function : Function} {machine last : Machine} (count : Nat)
    (active : program.function machine.current = .ok function)
    (stepped : function.steps? count machine = some last) : program.Leads machine last := by
  induction count generalizing machine with
  | zero =>
      obtain rfl := Option.some.inj stepped
      exact .refl
  | succ count ih =>
      unfold Function.steps? at stepped
      cases step : function.step? machine with
      | none => simp [step] at stepped
      | some next =>
          simp only [step] at stepped
          obtain ⟨leads, stays⟩ := leads_of_step? active step
          exact leads.trans (ih (stays ▸ active) stepped)

section

variable {function : Function} {stack : List Value} {bindings : Bindings} {frames : List Bindings}
  {saved : List ReturnPoint} {ip : Int} {current : Value}

theorem leads_of_call {called : Value} (active : program.function current = .ok function)
    (found : itemAt? function.instructions ip = some (.of .call [])) :
    program.Leads ⟨called :: stack, bindings, frames, saved, ip, current⟩
      ⟨stack, .empty, bindings :: frames, ⟨current, ip⟩ :: saved, 0, called⟩ :=
  .step active found rfl (fun _ => rfl) .refl

theorem leads_of_ret {own : Bindings} {place : ReturnPoint}
    (active : program.function current = .ok function)
    (found : itemAt? function.instructions ip = some (.of .ret [])) :
    program.Leads ⟨stack, own, bindings :: frames, place :: saved, ip, current⟩
      ⟨stack, bindings, frames, saved, place.ip + 1, place.function⟩ :=
  .step active found rfl (fun _ => rfl) .refl

end

end Program

end StackMachine

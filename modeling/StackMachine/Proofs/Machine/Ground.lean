import StackMachine.Proofs.Machine.Form

/-!
Machines that stand on something. What lies under the operands, frames and return points of a machine is
its ground. `Machine.execute_atop` says that an instruction does on a machine over a ground what it does on
the machine alone, as long as it takes nothing from the ground. It holds for failed instructions too if the
ground has no operands.
-/

set_option autoImplicit false

namespace StackMachine

/-- What may lie under the memory of a machine. -/
structure Ground where
  stack : List Value := []
  frames : List Bindings := []
  saved : List ReturnPoint := []

/-- A ground that has nothing for a return to take. -/
def Ground.Frameless (ground : Ground) : Prop :=
  ground.frames = [] ∧ ground.saved = []

def Machine.atop (machine : Machine) (ground : Ground) : Machine :=
  { machine with
    stack := machine.stack ++ ground.stack
    frames := machine.frames ++ ground.frames
    saved := machine.saved ++ ground.saved }

def Outcome.atop (outcome : Outcome) (ground : Ground) : Outcome :=
  { outcome with machine := outcome.machine.atop ground }

/-- Work that does the same over a ground, unless it needs operands that only the ground has. -/
def Grounded (ground : Ground) (work : Machine → Outcome) : Prop :=
  ∀ machine, ground.stack = [] ∨ (work machine).fault = none →
    work (machine.atop ground) = (work machine).atop ground

namespace Grounded

variable {ground : Ground} (console : Console)

theorem done {change : Machine → Machine}
    (commutes : ∀ machine, change (machine.atop ground) = (change machine).atop ground) :
    Grounded ground fun machine => .done (change machine) console := by
  intro machine _
  simp only [Outcome.done, Outcome.atop, commutes]

theorem fail (fault : Fault) : Grounded ground fun machine => .fail machine console fault :=
  fun _ _ => rfl

theorem push (value : Value) : Grounded ground fun machine => .done (machine.push value) console :=
  done console fun _ => rfl

theorem pop {next : Value → Machine → Outcome} (continues : ∀ value, Grounded ground (next value)) :
    Grounded ground fun machine => machine.pop console next := by
  intro machine safe
  dsimp only [Machine.pop] at safe ⊢
  cases operands : machine.stack with
  | nil =>
      -- Nothing is left to take, so the work has failed and the ground must be without operands.
      have bare : ground.stack = [] := by simpa [operands, Outcome.fail] using safe
      have both : (machine.atop ground).stack = [] := by simp [Machine.atop, operands, bare]
      rw [both]
      rfl
  | cons value rest =>
      have both : (machine.atop ground).stack = value :: (rest ++ ground.stack) := by
        simp [Machine.atop, operands]
      rw [operands] at safe
      rw [both]
      exact continues value { machine with stack := rest } safe

theorem deliver (result : Except Fault Value) :
    Grounded ground fun machine => machine.deliver console result := by
  cases result with
  | ok value => exact push console value
  | error fault => exact fail console fault

theorem unary (apply : Value → Except Fault Value) :
    Grounded ground fun machine => machine.pop console fun operand machine =>
      machine.deliver console (apply operand) :=
  pop console fun operand => deliver console (apply operand)

theorem binary (apply : Value → Value → Except Fault Value) :
    Grounded ground fun machine => machine.pop console fun first machine =>
      machine.pop console fun second machine => machine.deliver console (apply first second) :=
  pop console fun first => unary console (apply first)

theorem load (name : Value) : Grounded ground fun machine => machine.load console name := by
  intro machine _
  have bindings : (machine.atop ground).bindings = machine.bindings := rfl
  dsimp only [Machine.load]
  rw [bindings]
  cases name.hashable with
  | false => rfl
  | true => cases machine.bindings.get? name <;> rfl

theorem store (name : Value) : Grounded ground fun machine => machine.store console name := by
  unfold Machine.store
  refine pop console fun value => ?_
  cases name.hashable with
  | false => exact fail console _
  | true => exact done console fun _ => rfl

theorem jump (labels : Labels) (target : Value) :
    Grounded ground fun machine => machine.jump console labels target := by
  unfold Machine.jump
  cases labels.get? target with
  | none => exact fail console _
  | some index => exact done console fun _ => rfl

theorem branch (labels : Labels) (target : Value) :
    Grounded ground fun machine => machine.pop console fun flag machine =>
      if flag.isOne then machine.jump console labels target else .done machine console := by
  refine pop console fun flag => ?_
  cases flag.isOne with
  | true => exact jump console labels target
  | false => exact done console fun _ => rfl

theorem call : Grounded ground fun machine => machine.call console := by
  unfold Machine.call
  exact pop console fun function => done console fun _ => rfl

theorem printTop : Grounded ground fun machine => machine.printTop console := by
  unfold Machine.printTop
  exact pop console fun value machine _ => rfl

theorem readText : Grounded ground fun machine => machine.readText console := by
  intro machine _
  unfold Machine.readText
  obtain ⟨after, answer⟩ := console.input
  cases answer with
  | error fault => rfl
  | ok value => cases value <;> rfl

theorem readNumber : Grounded ground fun machine => machine.readNumber console := by
  intro machine _
  unfold Machine.readNumber
  obtain ⟨after, answer⟩ := console.input
  cases answer with
  | error fault => rfl
  | ok value => cases value <;> rfl

end Grounded

namespace Machine

variable {ground : Ground} {machine : Machine}

/-- A return is the one instruction that takes frames and return points. -/
theorem ret_atop (console : Console)
    (supported : ground.Frameless ∨ machine.frames ≠ [] ∧ machine.saved ≠ []) :
    (machine.atop ground).ret console = (machine.ret console).atop ground := by
  unfold ret
  rcases supported with ⟨noFrames, noPlaces⟩ | ⟨someFrames, somePlaces⟩
  · simp only [atop, noFrames, noPlaces, List.append_nil]
    cases places : machine.saved with
    | nil => simp [Outcome.atop, Outcome.fail, atop, places, noFrames, noPlaces]
    | cons place saved =>
        cases framed : machine.frames with
        | nil => simp [Outcome.atop, Outcome.fail, atop, noFrames, noPlaces]
        | cons bindings frames => simp [Outcome.atop, Outcome.done, atop, noFrames, noPlaces]
  · obtain ⟨bindings, frames, framed⟩ := List.exists_cons_of_ne_nil someFrames
    obtain ⟨place, saved, places⟩ := List.exists_cons_of_ne_nil somePlaces
    simp only [atop, framed, places, List.cons_append]
    rfl

private theorem perform_atop (labels : Labels) (console : Console) (op : Opcode) (args : List Value)
    (operands : ground.stack = [] ∨ (machine.perform labels console op args).fault = none)
    (supported : op = .ret → args = [] →
      ground.Frameless ∨ machine.frames ≠ [] ∧ machine.saved ≠ []) :
    (machine.atop ground).perform labels console op args =
      (machine.perform labels console op args).atop ground := by
  cases op.form args with
  | constant value => exact Grounded.push console value machine operands
  | load name => exact Grounded.load console name machine operands
  | store name => exact Grounded.store console name machine operands
  | arithmetic op => exact Grounded.binary console op.apply machine operands
  | compare op => exact Grounded.binary console op.apply machine operands
  | function op => exact Grounded.unary console op.apply machine operands
  | print => exact Grounded.printTop console machine operands
  | inputString => exact Grounded.readText console machine operands
  | inputNumber => exact Grounded.readNumber console machine operands
  | branch name => exact Grounded.branch console labels (.text name) machine operands
  | jump name => exact Grounded.jump console labels (.text name) machine operands
  | call => exact Grounded.call console machine operands
  | ret => exact ret_atop console (supported rfl rfl)
  | breakpoint args => rfl
  | label args => rfl
  | refused refused =>
      rw [refused.fails, refused.fails]
      rfl

/-- An instruction that takes nothing from the ground does on the machine over it what it does on the
machine alone. Operands are not taken if the ground has none or the instruction succeeds without them, and
frames and return points not if the ground has none or the machine has its own. -/
theorem execute_atop {labels : Labels} {console : Console} {instruction : Instruction}
    (operands : ground.stack = [] ∨ (machine.execute labels console instruction).fault = none)
    (supported : instruction = .of .ret [] →
      ground.Frameless ∨ machine.frames ≠ [] ∧ machine.saved ≠ []) :
    (machine.atop ground).execute labels console instruction =
      (machine.execute labels console instruction).atop ground := by
  obtain ⟨mnemonic, args⟩ := instruction
  cases mnemonic with
  | unknown word => rfl
  | known op =>
      refine perform_atop labels console op args operands ?_
      rintro rfl rfl
      exact supported rfl

end Machine

end StackMachine

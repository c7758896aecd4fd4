import StackMachine.Proofs.Machine.Breakpoint
import StackMachine.Proofs.Machine.Form

/-!
What one instruction can do to the memory of a machine. `Machine.execute_effect` says it once, for every
operation code, carried out or failed, under any labels and on any console; what holds along runs follows
from it without another look at the operation codes.
-/

set_option autoImplicit false

namespace StackMachine

/-- Whether an instruction leaves the active function: whether it is a call or a return. -/
def Instruction.transfers (instruction : Instruction) : Bool :=
  instruction.is .call || instruction.is .ret

/-- The machine and the fault that an instruction may leave behind. A failed instruction has taken the operands that it
works on, or all there are, and changes nothing else unless frames and return points do not pair up. Only a breakpoint
has the fault of a breakpoint. -/
inductive Effect (labels : Labels) (machine : Machine) (instruction : Instruction) :
    Machine → Option Fault → Prop where
  | failed {stack : List Value} {fault : Fault} (left : stack = machine.stack.drop instruction.demand)
      (stop : fault = .breakpoint → instruction.is .breakpoint = true) :
      Effect labels machine instruction { machine with stack } (some fault)
  | worked {stack : List Value} (stays : instruction.transfers = false) :
      Effect labels machine instruction { machine with stack } none
  | stored {stack : List Value} {name value : Value} (stays : instruction.transfers = false)
      (named : instruction.args = [name]) (isStore : instruction.is .storeVar = true) :
      Effect labels machine instruction
        { machine with stack, bindings := machine.bindings.insert name value } none
  | jumped {stack : List Value} {target : Value} {index : Int} (stays : instruction.transfers = false)
      (found : labels.get? target = some index) :
      Effect labels machine instruction { machine with stack, ip := index - 1 } none
  | called {function : Value} {stack : List Value} (isCall : instruction.is .call = true)
      (operands : machine.stack = function :: stack) :
      Effect labels machine instruction { machine with
        stack
        saved := ⟨machine.current, machine.ip⟩ :: machine.saved
        frames := machine.bindings :: machine.frames
        current := function
        bindings := .empty
        ip := -1 } none
  | returned {place : ReturnPoint} {saved : List ReturnPoint} {bindings : Bindings}
      {frames : List Bindings} (isRet : instruction.is .ret = true)
      (places : machine.saved = place :: saved) (framed : machine.frames = bindings :: frames) :
      Effect labels machine instruction { machine with
        saved, frames, bindings, current := place.function, ip := place.ip } none
  | unpaired {place : ReturnPoint} {saved : List ReturnPoint}
      (places : machine.saved = place :: saved) (unframed : machine.frames = []) :
      Effect labels machine instruction { machine with
        saved, frames := [], current := place.function, ip := place.ip } (some .emptyPop)

section

variable {labels : Labels} {machine : Machine} {instruction : Instruction}

/-- A failure that has taken nothing, because nothing is worked on or nothing is there. -/
theorem Effect.refused {fault : Fault} (untaken : instruction.demand = 0 ∨ machine.stack = [])
    (other : fault ≠ .breakpoint) : Effect labels machine instruction machine (some fault) := by
  have left : machine.stack = machine.stack.drop instruction.demand := by
    rcases untaken with idle | empty
    · rw [idle, List.drop_zero]
    · rw [empty, List.drop_nil]
  exact .failed left fun same => absurd same other

/-- A call that succeeds goes one frame deeper, a return one frame back. -/
theorem Effect.depth {after : Machine} (effect : Effect labels machine instruction after none) :
    after.frames.length + (if instruction.is .ret then 1 else 0) =
      machine.frames.length + (if instruction.is .call then 1 else 0) := by
  cases effect with
  | worked stays | stored stays | jumped stays =>
      obtain ⟨noCall, noRet⟩ := Bool.or_eq_false_iff.mp stays
      simp only [noCall, noRet]
  | called isCall operands =>
      have noRet : instruction.is .ret = false := Instruction.is_eq_false_of_is isCall (by decide)
      simp only [isCall, noRet, List.length_cons, if_true]
      rfl
  | returned isRet places framed =>
      have noCall : instruction.is .call = false := Instruction.is_eq_false_of_is isRet (by decide)
      simp only [isRet, noCall, framed, List.length_cons, if_true]
      rfl

/-- An instruction, carried out or failed, keeps as many frames as return points. -/
theorem Effect.paired {after : Machine} {fault : Option Fault}
    (effect : Effect labels machine instruction after fault)
    (paired : machine.frames.length = machine.saved.length) :
    after.frames.length = after.saved.length := by
  cases effect with
  | failed | worked | stored | jumped => exact paired
  | called => exact congrArg (· + 1) paired
  | returned _ places framed =>
      rw [framed, places] at paired
      exact Nat.succ.inj paired
  | unpaired places unframed =>
      rw [places, unframed] at paired
      cases paired

/-- Whether the variables of a machine have a property, and those that calls have saved have it too. -/
def Machine.EachScope (P : Bindings → Prop) (machine : Machine) : Prop :=
  P machine.bindings ∧ ∀ bindings ∈ machine.frames, P bindings

/-- What holds of no variables and is kept by a store is kept by every instruction, carried out or failed. -/
theorem Effect.eachScope {P : Bindings → Prop} {after : Machine} {fault : Option Fault}
    (effect : Effect labels machine instruction after fault) (fresh : P .empty)
    (stores : ∀ (bindings : Bindings) (name value : Value), instruction.is .storeVar = true →
      instruction.args = [name] → P bindings → P (bindings.insert name value))
    (each : machine.EachScope P) : after.EachScope P := by
  obtain ⟨own, saved⟩ := each
  cases effect with
  | failed | worked | jumped => exact ⟨own, saved⟩
  | stored stays named isStore => exact ⟨stores _ _ _ isStore named own, saved⟩
  | called => exact ⟨fresh, List.forall_mem_cons.mpr ⟨own, saved⟩⟩
  | returned isRet places framed =>
      rw [framed] at saved
      exact List.forall_mem_cons.mp saved
  | unpaired => exact ⟨own, nofun⟩

namespace Machine

private theorem deliver_effect {stack : List Value} (console : Console) {result : Except Fault Value}
    (left : stack = machine.stack.drop instruction.demand) (stays : instruction.transfers = false)
    (unbroken : result ≠ .error .breakpoint) :
    Effect labels machine instruction
      (deliver { machine with stack } console result).machine
      (deliver { machine with stack } console result).fault := by
  cases result with
  | ok value => exact .worked stays
  | error fault => exact .failed left fun same => absurd (congrArg Except.error same) unbroken

private theorem jump_effect {stack : List Value} (console : Console) (target : Value)
    (left : stack = machine.stack.drop instruction.demand) (stays : instruction.transfers = false) :
    Effect labels machine instruction
      (jump { machine with stack } console labels target).machine
      (jump { machine with stack } console labels target).fault := by
  unfold jump
  cases found : labels.get? target with
  | none => exact .failed left nofun
  | some index => exact .jumped stays found

private theorem load_effect (console : Console) (name : Value) (idle : instruction.demand = 0)
    (stays : instruction.transfers = false) :
    Effect labels machine instruction (machine.load console name).machine
      (machine.load console name).fault := by
  unfold load
  split
  · split
    · exact .worked stays
    · exact .refused (.inl idle) (Fault.undefined_ne_breakpoint name)
  · exact .refused (.inl idle) nofun

private theorem store_effect (console : Console) (name : Value) (one : instruction.demand = 1)
    (stays : instruction.transfers = false) (named : instruction.args = [name])
    (isStore : instruction.is .storeVar = true) :
    Effect labels machine instruction (machine.store console name).machine
      (machine.store console name).fault := by
  unfold store pop
  cases operands : machine.stack with
  | nil => exact .refused (.inr operands) nofun
  | cons value rest =>
      dsimp only
      split
      · exact .stored stays named isStore
      · exact .failed (by rw [operands, one]; rfl) nofun

private theorem readText_effect (console : Console) (idle : instruction.demand = 0)
    (stays : instruction.transfers = false) :
    Effect labels machine instruction (machine.readText console).machine
      (machine.readText console).fault := by
  have unbroken := console.input_ne_breakpoint
  unfold readText
  generalize console.input = answered at unbroken ⊢
  obtain ⟨after, answer⟩ := answered
  cases answer with
  | error fault => exact .refused (.inl idle) fun same => unbroken (congrArg Except.error same)
  | ok value =>
      cases value with
      | text text => exact .worked stays
      | _ => exact .refused (.inl idle) nofun

private theorem readNumber_effect (console : Console) (idle : instruction.demand = 0)
    (stays : instruction.transfers = false) :
    Effect labels machine instruction (machine.readNumber console).machine
      (machine.readNumber console).fault := by
  have unbroken := console.input_ne_breakpoint
  unfold readNumber
  generalize console.input = answered at unbroken ⊢
  obtain ⟨after, answer⟩ := answered
  cases answer with
  | error fault => exact .refused (.inl idle) fun same => unbroken (congrArg Except.error same)
  | ok value =>
      dsimp only
      split
      · exact .worked stays
      · exact .refused (.inl idle) nofun

private theorem printTop_effect (console : Console) (one : instruction.demand = 1)
    (stays : instruction.transfers = false) :
    Effect labels machine instruction (machine.printTop console).machine
      (machine.printTop console).fault := by
  unfold printTop pop
  cases operands : machine.stack with
  | nil => exact .refused (.inr operands) nofun
  | cons value rest =>
      simp only [Console.print, Value.show]
      cases value.printable with
      | true => exact .worked stays
      | false => exact .failed (by rw [operands, one]; rfl) nofun

private theorem call_effect (console : Console) (isCall : instruction.is .call = true) :
    Effect labels machine instruction (machine.call console).machine (machine.call console).fault := by
  unfold call pop
  cases operands : machine.stack with
  | nil => exact .refused (.inr operands) nofun
  | cons function rest => exact .called isCall operands

private theorem ret_effect (console : Console) (idle : instruction.demand = 0) (isRet : instruction.is .ret = true) :
    Effect labels machine instruction (machine.ret console).machine (machine.ret console).fault := by
  unfold ret
  cases places : machine.saved with
  | nil => exact .refused (.inl idle) nofun
  | cons place saved =>
      dsimp only
      cases framed : machine.frames with
      | nil => exact .unpaired places framed
      | cons bindings frames => exact .returned isRet places framed

private theorem binary_effect (console : Console) {apply : Value → Value → Except Fault Value}
    (two : instruction.demand = 2) (stays : instruction.transfers = false)
    (unbroken : ∀ first second, apply first second ≠ .error .breakpoint) :
    let outcome := machine.pop console fun first machine =>
      machine.pop console fun second machine => machine.deliver console (apply first second)
    Effect labels machine instruction outcome.machine outcome.fault := by
  unfold pop
  cases operands : machine.stack with
  | nil => exact .refused (.inr operands) nofun
  | cons first rest =>
      cases rest with
      | nil => exact .failed (by rw [operands, two]; rfl) nofun
      | cons second rest =>
          exact deliver_effect console (by rw [operands, two]; rfl) stays (unbroken first second)

private theorem unary_effect (console : Console) {apply : Value → Except Fault Value}
    (one : instruction.demand = 1) (stays : instruction.transfers = false)
    (unbroken : ∀ operand, apply operand ≠ .error .breakpoint) :
    let outcome := machine.pop console fun operand machine => machine.deliver console (apply operand)
    Effect labels machine instruction outcome.machine outcome.fault := by
  unfold pop
  cases operands : machine.stack with
  | nil => exact .refused (.inr operands) nofun
  | cons operand rest => exact deliver_effect console (by rw [operands, one]; rfl) stays (unbroken operand)

private theorem branch_effect (console : Console) (target : Value) (one : instruction.demand = 1)
    (stays : instruction.transfers = false) :
    let outcome := machine.pop console fun flag machine =>
      if flag.isOne then machine.jump console labels target else .done machine console
    Effect labels machine instruction outcome.machine outcome.fault := by
  unfold pop
  cases operands : machine.stack with
  | nil => exact .refused (.inr operands) nofun
  | cons flag rest =>
      dsimp only
      split
      · exact jump_effect console target (by rw [operands, one]; rfl) stays
      · exact .worked stays

end Machine

end

namespace Machine

private theorem perform_effect (labels : Labels) (machine : Machine) (console : Console)
    (op : Opcode) (args : List Value) :
    Effect labels machine ⟨.known op, args⟩
      (machine.perform labels console op args).machine
      (machine.perform labels console op args).fault := by
  cases op.form args with
  | constant value => exact .worked rfl
  | load name => exact load_effect console name rfl rfl
  | store name => exact store_effect console name rfl rfl rfl rfl
  | arithmetic op => exact binary_effect console rfl rfl op.apply_ne_breakpoint
  | compare op => exact binary_effect console rfl rfl op.apply_ne_breakpoint
  | function op => exact unary_effect console rfl rfl op.apply_ne_breakpoint
  | print => exact printTop_effect console rfl rfl
  | inputString => exact readText_effect console rfl rfl
  | inputNumber => exact readNumber_effect console rfl rfl
  | branch name => exact branch_effect console (.text name) rfl rfl
  | jump name => exact jump_effect console (.text name) rfl rfl
  | call => exact call_effect console rfl
  | ret => exact ret_effect console rfl rfl
  | breakpoint args => exact .failed rfl fun _ => rfl
  | label args => exact .worked rfl
  | refused refused =>
      rw [refused.fails]
      exact .refused (.inl refused.idle) (Fault.ne_breakpoint_of_blames refused.blames)

/-- Whatever an instruction does, it is one of the effects. Neither the console nor the arguments are
restricted, and the instruction may have no known operation code. -/
theorem execute_effect (labels : Labels) (machine : Machine) (console : Console)
    (instruction : Instruction) :
    Effect labels machine instruction
      (machine.execute labels console instruction).machine
      (machine.execute labels console instruction).fault := by
  obtain ⟨mnemonic, args⟩ := instruction
  cases mnemonic with
  | known op => exact perform_effect labels machine console op args
  | unknown word => exact .refused (.inl rfl) (Fault.unknown_ne_breakpoint _)

theorem is_breakpoint_of_fault {labels : Labels} {machine : Machine} {console : Console}
    {instruction : Instruction}
    (stopped : (machine.execute labels console instruction).fault = some .breakpoint) :
    instruction.is .breakpoint = true := by
  have effect := execute_effect labels machine console instruction
  rw [stopped] at effect
  generalize (machine.execute labels console instruction).machine = after at effect
  cases effect with
  | failed left stop => exact stop rfl

/-- A breakpoint stops whatever its arguments are, and leaves the machine as it was. -/
theorem execute_breakpoint {instruction : Instruction} (isBreakpoint : instruction.is .breakpoint = true)
    (labels : Labels) (machine : Machine) (console : Console) :
    machine.execute labels console instruction =
      .fail machine (console.writeLine "[Breakpoint reached]") .breakpoint := by
  obtain ⟨mnemonic, args⟩ := instruction
  obtain rfl : mnemonic = .known .breakpoint := of_decide_eq_true isBreakpoint
  rfl

end Machine

end StackMachine

import StackMachine.Machine.Run
import StackMachine.Proofs.Machine.Form
import StackMachine.Proofs.Program.Labels

/-!
Stack heights that are known in advance. If a height can be assigned to every place of a code list such that
each instruction finds its operands and leaves the height of wherever it may go on, then the stack has these
heights in every run, through whatever loops it goes, and nothing is ever taken from an empty stack.

The code has no calls and returns, which go on elsewhere, and reads nothing, for a feed may be empty.
-/

set_option autoImplicit false

namespace StackMachine

namespace Opcode

/-- How many operands an operation takes from the stack. -/
def pops : Opcode → Nat
  | .arithmetic _ | .compare _ => 2
  | .storeVar | .function _ | .print | .branch | .call => 1
  | .loadConst | .loadVar | .label | .jump | .inputString | .inputNumber | .ret | .breakpoint => 0

/-- How many values an operation puts on the stack. -/
def pushes : Opcode → Nat
  | .loadConst | .loadVar | .arithmetic _ | .compare _ | .function _ | .inputString | .inputNumber => 1
  | .storeVar | .label | .jump | .branch | .print | .call | .ret | .breakpoint => 0

/-- Whether an operation stays in its code list and reads nothing. -/
def selfContained : Opcode → Bool
  | .call | .ret | .inputString | .inputNumber => false
  | _ => true

end Opcode

def Instruction.selfContained (instruction : Instruction) : Bool :=
  match instruction.mnemonic with
  | .known op => op.selfContained
  | .unknown _ => true

/-- The name that a jump, conditional or not, may go to. -/
def Instruction.target? (instruction : Instruction) : Option String :=
  match instruction with
  | ⟨.known .jump, [.text name]⟩ => some name
  | ⟨.known .branch, [.text name]⟩ => some name
  | _ => none

/-- Whether heights fit the instruction at an index: there are enough operands, and what is left after it is
the height at the next index, unless it always jumps, and at the label that it may jump to. An instruction
that has no known operation code is not carried out. -/
def Instruction.Fits (code : List Instruction) (height : Nat → Nat) (index : Nat)
    (instruction : Instruction) : Prop :=
  match instruction.mnemonic with
  | .unknown _ => True
  | .known op =>
    op.pops ≤ height index ∧
      (op ≠ .jump → height index - op.pops + op.pushes = height (index + 1)) ∧
      ∀ name ∈ instruction.target?, ∀ place ∈ Listing.lastLabel? name code,
        height index - op.pops + op.pushes = height place

instance (code : List Instruction) (height : Nat → Nat) (index : Nat) :
    (instruction : Instruction) → Decidable (instruction.Fits code height index)
  | ⟨.unknown _, _⟩ => inferInstanceAs (Decidable True)
  | ⟨.known _, _⟩ => inferInstanceAs (Decidable (_ ∧ _ ∧ _))

/-- Heights that start with nothing on the stack and fit all instructions of a code list. -/
structure FitHeights (code : List Instruction) (height : Nat → Nat) : Prop where
  start : height 0 = 0
  fits : ∀ index < code.length, ∀ instruction ∈ code[index]?, instruction.Fits code height index

/-- How an operation that has its operands may come out: it fails, but not for anything out of range, or the
stack is as high as it should be and the instruction pointer stands still or before a label. -/
inductive Landing (labels : Labels) (machine : Machine) (op : Opcode) (args : List Value) :
    Outcome → Prop where
  | failed {outcome : Outcome} {fault : Fault} (faulty : outcome.fault = some fault)
      (inRange : fault.classOf ≠ .index) : Landing labels machine op args outcome
  | onward {outcome : Outcome} (carried : outcome.fault = none) (falls : op ≠ .jump)
      (pointer : outcome.machine.ip = machine.ip)
      (height : outcome.machine.stack.length = machine.stack.length - op.pops + op.pushes) :
      Landing labels machine op args outcome
  | jumped {outcome : Outcome} {name : String} {index : Int} (carried : outcome.fault = none)
      (targeted : (Instruction.mk (.known op) args).target? = some name)
      (found : labels.get? (.text name) = some index) (pointer : outcome.machine.ip = index - 1)
      (height : outcome.machine.stack.length = machine.stack.length - op.pops + op.pushes) :
      Landing labels machine op args outcome

section

variable {labels : Labels} {machine : Machine} {op : Opcode} {args : List Value}

theorem Fault.inRange_of_blamesOperands {fault : Fault} (blames : fault.blamesOperands = true) :
    fault.classOf ≠ .index := by
  intro outOfRange
  rw [blamesOperands, outOfRange] at blames
  cases blames

namespace Machine

private theorem deliver_landing {stack : List Value} (console : Console) {result : Except Fault Value}
    (blames : ∀ fault, result = .error fault → fault.blamesOperands = true) (falls : op ≠ .jump)
    (height : stack.length + 1 = machine.stack.length - op.pops + op.pushes) :
    Landing labels machine op args (deliver { machine with stack } console result) := by
  cases result with
  | ok value => exact .onward rfl falls rfl height
  | error fault => exact .failed rfl (Fault.inRange_of_blamesOperands (blames fault rfl))

private theorem jump_landing {stack : List Value} {name : String} (console : Console)
    (targeted : (Instruction.mk (.known op) args).target? = some name)
    (height : stack.length = machine.stack.length - op.pops + op.pushes) :
    Landing labels machine op args (jump { machine with stack } console labels (.text name)) := by
  unfold jump
  cases found : labels.get? (.text name) with
  | none => exact .failed rfl nofun
  | some index => exact .jumped rfl targeted found rfl height

end Machine

end

namespace Machine

variable (labels : Labels) (console : Console)

private theorem load_landing (machine : Machine) (name : Value) :
    Landing labels machine .loadVar [name] (machine.load console name) := by
  unfold load
  split
  · split
    · exact .onward rfl nofun rfl rfl
    · refine .failed rfl ?_
      unfold Fault.undefined
      split <;> exact nofun
  · exact .failed rfl nofun

private theorem store_landing {machine : Machine} (name : Value) (enough : 1 ≤ machine.stack.length) :
    Landing labels machine .storeVar [name] (machine.store console name) := by
  obtain ⟨value, rest, operands⟩ := List.exists_cons_of_length_pos enough
  simp only [store, pop, operands]
  split
  · refine .onward rfl nofun rfl ?_
    rw [operands]
    rfl
  · exact .failed rfl nofun

private theorem unary_landing {machine : Machine} {op : Opcode} (apply : Value → Except Fault Value)
    (blames : ∀ operand fault, apply operand = .error fault → fault.blamesOperands = true)
    (takesOne : op.pops = 1) (leavesOne : op.pushes = 1) (enough : 1 ≤ machine.stack.length) :
    Landing labels machine op [] (machine.pop console fun operand machine =>
      machine.deliver console (apply operand)) := by
  obtain ⟨operand, rest, operands⟩ := List.exists_cons_of_length_pos enough
  have falls : op ≠ .jump := by
    rintro rfl
    cases takesOne
  simp only [pop, operands]
  refine deliver_landing console (blames operand) falls ?_
  rw [operands, takesOne, leavesOne]
  rfl

private theorem binary_landing {machine : Machine} {op : Opcode}
    (apply : Value → Value → Except Fault Value)
    (blames : ∀ first second fault, apply first second = .error fault → fault.blamesOperands = true)
    (takesTwo : op.pops = 2) (leavesOne : op.pushes = 1) (enough : 2 ≤ machine.stack.length) :
    Landing labels machine op [] (machine.pop console fun first machine =>
      machine.pop console fun second machine => machine.deliver console (apply first second)) := by
  obtain ⟨first, others, operands⟩ := List.exists_cons_of_length_pos (Nat.lt_of_lt_of_le Nat.two_pos enough)
  rw [operands, List.length_cons] at enough
  obtain ⟨second, rest, rfl⟩ := List.exists_cons_of_length_pos (Nat.le_of_succ_le_succ enough)
  have falls : op ≠ .jump := by
    rintro rfl
    cases takesTwo
  simp only [pop, operands]
  refine deliver_landing console (blames first second) falls ?_
  rw [operands, takesTwo, leavesOne]
  rfl

private theorem printTop_landing {machine : Machine} (enough : 1 ≤ machine.stack.length) :
    Landing labels machine .print [] (machine.printTop console) := by
  obtain ⟨value, rest, operands⟩ := List.exists_cons_of_length_pos enough
  simp only [printTop, pop, operands, Console.print, Value.show]
  cases value.printable with
  | true =>
      refine .onward rfl nofun rfl ?_
      rw [operands]
      rfl
  | false => exact .failed rfl nofun

private theorem branch_landing {machine : Machine} (name : String) (enough : 1 ≤ machine.stack.length) :
    Landing labels machine .branch [.text name] (machine.pop console fun flag machine =>
      if flag.isOne then machine.jump console labels (.text name) else .done machine console) := by
  obtain ⟨flag, rest, operands⟩ := List.exists_cons_of_length_pos enough
  have height : rest.length = machine.stack.length - Opcode.branch.pops + Opcode.branch.pushes := by
    rw [operands]
    rfl
  simp only [pop, operands]
  split
  · exact jump_landing console rfl height
  · exact .onward rfl nofun rfl height

/-- One operation, of whatever arguments. -/
theorem perform_landing {machine : Machine} {op : Opcode} (args : List Value)
    (contained : op.selfContained = true) (enough : op.pops ≤ machine.stack.length) :
    Landing labels machine op args (machine.perform labels console op args) := by
  cases op.form args with
  | constant value => exact .onward rfl nofun rfl rfl
  | load name => exact load_landing labels console machine name
  | store name => exact store_landing labels console name enough
  | arithmetic op =>
      exact binary_landing labels console op.apply (fun _ _ _ => Arithmetic.blamesOperands_of_apply) rfl rfl enough
  | compare op =>
      exact binary_landing labels console op.apply (fun _ _ _ => Comparison.blamesOperands_of_apply) rfl rfl enough
  | function op =>
      exact unary_landing labels console op.apply (fun _ _ => UnaryFunction.blamesOperands_of_apply) rfl rfl enough
  | print => exact printTop_landing labels console enough
  | branch name => exact branch_landing labels console name enough
  | jump name => exact jump_landing console rfl rfl
  | breakpoint args => exact .failed rfl nofun
  | label args => exact .onward rfl nofun rfl rfl
  | call | ret | inputString | inputNumber => cases contained
  | refused refused =>
      rw [refused.fails]
      exact .failed rfl (Fault.inRange_of_blamesOperands refused.blames)

end Machine

namespace Run

variable {code : List Instruction} {height : Nat → Nat} {labels : Labels}

/-- A run that stands at an index of its code, or at the end, with a stack as high as it should be there. -/
structure AtHeight (code : List Instruction) (height : Nat → Nat) (run : Run) : Prop where
  low : 0 ≤ run.machine.ip
  high : run.machine.ip ≤ code.length
  level : run.machine.stack.length = height run.machine.ip.toNat

/-- Where an operation lands that heights fit. -/
theorem atHeight_of_landing {machine : Machine} {op : Opcode} {args : List Value} {outcome : Outcome}
    (landing : Landing labels machine op args outcome) (located : labels.Locate code) {index : Nat}
    (inside : index < code.length) (pointer : machine.ip = index)
    (level : machine.stack.length = height index)
    (fits : Instruction.Fits code height index ⟨.known op, args⟩) (visited : List Int) :
    (outcome.fault = none → AtHeight code height
        ⟨{ outcome.machine with ip := outcome.machine.ip + 1 }, outcome.console, visited⟩) ∧
      ∀ fault, outcome.fault = some fault → fault.classOf ≠ .index := by
  obtain ⟨-, onward, across⟩ := fits
  cases landing with
  | failed faulty inRange =>
      rw [faulty]
      refine ⟨nofun, ?_⟩
      rintro _ ⟨⟩
      exact inRange
  | onward carried falls still left =>
      have moved : outcome.machine.ip + 1 = (index + 1 : Nat) := by omega
      rw [carried]
      refine ⟨fun _ => ⟨?_, ?_, ?_⟩, nofun⟩
      · dsimp only
        omega
      · dsimp only
        omega
      · dsimp only
        rw [moved, Int.toNat_natCast, left, level]
        exact onward falls
  | @jumped name target carried targeted found jumped left =>
      rw [located name] at found
      obtain ⟨place, last, rfl⟩ := Option.map_eq_some_iff.mp found
      have bound := Listing.lastLabel?_lt last
      have landed : outcome.machine.ip + 1 = place := by simp [jumped]
      rw [carried]
      refine ⟨fun _ => ⟨?_, ?_, ?_⟩, nofun⟩
      · dsimp only
        omega
      · dsimp only
        omega
      · dsimp only
        rw [landed, Int.toNat_natCast, left, level]
        exact across name targeted place last

/-- One instruction. -/
theorem advance_atHeight (fit : FitHeights code height) (located : labels.Locate code)
    (contained : ∀ instruction ∈ code, instruction.selfContained = true) {run next : Run}
    {status : RunStatus} (placed : run.AtHeight code height)
    (advanced : run.advance labels code = (next, status)) :
    match status with
    | .going => next.AtHeight code height
    | .finished => next.machine.stack.length = height code.length
    | .failed fault => fault.classOf ≠ .index := by
  obtain ⟨low, high, level⟩ := placed
  unfold advance at advanced
  split at advanced
  · next inside =>
      obtain ⟨instruction, found⟩ := exists_itemAt low inside
      have item := getElem?_of_itemAt low found
      have before : run.machine.ip.toNat < code.length := by omega
      have fits := fit.fits run.machine.ip.toNat before instruction item
      have own := contained instruction (List.mem_of_getElem? item)
      obtain ⟨mnemonic, args⟩ := instruction
      simp only [found] at advanced
      cases mnemonic with
      | unknown word =>
          obtain ⟨-, rfl⟩ := Prod.mk.inj advanced
          dsimp only
          unfold Fault.unknown
          split <;> exact nofun
      | known op =>
          have enough : op.pops ≤ run.machine.stack.length := level ▸ fits.1
          have landing := Machine.perform_landing labels run.console args own enough
          obtain ⟨lands, inRange⟩ := atHeight_of_landing landing located before
            (Int.toNat_of_nonneg low).symm level fits (run.machine.ip :: run.visited)
          simp only [Machine.execute] at advanced
          cases result : (run.machine.perform labels run.console op args).fault with
          | none =>
              simp only [result] at advanced
              obtain ⟨rfl, rfl⟩ := Prod.mk.inj advanced
              exact lands result
          | some fault =>
              simp only [result] at advanced
              obtain ⟨-, rfl⟩ := Prod.mk.inj advanced
              exact inRange fault result
  · next past =>
      obtain ⟨rfl, rfl⟩ := Prod.mk.inj advanced
      have atEnd : run.machine.ip.toNat = code.length := by omega
      dsimp only
      rw [level, atEnd]

/-- What heights that fit promise of a run, by how it ended. -/
def KeepsHeight (code : List Instruction) (height : Nat → Nat) : Run × RunEnd → Prop
  | (run, .outOfFuel) => run.AtHeight code height
  | (run, .finished) => run.machine.stack.length = height code.length
  | (_, .failed fault) => fault.classOf ≠ .index

theorem forward_keepsHeight (fit : FitHeights code height) (located : labels.Locate code)
    (contained : ∀ instruction ∈ code, instruction.selfContained = true) (fuel : Nat) {run : Run}
    (placed : run.AtHeight code height) : KeepsHeight code height (forward labels code fuel run) := by
  induction fuel generalizing run with
  | zero => exact placed
  | succ fuel ih =>
      rw [forward]
      cases advanced : run.advance labels code with
      | mk next status =>
          have step := advance_atHeight fit located contained placed advanced
          cases status with
          | going => exact ih step
          | finished => exact step
          | failed fault => exact step

/-- Suppose heights fit the instructions of a code list that has no calls, returns and reads, and its labels
are known. Then a new machine that runs the code has a stack of the height of its place whenever it stands
before an instruction, as it does each time that fuel for the instructions so far is used up. At the end
the stack has the height of the end. If an instruction fails, it fails for nothing out of range: neither
does it lack operands, nor is there no instruction. Jumps to names without a label are allowed; they fail
for that. -/
theorem stack_has_fitting_height (code : List Instruction) (labels : Labels) (height : Nat → Nat)
    (contained : ∀ instruction ∈ code, instruction.selfContained = true)
    (located : labels.Locate code) (fit : FitHeights code height) (console : Console) (fuel : Nat) :
    match forward labels code fuel ⟨{}, console, []⟩ with
    | (run, .outOfFuel) =>
      0 ≤ run.machine.ip ∧ run.machine.ip ≤ code.length ∧
        run.machine.stack.length = height run.machine.ip.toNat
    | (run, .finished) => run.machine.stack.length = height code.length
    | (_, .failed fault) => fault.classOf ≠ .index := by
  have placed : AtHeight code height ⟨{}, console, []⟩ :=
    ⟨Int.le_refl 0, Int.natCast_nonneg code.length, fit.start.symm⟩
  have kept := forward_keepsHeight fit located contained fuel placed
  generalize forward labels code fuel ⟨{}, console, []⟩ = result at kept
  obtain ⟨last, ending⟩ := result
  cases ending with
  | outOfFuel => exact ⟨kept.low, kept.high, kept.level⟩
  | finished => exact kept
  | failed fault => exact kept

/-- Counts down from three with a word printed at each count, and the count left on the stack from one round
to the next. A jump at the end leads over an instruction that is never come to. -/
def countingDown : List Instruction := [
  .of .loadConst [.int 3], .of .label [.text "again"], .of .storeVar [.text "n"],
  .of .loadConst [.text "tick"], .of .print [],
  .of .loadConst [.int 1], .of .loadVar [.text "n"], .of (.arithmetic .sub) [], .of .storeVar [.text "n"],
  .of .loadVar [.text "n"], .of .loadConst [.int 0], .of .loadVar [.text "n"], .of (.compare .gt) [],
  .of .branch [.text "again"], .of .jump [.text "end"], .of .print [], .of .label [.text "end"]]

def countingHeight (index : Nat) : Nat :=
  [0, 1, 1, 0, 1, 0, 1, 2, 1, 0, 1, 2, 3, 2, 1, 2, 1, 1].getD index 0

def countingLabels : Labels := ⟨[(.text "again", 1), (.text "end", 16)]⟩

/-- After thirty instructions the run is before the print of its third round, and after forty-two it has
come to the end. -/
theorem stack_has_fitting_height_countingDown :
    (∀ instruction ∈ countingDown, instruction.selfContained = true) ∧
      countingLabels.Locate countingDown ∧ FitHeights countingDown countingHeight ∧
      ∃ during last, forward countingLabels countingDown 30 ⟨{}, {}, []⟩ = (during, .outOfFuel) ∧
        during.machine.ip = 4 ∧ during.machine.stack.length = countingHeight 4 ∧
        forward countingLabels countingDown 43 ⟨{}, {}, []⟩ = (last, .finished) ∧
        last.machine.stack.length = countingHeight 17 := by
  have contained : ∀ instruction ∈ countingDown, instruction.selfContained = true := by decide
  have located : countingLabels.Locate countingDown := Listing.locate_labels rfl
  have fit : FitHeights countingDown countingHeight := ⟨rfl, by decide⟩
  have heights := stack_has_fitting_height countingDown countingLabels countingHeight contained located fit {}
  exact ⟨contained, located, fit, _, _, rfl, rfl, (heights 30).2.2, rfl, heights 43⟩

end Run

end StackMachine

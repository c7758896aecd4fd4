import StackMachine.Proofs.Machine.Console
import StackMachine.Proofs.Machine.Destination

/-!
Instructions that find something missing. Two classes of faults tell of it, and debuggers judge by the class alone.
Something is out of range if and only if an instruction takes from where there is nothing: from too small a stack, from
no return point, from an exhausted buffer (`Machine.index_iff_starves`). A key is missing if and only if an instruction
jumps to a name without a label (`Machine.key_iff_strays`), unless a feed takes its answers from a dictionary.
-/

set_option autoImplicit false

namespace StackMachine

/-- Whether a fault tells of something missing. -/
def Fault.lacking (fault : Fault) : Bool :=
  match fault.classOf with
  | .index | .key => true
  | _ => false

/-- Instructions that take from where there is nothing. A feed that refuses prompts is never taken from. -/
inductive Instruction.Starves (machine : Machine) (console : Console) : Instruction → Prop where
  | operands {instruction : Instruction} (few : machine.stack.length < instruction.demand) :
      Starves machine console instruction
  | uncalled (outermost : machine.saved = [] ∨ machine.frames = []) : Starves machine console (.of .ret [])
  | unfed {op : Opcode} {style : FeedStyle} (reads : (Instruction.of op []).reads = true)
      (asks : style ≠ .silent) (spent : console.feed = some ⟨style, .list []⟩) :
      Starves machine console (.of op [])

/-- Whether an instruction jumps to a name that has no label. -/
def Instruction.Strays (labels : Labels) (machine : Machine) (instruction : Instruction) : Prop :=
  ∃ name, instruction.Jumps machine name ∧ labels.get? (.text name) = none

/-- What an instruction lacks, by the fault that tells of it. -/
inductive Instruction.Lacks (labels : Labels) (machine : Machine) (console : Console) (instruction : Instruction) :
    Fault → Prop where
  | supply (starves : instruction.Starves machine console) : Lacks labels machine console instruction .emptyPop
  | label {name : String} (jumps : instruction.Jumps machine name) (absent : labels.get? (.text name) = none) :
      Lacks labels machine console instruction (.missingKey (.text name))
  | entry {style : FeedStyle} {entries : List (Value × Value)}
      (fed : console.feed = some ⟨style, .dict entries⟩) :
      Lacks labels machine console instruction (.missingKey (.int 0))

/-- Whether an outcome is that of work on `count` operands: without them it fails, and with them it lacks nothing
but what `lacks` allows. -/
structure Outcome.Draws (lacks : Fault → Prop) (machine : Machine) (count : Nat) (outcome : Outcome) : Prop where
  short : machine.stack.length < count → outcome.fault = some .emptyPop
  sound : count ≤ machine.stack.length → ∀ fault, outcome.fault = some fault → fault.lacking = true → lacks fault

theorem Fault.not_lacking_of_blamesOperands {fault : Fault} (blames : fault.blamesOperands = true) :
    fault.lacking = false := by
  unfold blamesOperands at blames
  unfold lacking
  cases kind : fault.classOf with
  | index | key =>
      rw [kind] at blames
      cases blames
  | _ => rfl

/-- Reading can be interrupted or find nothing to read, and that is of other classes. -/
theorem Terminal.not_lacking_of_read {terminal : Terminal} {prompt : String} {fault : Fault}
    (failed : (terminal.read prompt).2 = .error fault) : fault.lacking = false := by
  unfold read at failed
  dsimp only at failed
  split at failed <;> cases failed <;> rfl

namespace Outcome.Draws

variable {lacks : Fault → Prop} {machine : Machine} {console : Console}

theorem done (after : Machine) (written : Console) : Draws lacks machine 0 (.done after written) :=
  ⟨fun few => absurd few (Nat.not_lt_zero _), nofun⟩

theorem fail (written : Console) {fault : Fault} (allowed : fault.lacking = true → lacks fault) :
    Draws lacks machine 0 (.fail machine written fault) := by
  refine ⟨fun few => absurd few (Nat.not_lt_zero _), ?_⟩
  intro _ other same
  obtain rfl := Option.some.inj same
  exact allowed

theorem refuse (written : Console) {fault : Fault} (other : fault.lacking = false) :
    Draws lacks machine 0 (.fail machine written fault) :=
  fail written fun lacking => absurd lacking (by rw [other]; decide)

theorem pop {next : Value → Machine → Outcome} {count : Nat}
    (onward : ∀ (value : Value) (rest : List Value), machine.stack = value :: rest →
      Draws lacks { machine with stack := rest } count (next value { machine with stack := rest })) :
    Draws lacks machine (count + 1) (machine.pop console next) := by
  unfold Machine.pop
  cases operands : machine.stack with
  | nil =>
      refine ⟨fun _ => rfl, fun enough => ?_⟩
      rw [operands] at enough
      cases enough
  | cons value rest =>
      obtain ⟨short, sound⟩ := onward value rest operands
      constructor
      · intro few
        rw [operands] at few
        exact short (Nat.lt_of_succ_lt_succ few)
      · intro enough
        rw [operands] at enough
        exact sound (Nat.le_of_succ_le_succ enough)

theorem deliver {result : Except Fault Value}
    (blames : ∀ fault, result = .error fault → fault.blamesOperands = true) :
    Draws lacks machine 0 (machine.deliver console result) := by
  cases result with
  | ok value => exact done _ console
  | error fault => exact refuse console (Fault.not_lacking_of_blamesOperands (blames fault rfl))

theorem unary {apply : Value → Except Fault Value}
    (blames : ∀ operand fault, apply operand = .error fault → fault.blamesOperands = true) :
    Draws lacks machine 1 (machine.pop console fun operand machine => machine.deliver console (apply operand)) :=
  pop fun operand _ _ => deliver (blames operand)

theorem binary {apply : Value → Value → Except Fault Value}
    (blames : ∀ first second fault, apply first second = .error fault → fault.blamesOperands = true) :
    Draws lacks machine 2
      (machine.pop console fun first machine =>
        machine.pop console fun second machine => machine.deliver console (apply first second)) :=
  pop fun first _ _ => unary (blames first)

theorem load (name : Value) : Draws lacks machine 0 (machine.load console name) := by
  unfold Machine.load
  split
  · split
    · exact done _ console
    · refine refuse console ?_
      unfold Fault.undefined
      split <;> rfl
  · exact refuse console rfl

theorem store (name : Value) : Draws lacks machine 1 (machine.store console name) := by
  refine pop ?_
  intro value rest _
  split
  · exact done _ console
  · exact refuse console rfl

theorem call : Draws lacks machine 1 (machine.call console) :=
  pop fun _ _ _ => done _ console

theorem printTop : Draws lacks machine 1 (machine.printTop console) := by
  refine pop ?_
  intro value rest _
  unfold Console.print
  cases shown : value.show with
  | ok text => exact done _ _
  | error fault =>
      refine refuse console ?_
      unfold Value.show at shown
      split at shown <;> cases shown
      rfl

end Outcome.Draws

namespace Machine

open Outcome (Draws)

section

variable {labels : Labels} {machine : Machine} {console : Console} {instruction : Instruction}
  {lacks : Fault → Prop}

theorem jump_draws {name : String} (allowed : labels.get? (.text name) = none → lacks (.missingKey (.text name))) :
    Draws lacks machine 0 (machine.jump console labels (.text name)) := by
  unfold jump
  cases found : labels.get? (.text name) with
  | some index => exact .done _ console
  | none => exact .fail console fun _ => allowed found

theorem branch_draws {name : String}
    (allowed : ∀ flag rest, machine.stack = flag :: rest → flag.isOne = true → labels.get? (.text name) = none →
      lacks (.missingKey (.text name))) :
    Draws lacks machine 1
      (machine.pop console fun flag machine =>
        if flag.isOne then machine.jump console labels (.text name) else .done machine console) := by
  refine .pop ?_
  intro flag rest operands
  split
  · next one => exact jump_draws (allowed flag rest operands one)
  · exact .done _ console

theorem ret_draws (allowed : machine.saved = [] ∨ machine.frames = [] → lacks .emptyPop) :
    Draws lacks machine 0 (machine.ret console) := by
  unfold ret
  cases places : machine.saved with
  | nil => exact .fail console fun _ => allowed (.inl places)
  | cons place saved =>
      cases framed : machine.frames with
      | cons bindings frames => exact .done _ console
      | nil =>
          refine ⟨fun few => absurd few (Nat.not_lt_zero _), ?_⟩
          intro _ fault same _
          obtain rfl := Option.some.inj same
          exact allowed (.inr framed)

/-- What a feed can lack when a read takes its first answer. -/
theorem lacks_of_takeFirst {buffer : Value} {fault : Fault} (failed : Feed.takeFirst buffer = .error fault)
    (lacking : fault.lacking = true) :
    buffer = .list [] ∧ fault = .emptyPop ∨ (∃ entries, buffer = .dict entries) ∧ fault = .missingKey (.int 0) := by
  unfold Feed.takeFirst at failed
  split at failed
  · cases failed
    exact .inl ⟨rfl, rfl⟩
  · cases failed
  · split at failed <;> cases failed
    exact .inr ⟨⟨_, rfl⟩, rfl⟩
  · cases failed
    cases lacking

theorem lacks_of_input {op : Opcode} {fault : Fault} (reads : (Instruction.of op []).reads = true)
    (failed : console.input.2 = .error fault) (lacking : fault.lacking = true) :
    (Instruction.of op []).Lacks labels machine console fault := by
  unfold Console.input at failed
  cases fed : console.feed with
  | none =>
      rw [fed] at failed
      rw [Terminal.not_lacking_of_read (eq_error_of_map failed)] at lacking
      cases lacking
  | some feed =>
      obtain ⟨style, buffer⟩ := feed
      rw [fed] at failed
      dsimp only at failed
      cases taken : Feed.take ⟨style, buffer⟩ 1 with
      | ok answer =>
          rw [taken] at failed
          cases failed
      | error other =>
          rw [taken] at failed
          obtain rfl := Except.error.inj failed
          have first : style ≠ .silent ∧ Feed.takeFirst buffer = .error other := by
            cases style with
            | silent =>
                cases taken
                cases lacking
            | prompted => exact ⟨nofun, eq_error_of_map taken⟩
            | adaptive =>
                cases buffer with
                | list items => exact ⟨nofun, eq_error_of_map taken⟩
                | _ => cases taken
          rcases lacks_of_takeFirst first.2 lacking with ⟨rfl, rfl⟩ | ⟨⟨entries, rfl⟩, rfl⟩
          · exact .supply (.unfed reads first.1 fed)
          · exact .entry fed

theorem readText_draws (allowed : ∀ fault, console.input.2 = .error fault → fault.lacking = true → lacks fault) :
    Draws lacks machine 0 (machine.readText console) := by
  unfold readText
  cases read : console.input with
  | mk written answer =>
      rw [read] at allowed
      cases answer with
      | error fault => exact .fail written (allowed fault rfl)
      | ok value =>
          cases value with
          | text text => exact .done _ written
          | _ => exact .refuse written rfl

theorem readNumber_draws (allowed : ∀ fault, console.input.2 = .error fault → fault.lacking = true → lacks fault) :
    Draws lacks machine 0 (machine.readNumber console) := by
  unfold readNumber
  cases read : console.input with
  | mk written answer =>
      rw [read] at allowed
      cases answer with
      | error fault => exact .fail written (allowed fault rfl)
      | ok value =>
          dsimp only
          split
          · exact .done _ written
          · exact .refuse written rfl

theorem perform_draws (labels : Labels) (machine : Machine) (console : Console) (op : Opcode) (args : List Value) :
    Draws ((Instruction.of op args).Lacks labels machine console) machine (Instruction.of op args).demand
      (machine.perform labels console op args) := by
  cases op.form args with
  | constant value => exact .done _ console
  | load name => exact .load name
  | store name => exact .store name
  | arithmetic op => exact .binary fun _ _ _ => Arithmetic.blamesOperands_of_apply
  | compare op => exact .binary fun _ _ _ => Comparison.blamesOperands_of_apply
  | function op => exact .unary fun _ _ => UnaryFunction.blamesOperands_of_apply
  | print => exact .printTop
  | inputString => exact readText_draws fun _ => lacks_of_input rfl
  | inputNumber => exact readNumber_draws fun _ => lacks_of_input rfl
  | branch name => exact branch_draws fun flag rest operands one absent => .label (.taken operands one) absent
  | jump name => exact jump_draws fun absent => .label .always absent
  | call => exact .call
  | ret => exact ret_draws fun outermost => .supply (.uncalled outermost)
  | breakpoint args => exact .refuse _ rfl
  | label args => exact .done machine console
  | refused refused =>
      rw [refused.idle, refused.fails]
      exact .refuse console (Fault.not_lacking_of_blamesOperands refused.blames)

theorem execute_draws (labels : Labels) (machine : Machine) (console : Console) (instruction : Instruction) :
    Draws (instruction.Lacks labels machine console) machine instruction.demand
      (machine.execute labels console instruction) := by
  obtain ⟨mnemonic, args⟩ := instruction
  cases mnemonic with
  | known op => exact perform_draws labels machine console op args
  | unknown word =>
      refine .refuse console ?_
      unfold Fault.unknown
      split <;> rfl

theorem lacks_of_execute {fault : Fault} (failed : (machine.execute labels console instruction).fault = some fault)
    (lacking : fault.lacking = true) : instruction.Lacks labels machine console fault := by
  obtain ⟨short, sound⟩ := execute_draws labels machine console instruction
  rcases Nat.lt_or_ge machine.stack.length instruction.demand with few | enough
  · obtain rfl := Option.some.inj (failed.symm.trans (short few))
    exact .supply (.operands few)
  · exact sound enough fault failed lacking

theorem execute_of_starves (labels : Labels) (starves : instruction.Starves machine console) :
    (machine.execute labels console instruction).fault = some .emptyPop := by
  cases starves with
  | operands few => exact (execute_draws labels machine console instruction).short few
  | uncalled outermost =>
      change (machine.ret console).fault = _
      unfold ret
      cases places : machine.saved with
      | nil => rfl
      | cons place saved =>
          have unframed : machine.frames = [] := outermost.resolve_left (by rw [places]; exact nofun)
          rw [unframed]
          rfl
  | @unfed op style reads asks spent =>
      have read : console.input = (console, .error .emptyPop) := by
        unfold Console.input
        rw [spent]
        cases style with
        | silent => exact absurd rfl asks
        | prompted | adaptive => rfl
      cases op with
      | inputString =>
          change (machine.readText console).fault = _
          rw [readText, read]
          rfl
      | inputNumber =>
          change (machine.readNumber console).fault = _
          rw [readNumber, read]
          rfl
      | _ => cases reads

theorem execute_of_strays {name : String} (console : Console) (jumps : instruction.Jumps machine name)
    (absent : labels.get? (.text name) = none) :
    (machine.execute labels console instruction).fault = some (.missingKey (.text name)) := by
  have lost : ∀ machine : Machine, (machine.jump console labels (.text name)).fault =
      some (.missingKey (.text name)) := by
    intro machine
    rw [jump, absent]
    rfl
  cases jumps with
  | always => exact lost machine
  | taken operands one =>
      simp only [execute, Instruction.of, perform, Machine.pop, operands, one, if_true]
      exact lost _

/-- Something is out of range for an instruction if and only if it takes from where there is nothing. -/
theorem index_iff_starves : (∃ fault, (machine.execute labels console instruction).fault = some fault ∧
    fault.classOf = .index) ↔ instruction.Starves machine console := by
  constructor
  · rintro ⟨fault, failed, index⟩
    have lacking : fault.lacking = true := by rw [Fault.lacking, index]
    cases lacks_of_execute failed lacking with
    | supply starves => exact starves
    | label | entry => cases index
  · exact fun starves => ⟨.emptyPop, execute_of_starves labels starves, rfl⟩

/-- A key is missing for an instruction if and only if it jumps to a name without a label. -/
theorem key_iff_strays (noEntries : ∀ style entries, console.feed ≠ some ⟨style, .dict entries⟩) :
    (∃ fault, (machine.execute labels console instruction).fault = some fault ∧ fault.classOf = .key) ↔
      instruction.Strays labels machine := by
  constructor
  · rintro ⟨fault, failed, key⟩
    have lacking : fault.lacking = true := by rw [Fault.lacking, key]
    cases lacks_of_execute failed lacking with
    | supply => cases key
    | label jumps absent => exact ⟨_, jumps, absent⟩
    | entry fed => exact absurd fed (noEntries _ _)
  · rintro ⟨name, jumps, absent⟩
    exact ⟨_, execute_of_strays console jumps absent, rfl⟩

end

end Machine

end StackMachine

import StackMachine.Pocket
import StackMachine.Proofs.Listing.RoundTrip

/-!
The two machines agree on integers. The pocket machine makes no demands on the kinds of operands, keeps no
instruction pointer and announces what it does; still, on a program that puts nothing but integers on the
stack it goes through the same memories as the stack machine and fails where that fails, for the same
reason. What carries this is that only integers are ever on the stack and in variables.
-/

set_option autoImplicit false

namespace StackMachine

/-- An instruction of the five operations that both machines have, with integers and texts as arguments, and
integers only to be put on the stack. -/
structure Instruction.OnIntegers (instruction : Instruction) : Prop where
  shared : instruction.mnemonic ∈ [.known .loadConst, .known .storeVar, .known .loadVar,
    .known (.arithmetic .add), .known (.arithmetic .sub)]
  writable : ∀ arg ∈ instruction.args, arg.Writable
  constants : instruction.is .loadConst = true → ∀ arg ∈ instruction.args, ∃ n, arg = .int n

/-- A machine that has nothing but integers on its stack and in its variables. -/
structure Machine.Integral (machine : Machine) : Prop where
  stack : ∀ value ∈ machine.stack, ∃ n, value = .int n
  bindings : ∀ entry ∈ machine.bindings.entries, ∃ n, entry.2 = .int n

/-- The pocket machine with the memory of a machine. Its stack has its top last. -/
def Machine.pocket (machine : Machine) : Pocket where
  stack := .list machine.stack.reverse
  bindings := .dict machine.bindings.entries

theorem Table.exists_of_find? {α : Type} {key : Option Key} {entries : List (Value × α)} {content : α}
    (found : find? key entries = some content) : ∃ entry ∈ entries, entry.2 = content := by
  induction entries with
  | nil => cases found
  | cons entry rest ih =>
      obtain ⟨name, held⟩ := entry
      rw [find?] at found
      split at found
      · exact ⟨(name, held), List.mem_cons_self, Option.some.inj found⟩
      · obtain ⟨entry, member, same⟩ := ih found
        exact ⟨entry, List.mem_cons_of_mem _ member, same⟩

theorem Table.content_of_mem_store {α : Type} {name : Value} {content : α} {entries : List (Value × α)}
    {entry : Value × α} (member : entry ∈ store name content entries) :
    entry.2 = content ∨ ∃ old ∈ entries, old.2 = entry.2 := by
  induction entries with
  | nil =>
      obtain rfl := List.mem_singleton.mp member
      exact .inl rfl
  | cons first rest ih =>
      obtain ⟨other, old⟩ := first
      rw [store] at member
      split at member
      · rcases List.mem_cons.mp member with rfl | inRest
        · exact .inl rfl
        · exact .inr ⟨entry, List.mem_cons_of_mem _ inRest, rfl⟩
      · rcases List.mem_cons.mp member with rfl | inRest
        · exact .inr ⟨_, List.mem_cons_self, rfl⟩
        · rcases ih inRest with new | ⟨kept, present, same⟩
          · exact .inl new
          · exact .inr ⟨kept, List.mem_cons_of_mem _ present, same⟩

namespace Pocket

variable (machine : Machine) (console : Console)

theorem pop_pocket (next : Value → Pocket → Pocket × Option Fault) :
    machine.pocket.pop next =
      match machine.stack with
      | [] => (machine.pocket, some .emptyPop)
      | value :: rest => next value { machine with stack := rest }.pocket := by
  cases operands : machine.stack with
  | nil => simp [pop, takeTop, Machine.pocket, operands]
  | cons value rest => simp [pop, takeTop, Machine.pocket, operands]

theorem deliver_pocket (result : Except Fault Value) :
    machine.pocket.deliver result =
      ((machine.deliver console result).machine.pocket, (machine.deliver console result).fault) := by
  cases result with
  | error fault => rfl
  | ok value =>
      simp only [Machine.deliver, Outcome.done, Machine.pocket, Machine.push, List.reverse_cons]
      rfl

theorem store_pocket (name : Value) :
    machine.pocket.store name =
      ((machine.store console name).machine.pocket, (machine.store console name).fault) := by
  rw [store, pop_pocket]
  unfold Machine.store Machine.pop
  cases machine.stack with
  | nil => rfl
  | cons value rest =>
      simp only [Machine.pocket, assign, addEntry]
      cases name.hashable <;> rfl

theorem valueOf_pocket (name : Value) :
    machine.pocket.valueOf name =
      if name.hashable then
        match machine.bindings.get? name with
        | some value => .ok value
        | none => .error (.undefined name)
      else .error (.unhashable name.kind) := by
  simp only [valueOf, Machine.pocket, holds, item, Table.get?]
  cases name.hashable with
  | false => rfl
  | true =>
      cases found : Table.find? name.key? machine.bindings.entries with
      | none => rfl
      | some value => rfl

theorem load_pocket (name : Value) :
    machine.pocket.deliver (machine.pocket.valueOf name) =
      ((machine.load console name).machine.pocket, (machine.load console name).fault) := by
  rw [deliver_pocket machine console, valueOf_pocket]
  unfold Machine.load
  cases name.hashable with
  | false => rfl
  | true => cases machine.bindings.get? name <;> rfl

/-- The one place where kinds matter: on integers, arithmetic without demands is arithmetic. -/
theorem combine_pocket {machine : Machine} (integral : machine.Integral) (console : Console)
    {operation apply : Value → Value → Except Fault Value}
    (onInts : ∀ a b : Int, operation (.int a) (.int b) = apply (.int a) (.int b)) :
    let outcome := machine.pop console fun first machine =>
      machine.pop console fun second machine => machine.deliver console (apply first second)
    machine.pocket.combine operation = (outcome.machine.pocket, outcome.fault) := by
  unfold combine Machine.pop
  rw [pop_pocket]
  cases operands : machine.stack with
  | nil => rfl
  | cons first others =>
      dsimp only
      rw [pop_pocket]
      cases others with
      | nil => rfl
      | cons second rest =>
          obtain ⟨a, rfl⟩ := integral.stack first (by simp [operands])
          obtain ⟨b, rfl⟩ := integral.stack second (by simp [operands])
          dsimp only
          rw [onInts]
          exact deliver_pocket _ console _

/-- One instruction, carried out or failed. -/
theorem perform_pocket {machine : Machine} (integral : machine.Integral) {instruction : Instruction}
    (onIntegers : instruction.OnIntegers) (labels : Labels) (console : Console) :
    machine.pocket.perform instruction =
      ((machine.execute labels console instruction).machine.pocket,
        (machine.execute labels console instruction).fault) := by
  have shared := onIntegers.shared
  obtain ⟨mnemonic, args⟩ := instruction
  simp only [List.mem_cons, List.not_mem_nil, or_false] at shared
  rcases shared with rfl | rfl | rfl | rfl | rfl
  · rcases args with _ | ⟨value, _ | ⟨_, _⟩⟩
    · rfl
    · exact deliver_pocket machine console (.ok value)
    · rfl
  · rcases args with _ | ⟨name, _ | ⟨_, _⟩⟩
    · rfl
    · exact store_pocket machine console name
    · rfl
  · rcases args with _ | ⟨name, _ | ⟨_, _⟩⟩
    · rfl
    · exact load_pocket machine console name
    · rfl
  · cases args with
    | nil => exact combine_pocket integral console fun _ _ => rfl
    | cons _ _ => rfl
  · cases args with
    | nil => exact combine_pocket integral console fun _ _ => rfl
    | cons _ _ => rfl

end Pocket

namespace Machine

variable {machine : Machine}

theorem Integral.push (integral : machine.Integral) (n : Int) : (machine.push (.int n)).Integral :=
  ⟨List.forall_mem_cons.mpr ⟨⟨n, rfl⟩, integral.stack⟩, integral.bindings⟩

theorem Integral.load (integral : machine.Integral) (console : Console) {name : Value}
    (carried : (machine.load console name).fault = none) :
    (machine.load console name).machine.Integral ∧ (machine.load console name).machine.ip = machine.ip := by
  unfold Machine.load at carried ⊢
  split at carried
  · next hashable =>
      rw [if_pos hashable]
      cases found : machine.bindings.get? name with
      | none => simp [found, Outcome.fail] at carried
      | some value =>
          obtain ⟨entry, member, held⟩ := Table.exists_of_find? found
          obtain ⟨n, same⟩ := integral.bindings entry member
          obtain rfl := held.symm.trans same
          exact ⟨integral.push n, rfl⟩
  · cases carried

theorem Integral.store (integral : machine.Integral) (console : Console) {name : Value}
    (carried : (machine.store console name).fault = none) :
    (machine.store console name).machine.Integral ∧
      (machine.store console name).machine.ip = machine.ip := by
  unfold Machine.store pop at carried ⊢
  cases operands : machine.stack with
  | nil => simp [operands, Outcome.fail] at carried
  | cons value rest =>
      have kinds := integral.stack
      rw [operands, List.forall_mem_cons] at kinds
      obtain ⟨⟨n, rfl⟩, others⟩ := kinds
      simp only [operands] at carried ⊢
      split at carried
      · next hashable =>
          rw [if_pos hashable]
          refine ⟨⟨others, fun entry member => ?_⟩, rfl⟩
          rcases Table.content_of_mem_store member with new | ⟨old, present, same⟩
          · exact ⟨n, new⟩
          · rw [← same]
            exact integral.bindings old present
      · cases carried

theorem Integral.binary (integral : machine.Integral) (console : Console)
    {apply : Value → Value → Except Fault Value}
    (onInts : ∀ a b : Int, ∃ n, apply (.int a) (.int b) = .ok (.int n)) :
    let outcome := machine.pop console fun first machine =>
      machine.pop console fun second machine => machine.deliver console (apply first second)
    outcome.fault = none → outcome.machine.Integral ∧ outcome.machine.ip = machine.ip := by
  intro outcome carried
  have kinds := integral.stack
  unfold outcome pop at carried ⊢
  cases operands : machine.stack with
  | nil => simp [operands, Outcome.fail] at carried
  | cons first others =>
      cases others with
      | nil => simp [operands, Outcome.fail] at carried
      | cons second rest =>
          rw [operands, List.forall_mem_cons, List.forall_mem_cons] at kinds
          obtain ⟨⟨a, rfl⟩, ⟨b, rfl⟩, others⟩ := kinds
          obtain ⟨n, result⟩ := onInts a b
          have popped : Integral { machine with stack := rest } := ⟨others, integral.bindings⟩
          simp only [result]
          exact ⟨popped.push n, rfl⟩

/-- One instruction that is carried out leaves integers only, and the instruction pointer where it is. -/
theorem Integral.execute (integral : machine.Integral) {instruction : Instruction}
    (onIntegers : instruction.OnIntegers) (labels : Labels) (console : Console)
    (carried : (machine.execute labels console instruction).fault = none) :
    (machine.execute labels console instruction).machine.Integral ∧
      (machine.execute labels console instruction).machine.ip = machine.ip := by
  have shared := onIntegers.shared
  have constants := onIntegers.constants
  obtain ⟨mnemonic, args⟩ := instruction
  simp only [List.mem_cons, List.not_mem_nil, or_false] at shared
  rcases shared with rfl | rfl | rfl | rfl | rfl
  · rcases args with _ | ⟨value, _ | ⟨_, _⟩⟩
    · cases carried
    · obtain ⟨n, rfl⟩ := constants rfl value List.mem_cons_self
      exact ⟨integral.push n, rfl⟩
    · cases carried
  · rcases args with _ | ⟨name, _ | ⟨_, _⟩⟩
    · cases carried
    · exact integral.store console carried
    · cases carried
  · rcases args with _ | ⟨name, _ | ⟨_, _⟩⟩
    · cases carried
    · exact integral.load console carried
    · cases carried
  · cases args with
    | nil => exact integral.binary console (fun a b => ⟨a + b, rfl⟩) carried
    | cons _ _ => cases carried
  · cases args with
    | nil => exact integral.binary console (fun a b => ⟨a - b, rfl⟩) carried
    | cons _ _ => cases carried

end Machine

theorem Instruction.OnIntegers.write {instruction : Instruction} (onIntegers : instruction.OnIntegers) :
    instruction.write = .ok instruction.literal := by
  rw [Instruction.write, if_pos (Instruction.printable_of_writable onIntegers.writable)]

theorem itemAt_length {α : Type} (before : List α) (item : α) (after : List α) :
    itemAt (before ++ item :: after) before.length = .ok item := by
  simp [itemAt, itemAt?]

/-- How a run ends, by the fault that it met if it met one. -/
def RunEnd.of : Option Fault → RunEnd
  | none => .finished
  | some fault => .failed fault

namespace Pocket

/-- The terminal after instructions have been announced on it. -/
def announce (terminal : Terminal) (code : List Instruction) : Terminal :=
  code.foldl (fun terminal instruction => terminal.writeLine (String.ofList instruction.literal)) terminal

/-- What trying one more instruction comes to on both machines: it fails on both with one fault, or both go
on to the rest. -/
inductive Together (labels : Labels) (before : List Instruction) (instruction : Instruction)
    (rest : List Instruction) (run : Run) (terminal : Terminal) : Prop where
  | failed {stopped : Run} {fault : Fault}
      (advanced : run.advance labels (before ++ instruction :: rest) = (stopped, .failed fault))
      (ran : run.machine.pocket.run terminal (instruction :: rest) =
        (stopped.machine.pocket, announce terminal [instruction], some fault))
      (visited : stopped.visited = run.machine.ip :: run.visited)
  | going {next : Run}
      (advanced : run.advance labels (before ++ instruction :: rest) = (next, .going))
      (ran : run.machine.pocket.run terminal (instruction :: rest) =
        next.machine.pocket.run (announce terminal [instruction]) rest)
      (integral : next.machine.Integral)
      (pointer : next.machine.ip = (before ++ [instruction]).length)
      (visited : next.visited = run.machine.ip :: run.visited)

theorem advance_pocket {instruction : Instruction} (onIntegers : instruction.OnIntegers) (labels : Labels)
    {run : Run} (integral : run.machine.Integral) {before : List Instruction}
    (pointer : run.machine.ip = before.length) (rest : List Instruction) (terminal : Terminal) :
    Together labels before instruction rest run terminal := by
  have inside : run.machine.ip < (before ++ instruction :: rest).length := by
    rw [pointer, List.length_append, List.length_cons]
    omega
  have found : itemAt (before ++ instruction :: rest) run.machine.ip = .ok instruction := by
    rw [pointer]
    exact itemAt_length before instruction rest
  have performed := perform_pocket integral onIntegers labels run.console
  let outcome := run.machine.execute labels run.console instruction
  cases failed : (run.machine.execute labels run.console instruction).fault with
  | some fault =>
      have advanced : run.advance labels (before ++ instruction :: rest) =
          (⟨outcome.machine, outcome.console, run.machine.ip :: run.visited⟩, .failed fault) := by
        simp only [Run.advance, if_pos inside, found, failed]
        rfl
      refine .failed advanced ?_ rfl
      simp only [Pocket.run, Pocket.execute, onIntegers.write, performed, failed]
      rfl
  | none =>
      have advanced : run.advance labels (before ++ instruction :: rest) =
          (⟨{ outcome.machine with ip := outcome.machine.ip + 1 }, outcome.console,
            run.machine.ip :: run.visited⟩, .going) := by
        simp only [Run.advance, if_pos inside, found, failed]
        rfl
      obtain ⟨stillIntegral, still⟩ := integral.execute onIntegers labels run.console failed
      refine .going advanced ?_ ⟨stillIntegral.stack, stillIntegral.bindings⟩ ?_ rfl
      · simp only [Pocket.run, Pocket.execute, onIntegers.write, performed, failed]
        rfl
      · dsimp only
        rw [still, pointer, List.length_append, List.length_singleton]
        rfl

/-- The rest of a run: the pocket machine that has the rest of the code before it, and the machine that has
come as far. -/
theorem run_pocket {before rest : List Instruction} (onIntegers : ∀ instruction ∈ rest, instruction.OnIntegers)
    (labels : Labels) {run : Run} (integral : run.machine.Integral)
    (pointer : run.machine.ip = before.length)
    (visited : run.visited = (List.range before.length).reverse.map Int.ofNat) {fuel : Nat}
    (enough : rest.length < fuel) (terminal : Terminal) :
    ∃ tried last fault,
      Run.forward labels (before ++ rest) fuel run = (last, .of fault) ∧
      run.machine.pocket.run terminal rest = (last.machine.pocket, announce terminal (rest.take tried), fault) ∧
      last.visited = (List.range (before.length + tried)).reverse.map Int.ofNat ∧
      (if fault.isSome then 0 < tried ∧ tried ≤ rest.length else tried = rest.length) := by
  induction rest generalizing before run fuel terminal with
  | nil =>
      obtain ⟨fuel, rfl⟩ := Nat.exists_eq_add_one_of_ne_zero (Nat.ne_of_gt enough)
      have past : ¬ run.machine.ip < (before ++ []).length := by
        rw [pointer, List.append_nil]
        exact Int.lt_irrefl _
      refine ⟨0, run, none, ?_, rfl, visited, rfl⟩
      simp only [Run.forward, Run.advance, if_neg past]
      rfl
  | cons instruction rest ih =>
      obtain ⟨first, later⟩ := List.forall_mem_cons.mp onIntegers
      obtain ⟨fuel, rfl⟩ := Nat.exists_eq_add_one_of_ne_zero (Nat.ne_of_gt (Nat.zero_lt_of_lt enough))
      have visiting : run.machine.ip :: run.visited =
          (List.range (before ++ [instruction]).length).reverse.map Int.ofNat := by
        rw [List.length_append, List.length_singleton, List.range_succ, List.reverse_append, List.map_append,
          ← visited, pointer]
        rfl
      cases advance_pocket first labels integral pointer rest terminal with
      | @failed stopped fault advanced ran seen =>
          refine ⟨1, stopped, some fault, ?_, ran, ?_, ?_⟩
          · simp only [Run.forward, advanced]
            rfl
          · rw [seen, visiting, List.length_append]
            rfl
          · simp
      | going advanced ran nextIntegral nextPointer seen =>
          obtain ⟨tried, last, fault, forwards, ranOn, seenAll, count⟩ := ih later nextIntegral nextPointer
            (seen.trans visiting) (Nat.lt_of_succ_lt_succ enough) (announce terminal [instruction])
          refine ⟨tried + 1, last, fault, ?_, ran.trans ranOn, ?_, ?_⟩
          · rw [List.append_assoc] at forwards
            simp only [Run.forward, advanced]
            exact forwards
          · rw [seenAll, List.length_append, List.length_singleton, Nat.add_right_comm, Nat.add_assoc]
          · split at count
            · next faulty =>
                rw [if_pos faulty, List.length_cons]
                omega
            · next sound =>
                rw [if_neg sound, List.length_cons, count]

/-- On a program of the five shared operations whose constants are integers, a new pocket machine and a new
machine with any labels come to the same end. Both have the same values on the stack and the same variables
in the same order. Either both have carried out everything, or both have failed with the same fault at the
same instruction, the last that one has announced and the other has gone to. -/
theorem run_agrees_on_integers (code : List Instruction)
    (onIntegers : ∀ instruction ∈ code, instruction.OnIntegers) (labels : Labels) (console : Console)
    (terminal : Terminal) (fuel : Nat) (enough : code.length < fuel) :
    ∃ tried last fault,
      Run.forward labels code fuel ⟨{}, console, []⟩ = (last, .of fault) ∧
      Pocket.run {} terminal code =
        (⟨.list last.machine.stack.reverse, .dict last.machine.bindings.entries⟩,
          announce terminal (code.take tried), fault) ∧
      last.visited = (List.range tried).reverse.map Int.ofNat ∧
      (if fault.isSome then 0 < tried ∧ tried ≤ code.length else tried = code.length) := by
  have fresh : Machine.Integral {} := ⟨nofun, nofun⟩
  obtain ⟨tried, last, fault, ran, ranThere, seen, count⟩ :=
    @run_pocket [] code onIntegers labels ⟨{}, console, []⟩ fresh rfl rfl fuel enough terminal
  rw [List.length_nil, Nat.zero_add] at seen
  exact ⟨tried, last, fault, ran, ranThere, seen, count⟩

/-- Stores two values, one of them under a number, and asks for a third. -/
def asking : List Instruction := [
  .of .loadConst [.int 5], .of .storeVar [.text "a"], .of .loadConst [.int 7], .of .loadVar [.text "a"],
  .of (.arithmetic .sub) [], .of .storeVar [.int 1], .of .loadVar [.text "b"], .of (.arithmetic .add) []]

theorem asking_onIntegers : ∀ instruction ∈ asking, instruction.OnIntegers := by
  have five : Numeral.fitsDecimal 5 = true := by decide +kernel
  have seven : Numeral.fitsDecimal 7 = true := by decide +kernel
  have one : Numeral.fitsDecimal 1 = true := by decide +kernel
  have texts : ∀ name, Value.Writable (.text name) := fun _ => .text
  simp only [asking, List.forall_mem_cons]
  refine ⟨?_, ?_, ?_, ?_, ?_, ?_, ?_, ?_, nofun⟩
  all_goals
    refine ⟨by decide, ?_, ?_⟩
    · simp [Instruction.of, Value.Writable.int, texts, five, seven, one]
    · simp [Instruction.of, Instruction.is]

/-- Both machines fail at the seventh instruction, with two variables stored and nothing on the stack. -/
theorem run_agrees_on_integers_asking :
    (∀ instruction ∈ asking, instruction.OnIntegers) ∧
      Pocket.run {} {} asking =
        (⟨.list [], .dict [(.text "a", .int 5), (.int 1, .int (-2))]⟩, announce {} (asking.take 7),
          some (.undefinedVariable (.text "b"))) ∧
      ∃ last, Run.forward .empty asking 9 ⟨{}, {}, []⟩ =
          (last, .failed (.undefinedVariable (.text "b"))) ∧
        last.machine.bindings.entries = [(.text "a", .int 5), (.int 1, .int (-2))] ∧
        last.machine.stack = [] ∧ last.visited = [6, 5, 4, 3, 2, 1, 0] := by
  let failing : Run := ⟨{ bindings := ⟨[(.text "a", .int 5), (.int 1, .int (-2))]⟩, ip := 6 }, {},
    [6, 5, 4, 3, 2, 1, 0]⟩
  have evaluated : Run.forward .empty asking 9 ⟨{}, {}, []⟩ =
      (failing, .of (some (.undefinedVariable (.text "b")))) := rfl
  obtain ⟨tried, last, fault, ran, ranThere, seen, -⟩ :=
    run_agrees_on_integers asking asking_onIntegers .empty {} {} 9 (by decide)
  obtain ⟨rfl, sameEnd⟩ := Prod.mk.inj (ran.symm.trans evaluated)
  have seven : tried = 7 := by
    have lengths := congrArg List.length seen
    rw [List.length_map, List.length_reverse, List.length_range] at lengths
    exact lengths.symm
  cases fault with
  | none => cases sameEnd
  | some fault =>
      obtain rfl := RunEnd.failed.inj sameEnd
      rw [seven] at ranThere
      exact ⟨asking_onIntegers, ranThere, failing, evaluated, rfl, rfl, rfl⟩

end Pocket

end StackMachine

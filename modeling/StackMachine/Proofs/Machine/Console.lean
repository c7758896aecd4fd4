import Mathlib.Data.List.Basic
import StackMachine.Proofs.Machine.Form

/-!
What instructions have to do with the console. Most leave it alone and do not depend on it. Of the
others, none looks at the terminal as long as reads are answered by a feed. What has been written can be read off
the console.
-/

set_option autoImplicit false

namespace StackMachine

def Instruction.reads (instruction : Instruction) : Bool :=
  instruction.is .inputNumber || instruction.is .inputString

theorem Instruction.reads_of_is {instruction : Instruction} {op : Opcode}
    (isOp : instruction.is op = true) (noNumber : op ≠ .inputNumber) (noText : op ≠ .inputString) :
    instruction.reads = false := by
  simp only [reads, is_eq_false_of_is isOp noNumber, is_eq_false_of_is isOp noText, Bool.or_self]

theorem Console.toList_writeLine (console : Console) (line : String) :
    (console.writeLine line).terminal.current.toList = console.terminal.current.toList ++ (line.toList ++ ['\n']) := by
  simp only [writeLine, Terminal.writeLine, Terminal.write, String.toList_append]
  rfl

theorem Console.eq_of_writeLine {console other : Console} {line : String}
    (same : console.writeLine line = other.writeLine line) : console = other := by
  have written := congrArg (fun console => console.terminal.current.toList) same
  rw [toList_writeLine, toList_writeLine] at written
  obtain ⟨feed, printed, script, finished, current⟩ := console
  obtain ⟨otherFeed, otherPrinted, otherScript, otherFinished, otherCurrent⟩ := other
  obtain rfl : current = otherCurrent := String.toList_inj.mp (List.append_cancel_right written)
  simp only [writeLine, Terminal.writeLine, Terminal.write, mk.injEq, Terminal.mk.injEq, and_true] at same
  obtain ⟨rfl, rfl, rfl, rfl⟩ := same
  rfl

/-- Lines that end differently cannot be taken for one another. -/
theorem Console.writeLine_ne {console other : Console} (first : String) {last text : String}
    (some_ : last.toList ≠ []) (someText : text.toList ≠ [])
    (apart : last.toList.getLast? ≠ text.toList.getLast?) :
    console.writeLine (first ++ last) ≠ other.writeLine text := by
  intro same
  have written := congrArg (fun console => console.terminal.current.toList) same
  rw [toList_writeLine, toList_writeLine, String.toList_append, ← List.append_assoc, ← List.append_assoc,
    ← List.append_assoc] at written
  have ends := congrArg List.getLast? (List.append_cancel_right written)
  rw [List.getLast?_append_of_ne_nil _ some_, List.getLast?_append_of_ne_nil _ someText] at ends
  exact apart ends

theorem Console.writeLine_ne_self (console : Console) (line : String) : console.writeLine line ≠ console := by
  intro same
  have written := congrArg (fun console => console.terminal.current.toList) same
  rw [toList_writeLine, List.append_right_eq_self] at written
  exact absurd written (List.append_ne_nil_of_right_ne_nil _ nofun)

theorem Console.line_of_writeLine {console : Console} {line text : String}
    (same : console.writeLine line = console.writeLine text) : line = text := by
  have written := congrArg (fun console => console.terminal.current.toList) same
  rw [toList_writeLine, toList_writeLine] at written
  exact String.toList_inj.mp (List.append_cancel_right (List.append_cancel_left written))

/-- Operation codes that leave the console alone. -/
def Opcode.quiet : Opcode → Bool
  | .print | .inputString | .inputNumber | .breakpoint => false
  | _ => true

/-- Something done on a console that leaves the console alone and does not depend on it. -/
def Quiet (work : Console → Outcome) : Prop :=
  ∃ machine fault, ∀ console, work console = ⟨machine, console, fault⟩

namespace Quiet

theorem done (machine : Machine) : Quiet (.done machine) :=
  ⟨machine, none, fun _ => rfl⟩

theorem fail (machine : Machine) (fault : Fault) : Quiet fun console => .fail machine console fault :=
  ⟨machine, some fault, fun _ => rfl⟩

theorem pop (machine : Machine) {next : Console → Value → Machine → Outcome}
    (continues : ∀ value machine, Quiet fun console => next console value machine) :
    Quiet fun console => machine.pop console (next console) := by
  unfold Machine.pop
  cases machine.stack with
  | nil => exact fail machine .emptyPop
  | cons value rest => exact continues value { machine with stack := rest }

theorem deliver (machine : Machine) (result : Except Fault Value) :
    Quiet fun console => machine.deliver console result := by
  cases result with
  | ok value => exact done (machine.push value)
  | error fault => exact fail machine fault

theorem unary (machine : Machine) (apply : Value → Except Fault Value) :
    Quiet fun console => machine.pop console fun operand machine =>
      machine.deliver console (apply operand) :=
  pop machine fun operand machine => deliver machine (apply operand)

theorem binary (machine : Machine) (apply : Value → Value → Except Fault Value) :
    Quiet fun console => machine.pop console fun first machine =>
      machine.pop console fun second machine => machine.deliver console (apply first second) :=
  pop machine fun first machine => unary machine (apply first)

theorem load (machine : Machine) (name : Value) : Quiet fun console => machine.load console name := by
  unfold Machine.load
  split
  · split
    · exact done _
    · exact fail _ _
  · exact fail _ _

theorem store (machine : Machine) (name : Value) : Quiet fun console => machine.store console name := by
  unfold Machine.store
  refine pop machine fun value machine => ?_
  split
  · exact done _
  · exact fail _ _

theorem jump (machine : Machine) (labels : Labels) (target : Value) :
    Quiet fun console => machine.jump console labels target := by
  unfold Machine.jump
  split
  · exact done _
  · exact fail _ _

theorem branch (machine : Machine) (labels : Labels) (target : Value) :
    Quiet fun console => machine.pop console fun flag machine =>
      if flag.isOne then machine.jump console labels target else .done machine console := by
  refine pop machine fun flag machine => ?_
  split
  · exact jump machine labels target
  · exact done machine

theorem call (machine : Machine) : Quiet machine.call := by
  unfold Machine.call
  exact pop machine fun function machine => done _

theorem ret (machine : Machine) : Quiet machine.ret := by
  unfold Machine.ret
  cases machine.saved with
  | nil => exact fail _ _
  | cons place saved =>
      dsimp only
      cases machine.frames with
      | nil => exact fail _ _
      | cons bindings frames => exact done _

end Quiet

namespace Machine

theorem perform_quiet (labels : Labels) (machine : Machine) {op : Opcode} (quiet : op.quiet = true)
    (args : List Value) : Quiet fun console => machine.perform labels console op args := by
  cases op.form args with
  | constant value => exact .done _
  | load name => exact .load machine name
  | store name => exact .store machine name
  | arithmetic op => exact .binary machine op.apply
  | compare op => exact .binary machine op.apply
  | function op => exact .unary machine op.apply
  | branch name => exact .branch machine labels (.text name)
  | jump name => exact .jump machine labels (.text name)
  | call => exact .call machine
  | ret => exact .ret machine
  | label args => exact .done _
  | print | inputString | inputNumber | breakpoint => cases quiet
  | refused refused =>
      simp only [refused.fails]
      exact .fail _ _

private theorem printTop_onTerminal (machine : Machine) (console : Console) (terminal : Terminal) :
    ∃ written : Terminal, written.script = terminal.script ∧
      machine.printTop { console with terminal } =
        { machine.printTop console with
          console := { (machine.printTop console).console with terminal := written } } := by
  unfold printTop pop
  cases machine.stack with
  | nil => exact ⟨terminal, rfl, rfl⟩
  | cons value rest =>
      simp only [Console.print]
      cases value.show with
      | error fault => exact ⟨terminal, rfl, rfl⟩
      | ok text => exact ⟨terminal.writeLine (String.ofList text), rfl, rfl⟩

private theorem input_onTerminal {console : Console} {feed : Feed} (fed : console.feed = some feed)
    (terminal : Terminal) :
    ({ console with terminal } : Console).input =
      ({ console.input.1 with terminal }, console.input.2) := by
  simp only [Console.input, fed]
  cases feed.take 1 with
  | error fault => simp only [fed]
  | ok answer => rfl

private theorem readText_onTerminal (machine : Machine) {console : Console} {feed : Feed}
    (fed : console.feed = some feed) (terminal : Terminal) :
    machine.readText { console with terminal } =
      { machine.readText console with
        console := { (machine.readText console).console with terminal } } := by
  unfold readText
  rw [input_onTerminal fed terminal]
  obtain ⟨after, answer⟩ := console.input
  cases answer with
  | error fault => rfl
  | ok value => cases value <;> rfl

private theorem readNumber_onTerminal (machine : Machine) {console : Console} {feed : Feed}
    (fed : console.feed = some feed) (terminal : Terminal) :
    machine.readNumber { console with terminal } =
      { machine.readNumber console with
        console := { (machine.readNumber console).console with terminal } } := by
  unfold readNumber
  rw [input_onTerminal fed terminal]
  obtain ⟨after, answer⟩ := console.input
  cases answer with
  | error fault => rfl
  | ok value => cases value <;> rfl

/-- On another terminal an instruction does the same and reads nothing from it, unless it is a read that
no feed answers. It may have written to the terminal. -/
theorem execute_onTerminal (labels : Labels) (machine : Machine) {console : Console}
    {instruction : Instruction} (fed : instruction.reads = true → ∃ feed, console.feed = some feed)
    (terminal : Terminal) :
    ∃ written : Terminal, written.script = terminal.script ∧
      machine.execute labels { console with terminal } instruction =
        { machine.execute labels console instruction with
          console :=
            { (machine.execute labels console instruction).console with terminal := written } } := by
  obtain ⟨mnemonic, args⟩ := instruction
  cases mnemonic with
  | unknown word => exact ⟨terminal, rfl, rfl⟩
  | known op =>
      simp only [execute]
      cases quiet : op.quiet with
      | true =>
          obtain ⟨after, fault, same⟩ := perform_quiet labels machine quiet args
          simp only [same]
          exact ⟨terminal, rfl, rfl⟩
      | false =>
          cases op with
          | print =>
              cases args with
              | nil => exact printTop_onTerminal machine console terminal
              | cons _ _ => exact ⟨terminal, rfl, rfl⟩
          | inputString =>
              obtain ⟨feed, answering⟩ := fed rfl
              cases args with
              | nil => exact ⟨terminal, rfl, readText_onTerminal machine answering terminal⟩
              | cons _ _ => exact ⟨terminal, rfl, rfl⟩
          | inputNumber =>
              obtain ⟨feed, answering⟩ := fed rfl
              cases args with
              | nil => exact ⟨terminal, rfl, readNumber_onTerminal machine answering terminal⟩
              | cons _ _ => exact ⟨terminal, rfl, rfl⟩
          | breakpoint => exact ⟨terminal.writeLine "[Breakpoint reached]", rfl, rfl⟩
          | _ => cases quiet

/-- An instruction that does not read does the same to the machine on every console. -/
theorem execute_of_silent (labels : Labels) (machine : Machine) {instruction : Instruction}
    (silent : instruction.reads = false) (console other : Console) :
    (machine.execute labels console instruction).machine =
        (machine.execute labels other instruction).machine ∧
      (machine.execute labels console instruction).fault =
        (machine.execute labels other instruction).fault := by
  obtain ⟨mnemonic, args⟩ := instruction
  cases mnemonic with
  | unknown word => exact ⟨rfl, rfl⟩
  | known op =>
      simp only [execute]
      cases quiet : op.quiet with
      | true =>
          obtain ⟨after, fault, same⟩ := perform_quiet labels machine quiet args
          simp only [same, and_self]
      | false =>
          cases op with
          | print =>
              cases args with
              | cons _ _ => exact ⟨rfl, rfl⟩
              | nil =>
                  simp only [perform, printTop, pop]
                  cases machine.stack with
                  | nil => exact ⟨rfl, rfl⟩
                  | cons value rest =>
                      dsimp only [Console.print]
                      cases value.show <;> exact ⟨rfl, rfl⟩
          | breakpoint => exact ⟨rfl, rfl⟩
          | inputString | inputNumber => cases silent
          | _ => cases quiet

theorem execute_script (labels : Labels) (machine : Machine) {console : Console}
    {instruction : Instruction} (fed : instruction.reads = true → ∃ feed, console.feed = some feed) :
    (machine.execute labels console instruction).console.terminal.script =
      console.terminal.script := by
  obtain ⟨written, script, same⟩ := execute_onTerminal labels machine fed console.terminal
  have own : (machine.execute labels console instruction).console.terminal = written :=
    congrArg (fun outcome : Outcome => outcome.console.terminal) same
  rw [own, script]

/-- Only a read does anything to the feed. -/
theorem feed_of_execute (labels : Labels) (machine : Machine) (console : Console) (instruction : Instruction) :
    (machine.execute labels console instruction).console.feed = console.feed ∨
      (machine.execute labels console instruction).console.feed = console.input.1.feed := by
  obtain ⟨mnemonic, args⟩ := instruction
  cases mnemonic with
  | unknown word => exact .inl rfl
  | known op =>
      simp only [execute]
      cases quiet : op.quiet with
      | true =>
          obtain ⟨after, fault, same⟩ := perform_quiet labels machine quiet args
          exact .inl (congrArg (fun outcome : Outcome => outcome.console.feed) (same console))
      | false =>
          cases op with
          | print =>
              cases args with
              | cons _ _ => exact .inl rfl
              | nil =>
                  simp only [perform, printTop, pop]
                  cases machine.stack with
                  | nil => exact .inl rfl
                  | cons value rest =>
                      dsimp only [Console.print]
                      cases value.show <;> exact .inl rfl
          | inputString =>
              cases args with
              | cons _ _ => exact .inl rfl
              | nil =>
                  simp only [perform, readText]
                  generalize console.input = result
                  obtain ⟨after, answer⟩ := result
                  cases answer with
                  | error fault => exact .inr rfl
                  | ok value => cases value <;> exact .inr rfl
          | inputNumber =>
              cases args with
              | cons _ _ => exact .inl rfl
              | nil =>
                  simp only [perform, readNumber]
                  generalize console.input = result
                  obtain ⟨after, answer⟩ := result
                  cases answer with
                  | error fault => exact .inr rfl
                  | ok value =>
                      dsimp only
                      cases value.number? <;> exact .inr rfl
          | breakpoint => exact .inl rfl
          | _ => cases quiet

/-- No instruction brings a feed. -/
theorem unfed_of_execute (labels : Labels) (machine : Machine) {console : Console} (unfed : console.feed = none)
    (instruction : Instruction) : (machine.execute labels console instruction).console.feed = none := by
  rcases feed_of_execute labels machine console instruction with same | read
  · exact same.trans unfed
  · rw [read, Console.input, unfed]
    exact unfed

theorem execute_print (labels : Labels) {machine : Machine} (console : Console) {value : Value}
    {stack : List Value} {text : List Char} (operands : machine.stack = value :: stack)
    (shown : value.show = .ok text) :
    machine.execute labels console (.of .print []) =
      .done { machine with stack } { console.writeLine (String.ofList text) with
        printed := console.printed ++ [value] } := by
  simp only [execute, Instruction.of, perform, printTop, pop, operands, Console.print, shown, Outcome.done]

end Machine

end StackMachine

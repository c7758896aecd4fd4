import Mathlib.Logic.Relation
import StackMachine.Proofs.Debugger.Stepping

/-!
What a turn can do. Every command but `exec` changes machine and program in small ways of five kinds, one
after the other, and `turn_changes` says so for all commands at once. Whatever these changes keep holds at
every prompt of a session (`Frontend.invariant_at_prompt`).
-/

set_option autoImplicit false

namespace StackMachine

theorem Fault.eq_breakpoint_of_classOf {fault : Fault} (stop : fault.classOf = .stop) :
    fault = .breakpoint := by
  cases fault with
  | breakpoint => rfl
  | _ => cases stop

namespace Debugger

open Relation

def Turn.state {σ : Type} : Turn σ → σ
  | .prompt state | .returned state | .failed state _ | .exhausted state => state

/-- What every line that is said keeps is kept by a report, whole or cut short. -/
theorem report_keeps {σ : Type} (say : σ → String → σ) (Keeps : σ → Prop)
    (said : ∀ state line, Keeps state → Keeps (say state line)) {state : σ} (holds : Keeps state)
    (printout : Printout) : Keeps (report say state printout).state := by
  have written : Keeps (printout.lines.foldl say state) := by
    generalize printout.lines = lines
    induction lines generalizing state with
    | nil => exact holds
    | cons line lines ih => exact ih (said state line holds)
  unfold report
  dsimp only
  split <;> exact written

section

variable {σ : Type} (frontend : Frontend σ)

/-- The command that the next turn answers, unless the line is blank or there is none. -/
def Frontend.command? (state : σ) : Option CommandLine :=
  match (frontend.read state).2 with
  | .error _ => none
  | .ok line => CommandLine.parse? line.toList

/-- A turn that comes back to the prompt has read a line, and has answered it if it was a command. -/
theorem Frontend.answer_of_turn {state final : σ} (turned : frontend.turn state = .prompt final) :
    (frontend.read state).1 = final ∨ ∃ line, frontend.command? state = some line ∧
      frontend.answer (frontend.read state).1 line = .prompt final := by
  unfold Frontend.turn at turned
  unfold Frontend.command?
  generalize frontend.read state = reading at turned ⊢
  obtain ⟨read, result⟩ := reading
  cases result with
  | error fault => cases turned
  | ok line =>
      cases parsed : CommandLine.parse? line.toList with
      | none =>
          simp only [parsed, Turn.prompt.injEq] at turned
          exact .inl turned
      | some command =>
          simp only [parsed] at turned ⊢
          exact .inr ⟨command, rfl, turned⟩

theorem Frontend.turn_of_command? {state : σ} {line : CommandLine}
    (given : frontend.command? state = some line) :
    frontend.turn state = frontend.answer (frontend.read state).1 line := by
  unfold Frontend.command? at given
  unfold Frontend.turn
  generalize frontend.read state = reading at given
  obtain ⟨read, result⟩ := reading
  cases result with
  | error fault => cases given
  | ok text =>
      dsimp only at given ⊢
      rw [given]

/-- The commands that are answered in a number of turns. -/
def Frontend.commands : Nat → σ → List CommandLine
  | 0, _ => []
  | turns + 1, state =>
    (frontend.command? state).toList ++
      match frontend.turn state with
      | .prompt next => Frontend.commands turns next
      | _ => []

theorem Frontend.invariant_at_prompt {Invariant : σ → Prop} {Allowed : CommandLine → Prop}
    (kept : ∀ state next, Invariant state →
      (∀ command, frontend.command? state = some command → Allowed command) →
      frontend.turn state = .prompt next → Invariant next)
    {turns : Nat} {state last : σ} (initial : Invariant state)
    (allowed : ∀ command ∈ frontend.commands turns state, Allowed command)
    (reached : frontend.promptAfter turns state = some last) : Invariant last := by
  induction turns generalizing state with
  | zero =>
      obtain rfl := Option.some.inj reached
      exact initial
  | succ turns ih =>
      rw [Frontend.promptAfter] at reached
      rw [Frontend.commands] at allowed
      cases turned : frontend.turn state with
      | returned | failed | exhausted => simp [turned] at reached
      | prompt next =>
          simp only [turned] at reached allowed
          obtain ⟨first, later⟩ := List.forall_mem_append.mp allowed
          have holds := kept state next initial
            (fun command answered => first command (by simp [answered])) turned
          exact ih holds later reached

theorem Frontend.invariant_at_every_prompt {Invariant : σ → Prop}
    (kept : ∀ state next, Invariant state → frontend.turn state = .prompt next → Invariant next)
    {turns : Nat} {state last : σ} (initial : Invariant state)
    (reached : frontend.promptAfter turns state = some last) : Invariant last := by
  have keptByAll : ∀ state next, Invariant state →
      (∀ command, frontend.command? state = some command → True) →
      frontend.turn state = .prompt next → Invariant next :=
    fun state next holds _ turned => kept state next holds turned
  exact frontend.invariant_at_prompt keptByAll initial (fun _ _ => trivial) reached

/-- Where something that held at first has come to fail, there is a turn that broke it. -/
theorem Frontend.exists_breaking_turn (Holds : σ → Prop) {turns : Nat} {state last : σ} (initial : Holds state)
    (reached : frontend.promptAfter turns state = some last) (broken : ¬ Holds last) :
    ∃ earlier before next, earlier < turns ∧ frontend.promptAfter earlier state = some before ∧
      frontend.turn before = .prompt next ∧ Holds before ∧ ¬ Holds next := by
  induction turns generalizing state with
  | zero =>
      obtain rfl := Option.some.inj reached
      exact absurd initial broken
  | succ turns ih =>
      rw [Frontend.promptAfter] at reached
      cases turned : frontend.turn state with
      | returned | failed | exhausted => simp [turned] at reached
      | prompt middle =>
          simp only [turned] at reached
          by_cases holds : Holds middle
          · obtain ⟨earlier, before, next, fewer, leads, breaks⟩ := ih holds reached
            refine ⟨earlier + 1, before, next, Nat.succ_lt_succ fewer, ?_, breaks⟩
            simp only [Frontend.promptAfter, turned]
            exact leads
          · exact ⟨0, state, middle, Nat.succ_pos turns, rfl, turned, initial, holds⟩

end

namespace Functions

/-- One thing that a command can do to machine and program: nothing, a load, an instruction carried out or
failed, or a breakpoint passed over. What it reads and writes is left open. -/
inductive Change (state final : State) : Prop where
  | idle (machine : final.machine = state.machine) (program : final.program = state.program)
  | loaded {link : Bool} {text : List Char} (read : Program.read link text = .ok final.program)
      (machine : final.machine = {})
  | carriedOut {function : Function} {instruction : Instruction} {after : Machine}
      (fetched : state.fetch? = some (function, instruction))
      (effect : Effect function.labels state.machine instruction after none)
      (machine : final.machine = { after with ip := after.ip + 1 })
      (program : final.program = state.program)
  | failed {function : Function} {instruction : Instruction} {fault : Fault}
      (fetched : state.fetch? = some (function, instruction))
      (effect : Effect function.labels state.machine instruction final.machine (some fault))
      (program : final.program = state.program)
  | passed {function : Function} {instruction : Instruction}
      (fetched : state.fetch? = some (function, instruction))
      (isBreakpoint : instruction.is .breakpoint = true)
      (machine : final.machine = { state.machine with ip := state.machine.ip + 1 })
      (program : final.program = state.program)

section

variable {lead : String} {echo : Bool} {state final : State}

theorem change_of_say {line : String} (said : Turn.prompt (state.say line) = .prompt final) :
    Change state final := by
  obtain rfl := Turn.prompt.inj said
  exact .idle rfl rfl

theorem change_of_moved {instruction : Instruction}
    (moved : advance lead echo state = .moved final instruction) : Change state final := by
  obtain ⟨function, after, fetched, effect, machine, program⟩ := advance_effect moved
  exact .carriedOut fetched effect machine program

theorem Moves.changes {legs : List Leg} (moves : Moves lead echo state legs final) :
    ReflTransGen Change state final := by
  induction moves with
  | refl => exact .refl
  | cons moved _ ih => exact .head (change_of_moved moved) ih

theorem change_of_stopped {fault : Fault} (stopped : advance lead echo state = .stopped final fault) :
    final.program = state.program ∧ Change state final := by
  rcases advance_stopped stopped with
    ⟨machine, program, -⟩ | ⟨function, instruction, asked, fetched, asks, failed, rfl⟩
  · exact ⟨program, .idle machine program⟩
  · have effect := effect_of_ask asks function
    rw [failed] at effect
    have program := (machine_of_ask asks).2
    exact ⟨program, .failed fetched effect program⟩

theorem settle_changes {stopped : State} {fault : Fault}
    (met : advance lead echo state = .stopped stopped fault)
    (settled : settle stopped fault = .prompt final) : ReflTransGen Change state final := by
  obtain ⟨program, change⟩ := change_of_stopped met
  unfold settle at settled
  cases kind : fault.classOf with
  | stop =>
      obtain rfl := Fault.eq_breakpoint_of_classOf kind
      obtain ⟨function, instruction, fetched, isBreakpoint, machine, -⟩ := advance_breakpoint met
      simp only [kind, Turn.prompt.injEq] at settled
      subst settled
      refine .single (.passed fetched isBreakpoint ?_ program)
      rw [← machine]
      rfl
  | index =>
      simp only [kind, Turn.prompt.injEq] at settled
      subst settled
      exact (ReflTransGen.single change).tail (.idle rfl rfl)
  | _ => simp [kind] at settled

theorem travel_changes {τ : Type} {tally : τ → Instruction → Option τ} {fuel : Nat} {counts : τ}
    (returned : (travel lead echo tally fuel counts state).turn = .prompt final) :
    ReflTransGen Change state final := by
  obtain ⟨last, moves, closes⟩ := travel_moves lead echo tally fuel counts state
  generalize travel lead echo tally fuel counts state = journey at returned moves closes
  refine moves.changes.trans ?_
  unfold Journey.turn at returned
  unfold Journey.Closes at closes
  cases halt : journey.halt with
  | arrived =>
      simp only [halt, Turn.prompt.injEq] at returned closes
      rw [← returned, closes]
  | ended =>
      simp only [halt, Turn.prompt.injEq] at returned closes
      obtain ⟨same, -⟩ := advance_ended closes
      rw [← returned, same]
  | stopped fault =>
      simp only [halt] at returned closes
      exact settle_changes closes returned
  | escaped fault => simp [halt] at returned
  | exhausted => simp [halt] at returned

theorem change_of_stepInto {function : Function} {instruction : Instruction}
    (fetched : state.fetch? = some (function, instruction))
    (stepped : stepInto state function instruction = .prompt final) : Change state final := by
  unfold stepInto at stepped
  by_cases isBreakpoint : instruction.is .breakpoint = true
  · simp only [isBreakpoint, if_true, Turn.prompt.injEq] at stepped
    subst stepped
    exact .passed fetched isBreakpoint rfl rfl
  · simp only [isBreakpoint, Bool.false_eq_true, if_false] at stepped
    cases asks : ask (state.say (announcement state.machine.ip instruction)) "\n" false instruction with
    | mk asked trouble =>
        cases trouble with
        | some fault => simp [asks] at stepped
        | none =>
            have program : asked.program = state.program := (machine_of_ask asks).2
            have effect := effect_of_ask asks function
            cases outcome : (asked.execute function instruction).fault with
            | none =>
                simp only [asks, outcome, Turn.prompt.injEq] at stepped
                subst stepped
                rw [outcome] at effect
                exact .carriedOut fetched effect rfl program
            | some fault =>
                simp only [asks, outcome] at stepped
                rw [outcome] at effect
                -- Only a failed assertion is reported and comes back to the prompt.
                split at stepped
                · obtain rfl := Turn.prompt.inj stepped
                  exact .failed fetched effect program
                · cases stepped

theorem step_changes {whole : Bool} (stepped : step state whole = .prompt final) :
    ReflTransGen Change state final := by
  unfold step at stepped
  split at stepped
  · exact .single (change_of_say stepped)
  · cases active : state.active with
    | error fault => simp [active] at stepped
    | ok function =>
        simp only [active] at stepped
        split at stepped
        · exact .single (change_of_say stepped)
        · cases found : itemAt function.instructions state.machine.ip with
          | error fault => simp [found] at stepped
          | ok instruction =>
              have fetched : (state.say "").fetch? = some (function, instruction) :=
                State.fetch?_of_itemAt active found
              simp only [found] at stepped
              split at stepped
              · cases stepped
              · split at stepped
                · split at stepped
                  · cases stepped
                  · next carried =>
                      rw [stepOver_eq_travel] at stepped
                      have effect := Machine.execute_effect function.labels state.machine
                        (state.announceOver instruction).console instruction
                      have carriedOut : Change state (state.entered function instruction) :=
                        .carriedOut fetched (carried ▸ effect) rfl rfl
                      exact .head carriedOut (travel_changes stepped)
                · have said : Change state (state.say "") := .idle rfl rfl
                  exact .head said (.single (change_of_stepInto fetched stepped))

theorem change_of_load {argument : List Char} (loaded : load state argument = .prompt final) :
    Change state final := by
  unfold load at loaded
  split at loaded
  · exact change_of_say loaded
  · split at loaded
    · cases loaded
    · exact change_of_say loaded
    · split at loaded
      · exact change_of_say loaded
      · dsimp only at loaded
        split at loaded
        · cases loaded
        · next read =>
            obtain rfl := Turn.prompt.inj loaded
            exact .loaded read rfl

theorem change_of_report {printout : Printout} (reported : state.report printout = .prompt final) :
    Change state final := by
  have idle : Change state (state.report printout).state := by
    obtain ⟨machine, program⟩ := report_keeps State.say
      (fun later : State => later.machine = state.machine ∧ later.program = state.program)
      (fun _ _ same => same) ⟨rfl, rfl⟩ printout
    exact .idle machine program
  rwa [reported] at idle

theorem change_of_list (listed : list state = .prompt final) : Change state final := by
  unfold list at listed
  split at listed
  · cases listed
  · split at listed
    · cases listed
    · exact change_of_report listed

theorem change_of_frame (shown : frame state = .prompt final) : Change state final := by
  unfold frame at shown
  dsimp only at shown
  split at shown
  · cases shown
  · exact change_of_say shown
  · exact change_of_report shown

theorem answer_changes {line : CommandLine} (other : line.command ≠ .exec)
    (answered : answer state line = .prompt final) : ReflTransGen Change state final := by
  unfold answer at answered
  cases command : line.command with
  | exec => exact absurd command other
  | quit => simp [command] at answered
  | run =>
      simp only [command, run_eq_travel] at answered
      exact travel_changes answered
  | step | next =>
      simp only [command] at answered
      exact step_changes answered
  | load =>
      simp only [command] at answered
      exact .single (change_of_load answered)
  | list =>
      simp only [command] at answered
      exact .single (change_of_list answered)
  | frame =>
      simp only [command] at answered
      exact .single (change_of_frame answered)
  | info | print | stack | memory =>
      simp only [command] at answered
      exact .single (change_of_report answered)
  | unknown word =>
      simp only [command] at answered
      exact .single (change_of_say answered)

/-- A turn that comes back to the prompt, if it does not answer `exec`, is made of these changes. -/
theorem turn_changes (other : ∀ line, frontend.command? state = some line → line.command ≠ .exec)
    (turned : frontend.turn state = .prompt final) : ReflTransGen Change state final := by
  have idle : Change state (frontend.read state).1 := .idle rfl rfl
  rcases frontend.answer_of_turn turned with rfl | ⟨line, command, answered⟩
  · exact .single idle
  · exact .head idle (answer_changes (other line command) answered)

/-- The instruction that the argument of an `exec` spells, unless its first word names no operation code. -/
def spelled? (argument : List Char) : Option Instruction :=
  match Text.words argument with
  | [] => none
  | word :: args =>
    (Opcode.ofName? (String.ofList word)).map fun op => .of op (args.map Value.ofWord)

def State.executing (state : State) (instruction : Instruction) : State :=
  state.say ("\nExecuting: " ++ String.ofList instruction.literal)

/-- What trying an instruction comes to, with the fault that it fails with. Without the active function there is nothing
to try it in. -/
def State.attempt (state : State) (instruction : Instruction) : State × Option Fault :=
  let said := state.executing instruction
  match state.active with
  | .error fault => (said, some fault)
  | .ok function => (said.after (said.execute function instruction), (said.execute function instruction).fault)

/-- What becomes of an instruction that has been tried. -/
def settleAttempt (word : List Char) (tried : State × Option Fault) : Turn State :=
  match tried.2 with
  | none => .prompt tried.1
  | some fault => settleExec word tried.1 fault

theorem exists_of_spelled? {argument : List Char} {instruction : Instruction}
    (spelled : spelled? argument = some instruction) : ∃ word args op, Text.words argument = word :: args ∧
      Opcode.ofName? (String.ofList word) = some op ∧ instruction = .of op (args.map Value.ofWord) := by
  unfold spelled? at spelled
  split at spelled
  · cases spelled
  · next word args split =>
      obtain ⟨op, named, rfl⟩ := Option.map_eq_some_iff.mp spelled
      exact ⟨word, args, op, split, named, rfl⟩

theorem exec_of_unspelled? (state : State) {argument : List Char} (unspelled : spelled? argument = none) :
    ∃ line, exec state argument = .prompt (state.say line) := by
  unfold spelled? at unspelled
  unfold exec
  generalize Text.words argument = spelt at unspelled
  cases spelt with
  | nil => exact ⟨_, rfl⟩
  | cons word args =>
      have unnamed := Option.map_eq_none_iff.mp unspelled
      dsimp only
      rw [unnamed]
      exact ⟨_, rfl⟩

theorem exec_of_named (state : State) {argument word : List Char} {args : List (List Char)} {op : Opcode}
    (spelt : Text.words argument = word :: args) (named : Opcode.ofName? (String.ofList word) = some op) :
    exec state argument = settleAttempt word (state.attempt (.of op (args.map Value.ofWord))) := by
  have active : (state.executing (.of op (args.map Value.ofWord))).active = state.active := rfl
  rw [exec, spelt, State.attempt]
  dsimp only
  rw [named]
  dsimp only
  rw [← State.executing, active]
  cases state.active with
  | error fault => rfl
  | ok function =>
      dsimp only
      cases ((state.executing (.of op (args.map Value.ofWord))).execute function _).fault <;> rfl

/-- An `exec` tries what it spells. -/
theorem exec_of_spelled? (state : State) {argument : List Char} {instruction : Instruction}
    (spelled : spelled? argument = some instruction) :
    ∃ word, exec state argument = settleAttempt word (state.attempt instruction) := by
  obtain ⟨word, args, op, split, named, rfl⟩ := exists_of_spelled? spelled
  exact ⟨word, exec_of_named state split named⟩

theorem settleExec_of_prompt {word : List Char} {fault : Fault}
    (settled : settleExec word state fault = .prompt final) :
    final.machine = state.machine ∧ final.program = state.program := by
  unfold settleExec at settled
  split at settled
  · obtain rfl := Turn.prompt.inj settled
    exact ⟨rfl, rfl⟩
  · cases settled
  · obtain rfl := Turn.prompt.inj settled
    exact ⟨rfl, rfl⟩

theorem settleAttempt_of_prompt {word : List Char} {tried : State × Option Fault}
    (settled : settleAttempt word tried = .prompt final) :
    final.machine = tried.1.machine ∧ final.program = tried.1.program := by
  unfold settleAttempt at settled
  split at settled
  · obtain rfl := Turn.prompt.inj settled
    exact ⟨rfl, rfl⟩
  · exact settleExec_of_prompt settled

/-- An `exec` that comes back to the prompt has tried the instruction that it spells with the labels of the active
function, or none. -/
theorem machine_of_exec {argument : List Char} (executed : exec state argument = .prompt final) :
    final.program = state.program ∧
      (final.machine = state.machine ∨ ∃ function instruction, spelled? argument = some instruction ∧
        state.active = .ok function ∧
        final.machine = ((state.executing instruction).execute function instruction).machine) := by
  cases spelled : spelled? argument with
  | none =>
      obtain ⟨line, said⟩ := exec_of_unspelled? state spelled
      obtain rfl := Turn.prompt.inj (said.symm.trans executed)
      exact ⟨rfl, .inl rfl⟩
  | some instruction =>
      obtain ⟨word, tries⟩ := exec_of_spelled? state spelled
      obtain ⟨machine, program⟩ := settleAttempt_of_prompt (tries.symm.trans executed)
      unfold State.attempt at machine program
      cases active : state.active with
      | error fault =>
          rw [active] at machine program
          exact ⟨program, .inl machine⟩
      | ok function =>
          rw [active] at machine program
          exact ⟨program, .inr ⟨function, instruction, rfl, rfl, machine⟩⟩

section

variable (Invariant : State → Prop)
  (changed : ∀ {before after : State}, Change before after → Invariant before → Invariant after)
include changed

theorem kept_by_changes (changes : ReflTransGen Change state final) (holds : Invariant state) : Invariant final := by
  induction changes with
  | refl => exact holds
  | tail _ change ih => exact changed change ih

/-- What every change and every `exec` keeps is kept by every turn. -/
theorem kept_by_turn
    (tried : ∀ {before after : State} {argument : List Char}, exec before argument = .prompt after →
      Invariant before → Invariant after)
    (holds : Invariant state) (turned : frontend.turn state = .prompt final) : Invariant final := by
  have idle : Change state (frontend.read state).1 := .idle rfl rfl
  have asked := changed idle holds
  rcases frontend.answer_of_turn turned with rfl | ⟨line, -, answered⟩
  · exact asked
  · by_cases isExec : line.command = .exec
    · have executed : exec (frontend.read state).1 line.argument = .prompt final := by
        simpa only [frontend, answer, isExec] using answered
      exact tried executed asked
    · exact kept_by_changes Invariant changed (answer_changes isExec answered) asked

end

/-- What has been read can be written, and only reading replaces the program. -/
theorem Change.printable (change : Change state final) (printable : state.program.Printable) :
    final.program.Printable := by
  cases change with
  | loaded read => exact Program.printable_of_read read
  | idle _ program | carriedOut _ _ _ program | failed _ _ program | passed _ _ _ program =>
      rw [program]
      exact printable

theorem printable_of_promptAfter {settings : Settings} {files : FileStore} {terminal : Terminal} {turns : Nat}
    (reached : frontend.promptAfter turns (opening settings files terminal) = some state) :
    state.program.Printable := by
  have tried : ∀ {before after : State} {argument : List Char}, exec before argument = .prompt after →
      before.program.Printable → after.program.Printable := by
    intro before after argument executed printable
    rw [(machine_of_exec executed).1]
    exact printable
  have kept : ∀ before after : State, before.program.Printable → frontend.turn before = .prompt after →
      after.program.Printable := fun _ _ => kept_by_turn (fun state => state.program.Printable) Change.printable tried
  have opened : (opening settings files terminal).program.Printable := Program.printable_empty
  exact frontend.invariant_at_every_prompt kept opened reached

theorem effect_of_exec {argument : List Char} (executed : exec state argument = .prompt final) :
    final.program = state.program ∧
      (final.machine = state.machine ∨ ∃ function instruction fault, state.active = .ok function ∧
        Effect function.labels state.machine instruction final.machine fault) := by
  obtain ⟨program, same | ⟨function, instruction, -, active, machine⟩⟩ := machine_of_exec executed
  · exact ⟨program, .inl same⟩
  · have effect := Machine.execute_effect function.labels state.machine (state.executing instruction).console
      instruction
    change Effect _ _ _ ((state.executing instruction).execute function instruction).machine _ at effect
    rw [← machine] at effect
    exact ⟨program, .inr ⟨function, instruction, _, active, effect⟩⟩

end

end Functions

end Debugger

end StackMachine

import StackMachine.Proofs.Debugger.Pairing
import StackMachine.Proofs.Machine.Destination
import StackMachine.Proofs.Program.Labels

/-!
The instruction pointer behind an `exec`. Calls, jumps and returns leave it one short of the place that they lead
to. The other commands move it on after every instruction, but an `exec` does not. So it stands before the first
instruction at a prompt once an `exec` has led there, and for no other reason
(`pointer_negative_only_after_exec`). What is fetched from there is the last instruction of the function.
-/

set_option autoImplicit false

namespace StackMachine

theorem itemAt?_neg_one {α : Type} (items : List α) : itemAt? items (-1) = items.getLast? := by
  unfold itemAt?
  rw [if_neg (by decide), List.getLast?_eq_getElem?]
  split
  · congr 1
    omega
  · have none : items.length = 0 := by omega
    rw [List.eq_nil_of_length_eq_zero none]
    rfl

/-- Whether every pointer of a machine is at most one short of a place. -/
structure Machine.OneShort (machine : Machine) : Prop where
  pointer : -1 ≤ machine.ip
  saved : ∀ place ∈ machine.saved, -1 ≤ place.ip

section

variable {labels : Labels} {machine after : Machine} {instruction : Instruction}

theorem Effect.oneShort {fault : Option Fault} {count : Nat} (short : machine.OneShort)
    (within : labels.Within count) (effect : Effect labels machine instruction after fault) :
    after.OneShort := by
  cases effect with
  | failed | worked | stored => exact ⟨short.pointer, short.saved⟩
  | jumped _ found =>
      obtain ⟨low, -⟩ := within _ _ found
      refine ⟨?_, short.saved⟩
      dsimp only
      omega
  | called =>
      refine ⟨Int.le_refl (-1), ?_⟩
      rw [List.forall_mem_cons]
      exact ⟨short.pointer, short.saved⟩
  | returned _ places | unpaired places =>
      have saved := short.saved
      rw [places, List.forall_mem_cons] at saved
      exact ⟨saved.1, saved.2⟩

theorem Effect.ip_of_fault {fault : Fault} (paired : machine.Paired)
    (effect : Effect labels machine instruction after (some fault)) : after.ip = machine.ip := by
  cases effect with
  | failed => rfl
  | unpaired places unframed =>
      rw [Machine.Paired, places, unframed] at paired
      cases paired

end

namespace Debugger.Functions

open Relation

/-- What holds of a session whatever its commands are. -/
structure State.Steady (state : State) : Prop where
  labels : state.program.LabelsInside
  paired : state.machine.Paired
  short : state.machine.OneShort

section

variable {state final : State}

theorem Change.steady (change : Change state final) (steady : state.Steady) : final.Steady := by
  have paired := change.paired steady.paired
  obtain ⟨labels, -, short⟩ := steady
  cases change with
  | idle machine program =>
      refine ⟨program ▸ labels, paired, ?_⟩
      rw [machine]
      exact short
  | loaded read machine =>
      refine ⟨Program.labelsInside_of_read read, paired, ?_⟩
      rw [machine]
      exact ⟨by decide, nofun⟩
  | carriedOut fetched effect machine program =>
      obtain ⟨active, -, -⟩ := State.fetch?_eq_some fetched
      have after := effect.oneShort short (labels _ _ active)
      refine ⟨program ▸ labels, paired, ?_⟩
      rw [machine]
      exact ⟨Int.le_trans after.pointer (Int.le_add_of_nonneg_right (by decide)), after.saved⟩
  | failed fetched effect program =>
      obtain ⟨active, -, -⟩ := State.fetch?_eq_some fetched
      exact ⟨program ▸ labels, paired, effect.oneShort short (labels _ _ active)⟩
  | passed _ _ machine program =>
      refine ⟨program ▸ labels, paired, ?_⟩
      rw [machine]
      exact ⟨Int.le_trans short.pointer (Int.le_add_of_nonneg_right (by decide)), short.saved⟩

/-- Moving on makes up for the place that a jump, a call or a return falls short. -/
theorem natural_of_effect {function : Function} {instruction : Instruction} {after : Machine}
    (steady : state.Steady) (fetched : state.fetch? = some (function, instruction))
    (effect : Effect function.labels state.machine instruction after none)
    (machine : final.machine = { after with ip := after.ip + 1 }) : 0 ≤ final.machine.ip := by
  obtain ⟨active, -, -⟩ := State.fetch?_eq_some fetched
  have pointer := (effect.oneShort steady.short (steady.labels _ _ active)).pointer
  rw [machine]
  dsimp only
  omega

theorem Change.natural (change : Change state final) (steady : state.Steady)
    (natural : 0 ≤ state.machine.ip) : 0 ≤ final.machine.ip := by
  cases change with
  | idle machine =>
      rw [machine]
      exact natural
  | loaded _ machine => exact Int.le_of_eq (congrArg Machine.ip machine).symm
  | carriedOut fetched effect machine => exact natural_of_effect steady fetched effect machine
  | failed _ effect =>
      rw [effect.ip_of_fault steady.paired]
      exact natural
  | passed _ _ machine =>
      rw [machine]
      exact Int.add_nonneg natural (by decide)

theorem changes_steady (changes : ReflTransGen Change state final) (steady : state.Steady) :
    final.Steady ∧ (0 ≤ state.machine.ip → 0 ≤ final.machine.ip) := by
  induction changes with
  | refl => exact ⟨steady, id⟩
  | tail _ change ih =>
      obtain ⟨steadyThere, natural⟩ := ih
      exact ⟨change.steady steadyThere, fun atFirst => change.natural steadyThere (natural atFirst)⟩

theorem Moves.natural {lead : String} {echo : Bool} {legs : List Leg} (moves : Moves lead echo state legs final)
    (steady : state.Steady) (some_ : legs ≠ []) : 0 ≤ final.machine.ip := by
  cases moves with
  | refl => exact absurd rfl some_
  | cons moved moves =>
      obtain ⟨function, after, fetched, effect, machine, -⟩ := advance_effect moved
      have first := natural_of_effect steady fetched effect machine
      have steadyThere := (change_of_moved moved).steady steady
      exact (changes_steady moves.changes steadyThere).2 first

/-- Whether a command is an `exec` that carries out an instruction which leads to the first place of a
function. -/
inductive State.ExecsToStart (state : State) (line : CommandLine) : Prop where
  | intro {function : Function} {instruction : Instruction} (isExec : line.command = .exec)
      (spelled : spelled? line.argument = some instruction) (active : state.active = .ok function)
      (carried : ((state.executing instruction).execute function instruction).fault = none)
      (leads : instruction.destination? function.labels state.machine = some 0)

theorem exec_of_carried {argument : List Char} {function : Function} {instruction : Instruction}
    (spelled : spelled? argument = some instruction) (active : state.active = .ok function)
    (carried : ((state.executing instruction).execute function instruction).fault = none) :
    exec state argument =
      .prompt ((state.executing instruction).after
        ((state.executing instruction).execute function instruction)) := by
  obtain ⟨word, tries⟩ := exec_of_spelled? state spelled
  rw [tries, settleAttempt, State.attempt, active]
  dsimp only
  rw [carried]

/-- Where the pointer stands after an `exec`: one short of the place that the instruction leads to, and where it
stood before if the instruction leads nowhere. -/
theorem ip_of_executing {function : Function} {instruction : Instruction}
    (carried : ((state.executing instruction).execute function instruction).fault = none) :
    ((state.executing instruction).execute function instruction).machine.ip + 1 =
      (instruction.destination? function.labels state.machine).getD (state.machine.ip + 1) :=
  Machine.ip_of_execute carried

theorem effect_of_executing (state : State) (function : Function) (instruction : Instruction) :
    Effect function.labels state.machine instruction
      ((state.executing instruction).execute function instruction).machine
      ((state.executing instruction).execute function instruction).fault :=
  Machine.execute_effect function.labels state.machine (state.executing instruction).console instruction

theorem ip_of_execsToStart {line : CommandLine} (execs : state.ExecsToStart line) :
    ∃ next, answer state line = .prompt next ∧ next.machine.ip = -1 := by
  obtain @⟨function, instruction, isExec, spelled, active, carried, leads⟩ := execs
  obtain ⟨command, argument⟩ := line
  obtain rfl : command = .exec := isExec
  have place := ip_of_executing carried
  rw [leads, Option.getD_some] at place
  refine ⟨_, exec_of_carried spelled active carried, ?_⟩
  change ((state.executing instruction).execute function instruction).machine.ip = -1
  omega

/-- An `exec` that leaves the pointer before the first instruction has led to that instruction. -/
theorem execsToStart_of_exec {argument : List Char} (steady : state.Steady) (natural : 0 ≤ state.machine.ip)
    (executed : exec state argument = .prompt final) (negative : final.machine.ip < 0) :
    state.ExecsToStart ⟨.exec, argument⟩ := by
  obtain ⟨-, same | ⟨function, instruction, spelled, active, machine⟩⟩ := machine_of_exec executed
  · rw [same] at negative
    omega
  · have effect := effect_of_executing state function instruction
    rw [machine] at negative
    cases carried : ((state.executing instruction).execute function instruction).fault with
    | some fault =>
        rw [carried] at effect
        have still := effect.ip_of_fault steady.paired
        omega
    | none =>
        have place := ip_of_executing carried
        have low := (effect.oneShort steady.short (steady.labels _ _ active)).pointer
        refine .intro rfl spelled active carried ?_
        cases leads : instruction.destination? function.labels state.machine with
        | none =>
            rw [leads, Option.getD_none] at place
            omega
        | some start =>
            rw [leads, Option.getD_some] at place
            congr 1
            omega

theorem turn_steady (steady : state.Steady) (turned : frontend.turn state = .prompt final) : final.Steady := by
  have asked : (frontend.read state).1.Steady := ⟨steady.labels, steady.paired, steady.short⟩
  rcases frontend.answer_of_turn turned with rfl | ⟨⟨command, argument⟩, -, answered⟩
  · exact asked
  · by_cases isExec : command = .exec
    · subst isExec
      have paired := paired_of_turn steady.paired turned
      obtain ⟨program, same | ⟨function, instruction, fault, active, effect⟩⟩ := effect_of_exec answered
      · exact ⟨program ▸ asked.labels, paired, same ▸ asked.short⟩
      · exact ⟨program ▸ asked.labels, paired, effect.oneShort asked.short (asked.labels _ _ active)⟩
    · exact (changes_steady (answer_changes isExec answered) asked).1

theorem execsToStart_of_turn (steady : state.Steady) (natural : 0 ≤ state.machine.ip)
    (turned : frontend.turn state = .prompt final) (negative : final.machine.ip < 0) :
    ∃ line, frontend.command? state = some line ∧ (frontend.read state).1.ExecsToStart line := by
  have asked : (frontend.read state).1.Steady := ⟨steady.labels, steady.paired, steady.short⟩
  have naturalThere : 0 ≤ (frontend.read state).1.machine.ip := natural
  rcases frontend.answer_of_turn turned with rfl | ⟨⟨command, argument⟩, given, answered⟩
  · omega
  · by_cases isExec : command = .exec
    · subst isExec
      exact ⟨_, given, execsToStart_of_exec asked naturalThere answered negative⟩
    · have still := (changes_steady (answer_changes isExec answered) asked).2 naturalThere
      omega

end

theorem opening_steady (settings : Settings) (files : FileStore) (terminal : Terminal) :
    (opening settings files terminal).Steady :=
  ⟨Program.labelsInside_empty, rfl, ⟨show (-1 : Int) ≤ 0 by decide, nofun⟩⟩

/-- At every prompt of every session the instruction pointer is at least minus one. It is negative only if an
`exec` earlier in the session has led to the first place of a function, and every such `exec` comes back to a prompt
with a negative pointer. The instruction that is fetched there is the last one of the active function, but none
that a command carries out after it is fetched by a negative index. -/
theorem pointer_negative_only_after_exec (settings : Settings) (files : FileStore) (terminal : Terminal)
    (turns : Nat) (state : State)
    (reached : frontend.promptAfter turns (opening settings files terminal) = some state) :
    -1 ≤ state.machine.ip ∧
    (state.machine.ip < 0 → ∃ earlier before line, earlier < turns ∧
      frontend.promptAfter earlier (opening settings files terminal) = some before ∧
      frontend.command? before = some line ∧ (frontend.read before).1.ExecsToStart line) ∧
    (∀ line, frontend.command? state = some line → (frontend.read state).1.ExecsToStart line →
      ∃ next, frontend.turn state = .prompt next ∧ next.machine.ip = -1) ∧
    (state.machine.ip < 0 → ∀ function, state.active = .ok function →
      state.fetch? = function.instructions.getLast?.map fun instruction => (function, instruction)) ∧
    ∀ lead echo legs last, Moves lead echo state legs last → legs ≠ [] → 0 ≤ last.machine.ip := by
  have steadyAt : ∀ {turns state}, frontend.promptAfter turns (opening settings files terminal) = some state →
      state.Steady := by
    intro turns state reached
    exact frontend.invariant_at_every_prompt (fun _ _ => turn_steady) (opening_steady settings files terminal)
      reached
  have steady := steadyAt reached
  refine ⟨steady.short.pointer, ?_, ?_, ?_, fun _ _ _ _ moves => moves.natural steady⟩
  · intro negative
    have initial : 0 ≤ (opening settings files terminal).machine.ip := Int.le_refl 0
    obtain ⟨earlier, before, next, fewer, leads, turned, natural, broken⟩ :=
      frontend.exists_breaking_turn (fun state : State => 0 ≤ state.machine.ip) initial reached
        (Int.not_le.mpr negative)
    obtain ⟨line, given, execs⟩ := execsToStart_of_turn (steadyAt leads) natural turned (Int.not_le.mp broken)
    exact ⟨earlier, before, line, fewer, leads, given, execs⟩
  · intro line given execs
    rw [frontend.turn_of_command? given]
    exact ip_of_execsToStart execs
  · intro negative function active
    have pointer : state.machine.ip = -1 := by
      have low := steady.short.pointer
      omega
    rw [State.fetch?, active, pointer]
    dsimp only
    rw [itemAt?_neg_one]

def restartingFile : FileStore :=
  FileStore.add ⟨[]⟩ "p" (String.toUTF8
    "function \"$entrypoint$\"\nLABEL top\nLOAD_CONST 1\nLOAD_CONST 2").toList

def restarting : State :=
  opening ⟨false, true, .adaptive, 10⟩ restartingFile
    { script := [.line "load p", .line "exec JMP top", .line "step"] }

/-- A jump to the label at the first place leaves the pointer before it, and the last of the three instructions is
fetched next. -/
theorem pointer_negative_only_after_exec_restarting :
    ∃ state function, frontend.promptAfter 2 restarting = some state ∧ state.machine.ip = -1 ∧
      (∃ earlier before line, earlier < 2 ∧ frontend.promptAfter earlier restarting = some before ∧
        frontend.command? before = some line ∧ (frontend.read before).1.ExecsToStart line) ∧
      state.active = .ok function ∧ function.instructions.length = 3 ∧
      state.fetch? = function.instructions.getLast?.map fun instruction => (function, instruction) := by
  have shown : ((frontend.promptAfter 2 restarting).map fun state =>
      (state.machine.ip, state.active.toOption.map fun function => function.instructions.length)) =
      some (-1, some 3) := by decide +kernel
  obtain ⟨state, reached, same⟩ := Option.map_eq_some_iff.mp shown
  obtain ⟨pointer, same⟩ := Prod.mk.inj same
  obtain ⟨function, found, length⟩ := Option.map_eq_some_iff.mp same
  have active := eq_ok_of_toOption found
  have negative : state.machine.ip < 0 := by
    rw [pointer]
    decide
  obtain ⟨-, led, -, fetches, -⟩ := pointer_negative_only_after_exec _ _ _ 2 state reached
  exact ⟨state, function, reached, pointer, led negative, active, length, fetches negative function active⟩

theorem pointer_negative_at_prompt :
    ¬ ∀ (settings : Settings) (files : FileStore) (terminal : Terminal) (turns : Nat) (state : State),
      settings.link = true → frontend.promptAfter turns (opening settings files terminal) = some state →
      0 ≤ state.machine.ip := by
  intro natural
  have shown : ((frontend.promptAfter 2 restarting).map fun state => state.machine.ip) = some (-1) := by
    decide +kernel
  obtain ⟨state, reached, pointer⟩ := Option.map_eq_some_iff.mp shown
  have atPrompt := natural _ _ _ 2 state rfl reached
  rw [pointer] at atPrompt
  exact absurd atPrompt (by decide)

end Debugger.Functions

end StackMachine

import StackMachine.Proofs.Debugger.Continuation
import StackMachine.Proofs.Listing.Grammar
import StackMachine.Proofs.Machine.Shortage

/-!
What an `exec` reports about the instruction that it tries. A word that names no operation code is reported as such, but
so is every key that is not found: that of the active function, if it is not loaded, and that of a label. All other
faults are reported as failures (`unknown_opcode_reported_for_missing_keys`).
-/

set_option autoImplicit false

namespace StackMachine

/-- Whether reads take their answers from no dictionary. -/
def Console.Orderly (console : Console) : Prop :=
  ∀ style entries, console.feed ≠ some ⟨style, .dict entries⟩

theorem Feed.dict_of_takeFirst {buffer item : Value} {entries : List (Value × Value)}
    (taken : takeFirst buffer = .ok (item, .dict entries)) : ∃ others, buffer = .dict others := by
  unfold takeFirst at taken
  split at taken
  · cases taken
  · cases taken
  · exact ⟨_, rfl⟩
  · cases taken

theorem Feed.dict_of_take {feed : Feed} {prompts : Nat} {value : Value} {style : FeedStyle}
    {entries : List (Value × Value)} (taken : feed.take prompts = .ok (value, ⟨style, .dict entries⟩)) :
    ∃ others, feed.buffer = .dict others := by
  have first : ∀ {answer : Except Fault (Value × Value)},
      (answer.map fun taken => (taken.1, { feed with buffer := taken.2 })) = .ok (value, ⟨style, .dict entries⟩) →
        answer = .ok (value, .dict entries) := by
    intro answer same
    cases answer with
    | error fault => cases same
    | ok taken =>
        obtain ⟨item, rest⟩ := taken
        cases same
        rfl
  unfold take at taken
  split at taken
  · split at taken
    · cases taken
    · split at taken
      · exact dict_of_takeFirst (first taken)
      · cases taken
  · split at taken
    · exact dict_of_takeFirst (first taken)
    · cases taken
  · split at taken
    · exact dict_of_takeFirst (first taken)
    · next whole _ =>
        cases taken
        exact ⟨entries, rfl⟩

theorem Console.Orderly.input {console : Console} (orderly : console.Orderly) : console.input.1.Orderly := by
  unfold Console.input
  cases fed : console.feed with
  | none =>
      intro style entries
      change console.feed ≠ _
      exact orderly style entries
  | some feed =>
      dsimp only
      cases taken : feed.take 1 with
      | error fault => exact orderly
      | ok answer =>
          obtain ⟨value, left⟩ := answer
          intro style entries same
          obtain rfl := Option.some.inj same
          obtain ⟨others, buffer⟩ := Feed.dict_of_take taken
          obtain ⟨style, whole⟩ := feed
          obtain rfl : whole = .dict others := buffer
          exact orderly style others fed

theorem Console.Orderly.execute {console : Console} (orderly : console.Orderly) (labels : Labels) (machine : Machine)
    (instruction : Instruction) : (machine.execute labels console instruction).console.Orderly := by
  intro style entries fed
  rcases machine.feed_of_execute labels console instruction with same | read
  · exact orderly style entries (same.symm.trans fed)
  · exact orderly.input style entries (read.symm.trans fed)

namespace Debugger.Functions

/-- Whether the active function is not there, or an instruction jumps to a label that is not there. -/
inductive State.Misses (state : State) (instruction : Instruction) : Prop where
  | function (hashable : state.machine.current.hashable = true)
      (absent : ∀ name, state.machine.current = .text name → state.program.body? name = none)
  | label {function : Function} (active : state.active = .ok function)
      (strays : instruction.Strays function.labels state.machine)

theorem orderly_lasts : Lasts fun state later => state.console.Orderly → later.console.Orderly where
  refl _ orderly := orderly
  trans first second orderly := second (first orderly)
  said _ _ orderly := orderly
  read _ _ orderly := orderly
  fed state instruction line buffer buffered _ := by
    rintro style entries same
    obtain ⟨-, rfl⟩ := Feed.mk.inj (Option.some.inj same)
    unfold Instruction.buffer at buffered
    split at buffered
    · cases read : readNumbers line.toList <;> rw [read] at buffered <;> cases buffered
    · cases buffered
  executed state function instruction orderly := orderly.execute function.labels state.machine instruction
  moved _ orderly := orderly
  loaded _ _ _ orderly := orderly

theorem orderly_of_promptAfter {settings : Settings} {files : FileStore} {terminal : Terminal} {turns : Nat}
    {state : State} (reached : frontend.promptAfter turns (opening settings files terminal) = some state) :
    (frontend.read state).1.console.Orderly := by
  have initial : (opening settings files terminal).console.Orderly := nofun
  have kept : ∀ before after : State, before.console.Orderly → frontend.turn before = .prompt after →
      after.console.Orderly := fun _ _ orderly turned => turn_lasts orderly_lasts turned orderly
  exact orderly_lasts.read state _ (frontend.invariant_at_every_prompt kept initial reached)

section

variable {state : State} {instruction : Instruction} {argument word : List Char} {args : List (List Char)}
  {op : Opcode} {fault : Fault}

theorem exec_of_unnamed (spelt : Text.words argument = word :: args)
    (unnamed : ∀ op : Opcode, String.ofList word ≠ op.name) :
    exec state argument = .prompt (state.say ("\nUnknown opcode: " ++ String.ofList word)) := by
  have none : Opcode.ofName? (String.ofList word) = none := by
    cases found : Opcode.ofName? (String.ofList word) with
    | none => rfl
    | some op => exact absurd (Opcode.ofName?_eq_some_iff.mp found) (unnamed op)
  rw [exec, spelt]
  dsimp only
  rw [none]

theorem settleExec_unknown_iff : settleExec word state fault =
    .prompt (state.say ("\nUnknown opcode: " ++ String.ofList word)) ↔ fault.classOf = .key := by
  constructor
  · intro settled
    unfold settleExec at settled
    cases kind : fault.classOf with
    | key => rfl
    | interrupt =>
        rw [kind] at settled
        cases settled
    | _ =>
        rw [kind] at settled
        have lines := Console.line_of_writeLine (congrArg State.console (Turn.prompt.inj settled))
        have heads := congrArg (fun line => line.toList[1]?) lines
        simp [String.toList_append] at heads
  · intro key
    rw [settleExec, key]

/-- The active function is a missing key if and only if its name can be a key and there is no such function. -/
theorem active_key_iff : (∃ fault, state.active = .error fault ∧ fault.classOf = .key) ↔
    state.machine.current.hashable = true ∧
      ∀ name, state.machine.current = .text name → state.program.body? name = none := by
  unfold State.active Program.function
  cases state.machine.current with
  | text name =>
      dsimp only
      cases found : state.program.body? name with
      | none =>
          refine ⟨fun _ => ⟨rfl, ?_⟩, fun _ => ⟨_, rfl, rfl⟩⟩
          intro other same
          obtain rfl := Value.text.inj same
          exact found
      | some body =>
          have never : ¬ ∀ other, Value.text name = .text other → state.program.body? other = none := by
            intro absent
            rw [absent name rfl] at found
            cases found
          refine ⟨?_, fun missing => absurd missing.2 never⟩
          rintro ⟨fault, failed, key⟩
          cases body <;> cases failed
          cases key
  | list | dict =>
      refine ⟨?_, fun missing => absurd missing.1 Bool.false_ne_true⟩
      rintro ⟨fault, failed, key⟩
      cases failed
      cases key
  | _ => exact ⟨fun _ => ⟨rfl, nofun⟩, fun _ => ⟨_, rfl, rfl⟩⟩

theorem key_iff_misses (orderly : state.console.Orderly) :
    (∃ fault, (state.attempt instruction).2 = some fault ∧ fault.classOf = .key) ↔ state.Misses instruction := by
  cases active : state.active with
  | error trouble =>
      have tried : (state.attempt instruction).2 = some trouble := by rw [State.attempt, active]
      constructor
      · rintro ⟨fault, failed, key⟩
        obtain rfl := Option.some.inj (tried.symm.trans failed)
        obtain ⟨hashable, absent⟩ := active_key_iff.mp ⟨_, active, key⟩
        exact .function hashable absent
      · rintro (⟨hashable, absent⟩ | ⟨activeThere, -⟩)
        · obtain ⟨fault, failed, key⟩ := active_key_iff.mpr ⟨hashable, absent⟩
          obtain rfl := Except.error.inj (active.symm.trans failed)
          exact ⟨_, tried, key⟩
        · rw [active] at activeThere
          cases activeThere
  | ok function =>
      have orderlyThere : (state.executing instruction).console.Orderly := orderly
      have tried : (state.attempt instruction).2 =
          (state.machine.execute function.labels (state.executing instruction).console instruction).fault := by
        rw [State.attempt, active]
        rfl
      rw [tried, Machine.key_iff_strays orderlyThere]
      constructor
      · exact .label active
      · rintro (⟨hashable, absent⟩ | ⟨activeThere, strays⟩)
        · obtain ⟨fault, failed, -⟩ := active_key_iff.mpr ⟨hashable, absent⟩
          rw [active] at failed
          cases failed
        · obtain rfl := Except.ok.inj (active.symm.trans activeThere)
          exact strays

theorem settleAttempt_unknown_iff {tried : State × Option Fault} :
    settleAttempt word tried = .prompt (tried.1.say ("\nUnknown opcode: " ++ String.ofList word)) ↔
      ∃ fault, tried.2 = some fault ∧ fault.classOf = .key := by
  obtain ⟨tried, trouble⟩ := tried
  cases trouble with
  | some fault =>
      refine settleExec_unknown_iff.trans ⟨fun key => ⟨fault, rfl, key⟩, ?_⟩
      rintro ⟨other, same, key⟩
      obtain rfl := Option.some.inj same
      exact key
  | none =>
      refine ⟨fun same => ?_, nofun⟩
      have written : tried.console = _ := congrArg State.console (Turn.prompt.inj same)
      exact absurd written.symm (Console.writeLine_ne_self _ _)

theorem eq_interrupted_of_classOf (interrupt : fault.classOf = .interrupt) : fault = .interrupted := by
  cases fault with
  | interrupted => rfl
  | _ => cases interrupt

theorem settleExec_of_other (noKey : fault.classOf ≠ .key) (uninterrupted : fault ≠ .interrupted) :
    settleExec word state fault = .prompt (state.say ("\nExecution failed: " ++ fault.message)) := by
  unfold settleExec
  split
  · next key => exact absurd key noKey
  · next interrupt => exact absurd (eq_interrupted_of_classOf interrupt) uninterrupted
  · rfl

end

/-- An `exec` is given at a prompt. A word that names no operation code is reported as unknown. One that does is
reported as unknown too if and only if the active function is not there or the instruction jumps to a label that is not
there. If nothing of that is missing, a fault of the instruction is reported as a failure, unless it is an interruption,
which leaves the debugger. An instruction that is carried out is not reported on. -/
theorem unknown_opcode_reported_for_missing_keys (settings : Settings) (files : FileStore) (terminal : Terminal)
    (turns : Nat) (state : State) (argument word : List Char) (args : List (List Char))
    (reached : frontend.promptAfter turns (opening settings files terminal) = some state)
    (given : frontend.command? state = some ⟨.exec, argument⟩) (spelt : Text.words argument = word :: args) :
    let asked := (frontend.read state).1
    let unknown := "\nUnknown opcode: " ++ String.ofList word
    ((∀ op : Opcode, String.ofList word ≠ op.name) → frontend.turn state = .prompt (asked.say unknown)) ∧
    ∀ op : Opcode, String.ofList word = op.name →
      let instruction := Instruction.of op (args.map Value.ofWord)
      let tried := asked.attempt instruction
      (frontend.turn state = .prompt (tried.1.say unknown) ↔ asked.Misses instruction) ∧
      (¬ asked.Misses instruction →
        (∀ fault, tried.2 = some fault → fault ≠ .interrupted →
          frontend.turn state = .prompt (tried.1.say ("\nExecution failed: " ++ fault.message))) ∧
        (tried.2 = some .interrupted → frontend.turn state = .failed tried.1 .interrupted) ∧
        (tried.2 = none → frontend.turn state = .prompt tried.1)) := by
  intro asked unknown
  have turned : frontend.turn state = exec asked argument := frontend.turn_of_command? given
  have orderly : asked.console.Orderly := orderly_of_promptAfter reached
  rw [turned]
  refine ⟨exec_of_unnamed spelt, ?_⟩
  intro op named instruction tried
  have misses : _ ↔ asked.Misses instruction := key_iff_misses orderly
  rw [exec_of_named asked spelt (Opcode.ofName?_eq_some_iff.mpr named)]
  refine ⟨settleAttempt_unknown_iff.trans misses, ?_⟩
  intro nothing
  change (∀ fault, _ → _ → settleAttempt word tried = _) ∧ (_ → settleAttempt word tried = _) ∧
    (_ → settleAttempt word tried = _)
  rw [settleAttempt]
  refine ⟨?_, ?_, ?_⟩
  · intro fault failed uninterrupted
    have noKey : fault.classOf ≠ .key := fun key => nothing (misses.mp ⟨fault, failed, key⟩)
    rw [failed]
    exact settleExec_of_other noKey uninterrupted
  · intro interrupted
    rw [interrupted]
    rfl
  · intro carried
    rw [carried]

def printingFile : FileStore :=
  FileStore.add ⟨[]⟩ "p" (String.toUTF8 "function \"$entrypoint$\"\nPRINT").toList

/-- The same command before and after a load. -/
def addingTwice : Terminal :=
  { script := [.line "exec ADD", .line "load p", .line "exec ADD"] }

theorem missing_before_load (settings : Settings) (files : FileStore) (terminal : Terminal)
    (instruction : Instruction) : (frontend.read (opening settings files terminal)).1.Misses instruction :=
  .function rfl fun _ _ => rfl

/-- Before anything is loaded an addition is reported as unknown. Afterwards it is reported that there is nothing to
add. -/
theorem unknown_opcode_reported_for_missing_keys_adding :
    let start := opening ⟨false, true, .adaptive, 10⟩ printingFile addingTwice
    (∃ tried : State, frontend.turn start = .prompt (tried.say "\nUnknown opcode: ADD")) ∧
    ∃ state tried : State, frontend.promptAfter 2 start = some state ∧
      frontend.turn state = .prompt (tried.say "\nExecution failed: pop from empty list") := by
  intro start
  have named : String.ofList ['A', 'D', 'D'] = (Opcode.arithmetic .add).name := by decide
  have spelt : Text.words ['A', 'D', 'D'] = [['A', 'D', 'D']] := by decide
  constructor
  · have given : frontend.command? start = some ⟨.exec, ['A', 'D', 'D']⟩ := by decide +kernel
    obtain ⟨-, reports⟩ := unknown_opcode_reported_for_missing_keys ⟨false, true, .adaptive, 10⟩ printingFile
      addingTwice 0 start _ _ _ rfl given spelt
    exact ⟨_, (reports _ named).1.mpr (missing_before_load _ _ _ _)⟩
  · have tries : ((frontend.promptAfter 2 start).bind fun state =>
        ((frontend.read state).1.attempt (.of (.arithmetic .add) [])).2.map fun fault =>
          (frontend.command? state, fault.classOf, fault.message)) =
        some (some ⟨.exec, ['A', 'D', 'D']⟩, .index, "pop from empty list") := by decide +kernel
    obtain ⟨state, reached, tries⟩ := Option.bind_eq_some_iff.mp tries
    obtain ⟨fault, failed, same⟩ := Option.map_eq_some_iff.mp tries
    obtain ⟨given, same⟩ := Prod.mk.inj same
    obtain ⟨index, message⟩ := Prod.mk.inj same
    have nothing : ¬ (frontend.read state).1.Misses (.of (.arithmetic .add) []) := by
      intro misses
      obtain ⟨other, failedThere, key⟩ := (key_iff_misses (orderly_of_promptAfter reached)).mpr misses
      obtain rfl := Option.some.inj (failed.symm.trans failedThere)
      rw [index] at key
      cases key
    have uninterrupted : fault ≠ .interrupted := by
      rintro rfl
      cases index
    obtain ⟨-, reports⟩ := unknown_opcode_reported_for_missing_keys ⟨false, true, .adaptive, 10⟩ printingFile
      addingTwice 2 state _ _ _ reached given spelt
    obtain ⟨-, others⟩ := reports _ named
    have reported := (others nothing).1 fault failed uninterrupted
    rw [message] at reported
    exact ⟨state, _, reached, reported⟩

/-- A word that names an operation code can be reported as unknown. -/
theorem known_opcode_reported_unknown :
    ¬ ∀ (settings : Settings) (files : FileStore) (terminal : Terminal) (turns : Nat) (state : State)
        (argument word : List Char) (args : List (List Char)) (op : Opcode), settings.link = true →
      frontend.promptAfter turns (opening settings files terminal) = some state →
      frontend.command? state = some ⟨.exec, argument⟩ → Text.words argument = word :: args →
      String.ofList word = op.name →
      frontend.turn state ≠ .prompt (((frontend.read state).1.attempt (.of op (args.map Value.ofWord))).1.say
        ("\nUnknown opcode: " ++ String.ofList word)) := by
  intro truthful
  have named : String.ofList ['A', 'D', 'D'] = (Opcode.arithmetic .add).name := by decide
  have spelt : Text.words ['A', 'D', 'D'] = [['A', 'D', 'D']] := by decide
  let start := opening ⟨false, true, .adaptive, 10⟩ printingFile addingTwice
  have given : frontend.command? start = some ⟨.exec, ['A', 'D', 'D']⟩ := by decide +kernel
  have orderly : (frontend.read start).1.console.Orderly := nofun
  have misses := (key_iff_misses orderly).mpr (missing_before_load _ _ _ (.of (.arithmetic .add) []))
  have turned : frontend.turn start = exec (frontend.read start).1 ['A', 'D', 'D'] := frontend.turn_of_command? given
  have tried := exec_of_named (frontend.read start).1 spelt (Opcode.ofName?_eq_some_iff.mpr named)
  have reported := turned.trans (tried.trans (settleAttempt_unknown_iff.mpr misses))
  exact truthful ⟨false, true, .adaptive, 10⟩ printingFile addingTwice 0 start _ _ _ _ rfl rfl given spelt named
    reported

end Debugger.Functions

end StackMachine

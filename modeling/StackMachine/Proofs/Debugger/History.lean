import StackMachine.Proofs.Debugger.Continuation
import StackMachine.Proofs.Listing.Grammar

/-!
What is left of a session after a load. The machine and the program are new, but the feed of the last question
stays, and so does everything that was printed and written. `Console.following` puts such a past behind a
console; every command does with it what it does without it, except an `exec` of an instruction that reads.
So two sessions that have loaded the same file go on alike.
-/

set_option autoImplicit false

namespace StackMachine

structure Past where
  feed : Option Feed
  printed : List Value
  segments : List String

namespace Console

/-- The console with a past behind it. A feed of its own hides an older one. -/
def following (console : Console) (past : Past) : Console where
  feed := console.feed.or past.feed
  printed := past.printed ++ console.printed
  terminal := { console.terminal with finished := console.terminal.finished ++ past.segments }

variable (console : Console) (past : Past)

theorem readLine_following (prompt : String) :
    (console.following past).readLine prompt =
      ((console.readLine prompt).1.following past, (console.readLine prompt).2) := by
  obtain ⟨feed, printed, script, finished, current⟩ := console
  cases script with
  | nil => rfl
  | cons keystroke rest => cases keystroke <;> rfl

theorem input_following {console : Console} {past : Past} (fed : console.feed = none → past.feed = none) :
    (console.following past).input = (console.input.1.following past, console.input.2) := by
  unfold input
  cases answering : console.feed with
  | some feed =>
      have fedThere : (console.following past).feed = some feed := by
        simp only [following, answering, Option.some_or]
      rw [fedThere]
      dsimp only
      cases feed.take 1 <;> rfl
  | none =>
      have unfedThere : (console.following past).feed = none := by
        simp only [following, answering, fed answering, Option.none_or]
      rw [unfedThere]
      dsimp only
      rw [readLine_following]

theorem print_following (object : Value) :
    (console.following past).print object =
      ((console.print object).1.following past, (console.print object).2) := by
  unfold print
  cases object.show with
  | error fault => rfl
  | ok text => simp only [following, writeLine, Terminal.writeLine, Terminal.write, List.append_assoc]

end Console

def Outcome.following (outcome : Outcome) (past : Past) : Outcome :=
  { outcome with console := outcome.console.following past }

namespace Machine

variable (machine : Machine) {console : Console} (past : Past)

theorem printTop_following :
    machine.printTop (console.following past) = (machine.printTop console).following past := by
  unfold printTop pop
  cases machine.stack with
  | nil => rfl
  | cons value rest =>
      dsimp only
      rw [Console.print_following]
      rfl

theorem readText_following (fed : console.feed = none → past.feed = none) :
    machine.readText (console.following past) = (machine.readText console).following past := by
  unfold readText
  rw [Console.input_following fed]
  obtain ⟨after, answer⟩ := console.input
  cases answer with
  | error fault => rfl
  | ok value => cases value <;> rfl

theorem readNumber_following (fed : console.feed = none → past.feed = none) :
    machine.readNumber (console.following past) = (machine.readNumber console).following past := by
  unfold readNumber
  rw [Console.input_following fed]
  obtain ⟨after, answer⟩ := console.input
  cases answer with
  | error fault => rfl
  | ok value =>
      dsimp only
      cases value.number? <;> rfl

/-- The past is of no account to an instruction, unless it is a read that only an old feed could answer. -/
theorem execute_following (labels : Labels) {instruction : Instruction}
    (fed : instruction.reads = true → console.feed = none → past.feed = none) :
    machine.execute labels (console.following past) instruction =
      (machine.execute labels console instruction).following past := by
  obtain ⟨mnemonic, args⟩ := instruction
  cases mnemonic with
  | unknown word => rfl
  | known op =>
      simp only [execute]
      cases quiet : op.quiet with
      | true =>
          obtain ⟨after, fault, same⟩ := perform_quiet labels machine quiet args
          simp only [same]
          rfl
      | false =>
          cases op with
          | print =>
              cases args with
              | nil => exact printTop_following machine past
              | cons _ _ => rfl
          | inputString =>
              cases args with
              | nil => exact readText_following machine past (fed rfl)
              | cons _ _ => rfl
          | inputNumber =>
              cases args with
              | nil => exact readNumber_following machine past (fed rfl)
              | cons _ _ => rfl
          | breakpoint => rfl
          | _ => cases quiet

end Machine

namespace Debugger

/-- An `exec` of an instruction that reads. Nothing is asked before it, so it reads from whatever feed there
is. -/
def CommandLine.ReadsUnasked (line : CommandLine) : Prop :=
  line.command = .exec ∧ (nameIn line.argument = some "INPUT_STRING".toList ∨
    nameIn line.argument = some "INPUT_NUMBER".toList)

instance : DecidablePred CommandLine.ReadsUnasked :=
  fun line => inferInstanceAs (Decidable (line.command = .exec ∧ (_ ∨ _)))

section

variable {σ : Type} (frontend : Frontend σ)

variable {embed : σ → σ} {Allowed : CommandLine → Prop}
  (turns : ∀ state, (∀ line, frontend.command? state = some line → Allowed line) →
    frontend.turn (embed state) = (frontend.turn state).map embed)
include turns

theorem Frontend.commands_embed
    (commands : ∀ state, frontend.command? (embed state) = frontend.command? state) {count : Nat} {state : σ}
    (allowed : ∀ line ∈ frontend.commands count (embed state), Allowed line) :
    frontend.commands count (embed state) = frontend.commands count state := by
  induction count generalizing state with
  | zero => rfl
  | succ count ih =>
      rw [Frontend.commands, commands state] at allowed
      rw [Frontend.commands, Frontend.commands, commands state]
      obtain ⟨first, later⟩ := List.forall_mem_append.mp allowed
      have turned := turns state fun line given => first line (by simp [given])
      rw [turned] at later ⊢
      cases next : frontend.turn state with
      | prompt middle =>
          rw [next] at later
          exact congrArg _ (ih later)
      | returned | failed | exhausted => rfl

theorem Frontend.converse_embed {count : Nat} {state : σ}
    (allowed : ∀ line ∈ frontend.commands count state, Allowed line) :
    frontend.converse count (embed state) =
      (embed (frontend.converse count state).1, (frontend.converse count state).2) := by
  induction count generalizing state with
  | zero => rfl
  | succ count ih =>
      rw [Frontend.commands] at allowed
      obtain ⟨first, later⟩ := List.forall_mem_append.mp allowed
      have turned := turns state fun line given => first line (by simp [given])
      rw [Frontend.converse, Frontend.converse, turned]
      cases next : frontend.turn state with
      | prompt middle =>
          rw [next] at later
          exact ih later
      | returned | failed | exhausted => rfl

end

namespace Functions

def State.following (state : State) (past : Past) : State :=
  { state with console := state.console.following past }

section

variable (state : State) (past : Past)

theorem report_following (printout : Printout) :
    (state.following past).report printout = (state.report printout).map (·.following past) := by
  have said : printout.lines.foldl State.say (state.following past) =
      (printout.lines.foldl State.say state).following past := by
    generalize printout.lines = lines
    induction lines generalizing state with
    | nil => rfl
    | cons line lines ih => exact ih (state.say line)
  unfold State.report report
  rw [said]
  cases printout.fault <;> rfl

theorem Recites.following {state : State} {command : State → Turn State} (recites : Recites state command)
    (past : Past) : command (state.following past) = (command state).map (·.following past) := by
  cases recites with
  | reported printout same =>
      have reported : command state = state.report printout := same state.console
      rw [reported, ← report_following]
      exact same (state.console.following past)
  | returned line same =>
      have returned : command state = .returned (state.say line) := same state.console
      rw [returned]
      exact same (state.console.following past)

theorem transparent_following : Transparent (·.following past) where
  active _ := rfl
  pointer _ := rfl
  moveOn _ := rfl
  say _ _ := rfl
  feedFrom _ _ := rfl
  readLine state prompt := by
    have read := state.console.readLine_following past prompt
    have console : (state.following past).console = state.console.following past := rfl
    simp only [State.readLine, console, read]
    rfl

theorem State.execute_following {state : State} {instruction : Instruction}
    (fed : instruction.reads = true → ∃ feed, state.console.feed = some feed) (past : Past)
    (function : Function) :
    (state.following past).execute function instruction =
      (state.execute function instruction).following past := by
  apply Machine.execute_following
  intro reads unfed
  obtain ⟨feed, answering⟩ := fed reads
  cases unfed.symm.trans answering

theorem advance_following (lead : String) (echo : Bool) :
    advance lead echo (state.following past) = (advance lead echo state).map (·.following past) := by
  apply advance_of_transparent (transparent_following past)
  intro function instruction asked _ asks
  -- An instruction that reads has just been asked for, so the feed is not an old one.
  rw [State.execute_following (feed_of_ask asks)]
  exact ⟨rfl, rfl⟩

theorem settle_following (fault : Fault) :
    settle (state.following past) fault = (settle state fault).map (·.following past) := by
  unfold settle
  cases fault.classOf <;> rfl

theorem travel_following {τ : Type} (lead : String) (echo : Bool) (tally : τ → Instruction → Option τ)
    (fuel : Nat) (counts : τ) :
    (travel lead echo tally fuel counts (state.following past)).turn =
      (travel lead echo tally fuel counts state).turn.map (·.following past) := by
  induction fuel generalizing counts state with
  | zero => rfl
  | succ fuel ih =>
      rw [travel, travel, advance_following]
      cases advance lead echo state with
      | ended last => rfl
      | stopped last fault => exact settle_following last past fault
      | moved next instruction =>
          dsimp only [Progress.map]
          cases tally counts instruction with
          | none => rfl
          | some counts => exact ih next counts

theorem stepInto_following (function : Function) (instruction : Instruction) :
    stepInto (state.following past) function instruction =
      (stepInto state function instruction).map (·.following past) := by
  have announced : (state.following past).say (announcement (state.following past).machine.ip instruction) =
      (state.say (announcement state.machine.ip instruction)).following past := rfl
  unfold stepInto
  dsimp only
  split
  · rfl
  · rw [announced, ask_of_transparent (transparent_following past)]
    cases asks : ask (state.say (announcement state.machine.ip instruction)) "\n" false instruction with
    | mk asked trouble =>
        cases trouble with
        | some fault => rfl
        | none =>
            dsimp only
            rw [State.execute_following (feed_of_ask asks)]
            dsimp only [Outcome.following]
            cases (asked.execute function instruction).fault with
            | none => rfl
            | some fault =>
                dsimp only
                cases fault.classOf <;> rfl

theorem step_following (whole : Bool) :
    step (state.following past) whole = (step state whole).map (·.following past) := by
  have programThere : (state.following past).program = state.program := rfl
  have activeThere : (state.following past).active = state.active := rfl
  have pointer : (state.following past).machine.ip = state.machine.ip := rfl
  unfold step
  rw [programThere, activeThere, pointer]
  split
  · rfl
  · cases state.active with
    | error fault => rfl
    | ok function =>
        dsimp only
        split
        · rfl
        · cases itemAt function.instructions state.machine.ip with
          | error fault => rfl
          | ok instruction =>
              dsimp only
              cases instruction.printable with
              | false => rfl
              | true =>
                  have unhindered : ¬ (!true) = true := Bool.false_ne_true
                  rw [if_neg unhindered, if_neg unhindered]
                  cases overCall : (whole && instruction.is .call) with
                  | false => exact stepInto_following (state.say "") past function instruction
                  | true =>
                      have isCall : instruction.is .call = true := (Bool.and_eq_true _ _ ▸ overCall).2
                      have silent := Instruction.reads_of_is isCall (by decide) (by decide)
                      have announcedThere : ((state.following past).say "").say ("\n" ++ announcement
                          ((state.following past).say "").machine.ip instruction ++ "  # CALL (step over)") =
                          (state.announceOver instruction).following past := rfl
                      have announced : (state.say "").say ("\n" ++ announcement (state.say "").machine.ip
                          instruction ++ "  # CALL (step over)") = state.announceOver instruction := rfl
                      rw [if_pos rfl, if_pos rfl, announcedThere, announced]
                      generalize state.announceOver instruction = announced
                      rw [State.execute_following (by simp [silent]) past function]
                      dsimp only [Outcome.following]
                      cases (announced.execute function instruction).fault with
                      | some fault => rfl
                      | none =>
                          dsimp only
                          rw [stepOver_eq_travel, stepOver_eq_travel]
                          exact travel_following (announced.after (announced.execute function instruction)).moveOn
                            past "\n" true callTally _ _

theorem load_following (argument : List Char) :
    load (state.following past) argument = (load state argument).map (·.following past) := by
  have filesThere : (state.following past).files = state.files := rfl
  unfold load
  rw [filesThere]
  split
  · rfl
  · split
    · rfl
    · rfl
    · split
      · rfl
      · next text _ =>
          dsimp only [State.following, State.say]
          cases Program.read state.settings.link text <;> rfl

theorem reads_of_named {argument word : List Char} {words : List (List Char)} {op : Opcode}
    (asked : ¬ CommandLine.ReadsUnasked ⟨.exec, argument⟩) (spelled : Text.words argument = word :: words)
    (named : Opcode.ofName? (String.ofList word) = some op) (args : List Value) :
    (Instruction.of op args).reads = false := by
  have spelling : word = op.name.toList := by
    rw [← Opcode.ofName?_eq_some_iff.mp named, String.toList_ofList]
  have first : nameIn argument = some op.name.toList := by
    rw [nameIn, spelled, List.head?_cons, spelling]
  have isOp : (Instruction.of op args).is op = true := by simp [Instruction.is, Instruction.of]
  refine Instruction.reads_of_is isOp ?_ ?_
  · rintro rfl
    exact asked ⟨rfl, .inr first⟩
  · rintro rfl
    exact asked ⟨rfl, .inl first⟩

theorem settleExec_following (word : List Char) (fault : Fault) :
    settleExec word (state.following past) fault = (settleExec word state fault).map (·.following past) := by
  unfold settleExec
  cases fault.classOf <;> rfl

theorem exec_following {argument : List Char} (asked : ¬ CommandLine.ReadsUnasked ⟨.exec, argument⟩) :
    exec (state.following past) argument = (exec state argument).map (·.following past) := by
  unfold exec
  cases spelled : Text.words argument with
  | nil => rfl
  | cons word args =>
      dsimp only
      cases named : Opcode.ofName? (String.ofList word) with
      | none => rfl
      | some op =>
          have silent := reads_of_named asked spelled named (args.map Value.ofWord)
          dsimp only
          generalize Instruction.of op (args.map Value.ofWord) = instruction at silent
          have said : (state.following past).say ("\nExecuting: " ++ String.ofList instruction.literal) =
              (state.say ("\nExecuting: " ++ String.ofList instruction.literal)).following past := rfl
          rw [said]
          generalize state.say ("\nExecuting: " ++ String.ofList instruction.literal) = announced
          have activeThere : (announced.following past).active = announced.active := rfl
          rw [activeThere]
          cases announced.active with
          | error fault => exact settleExec_following announced past word fault
          | ok function =>
              dsimp only
              rw [State.execute_following (by simp [silent]) past function]
              dsimp only [Outcome.following]
              cases (announced.execute function instruction).fault with
              | none => rfl
              | some fault =>
                  exact settleExec_following (announced.after (announced.execute function instruction)) past
                    word fault

theorem answer_following {line : CommandLine} (asked : ¬ line.ReadsUnasked) :
    answer (state.following past) line = (answer state line).map (·.following past) := by
  cases writes : line.command.writes with
  | true => exact (answer_recites state writes).following past
  | false =>
      obtain ⟨command, argument⟩ := line
      cases command with
      | load => exact load_following state past argument
      | run =>
          rw [answer_run, answer_run]
          exact travel_following state past "" false _ _ ()
      | step => exact step_following state past false
      | next => exact step_following state past true
      | exec => exact exec_following state past asked
      | _ => cases writes

theorem read_following :
    frontend.read (state.following past) =
      ((frontend.read state).1.following past, (frontend.read state).2) :=
  (transparent_following past).readLine state (if state.settings.interactive then "xvm > " else "")

theorem command?_following : frontend.command? (state.following past) = frontend.command? state := by
  simp only [Frontend.command?, read_following]

theorem farewell_following :
    frontend.farewell (state.following past) = (frontend.farewell state).following past := by
  change (if state.settings.interactive then _ else _) =
    State.following (if state.settings.interactive then _ else _) past
  split <;> rfl

theorem turn_following (asked : ∀ line, frontend.command? state = some line → ¬ line.ReadsUnasked) :
    frontend.turn (state.following past) = (frontend.turn state).map (·.following past) := by
  cases given : frontend.command? state with
  | some line =>
      have givenThere := (command?_following state past).trans given
      rw [frontend.turn_of_command? given, frontend.turn_of_command? givenThere, read_following]
      exact answer_following _ past (asked line given)
  | none =>
      unfold Frontend.command? at given
      unfold Frontend.turn
      rw [read_following]
      generalize frontend.read state = reading at given
      obtain ⟨read, result⟩ := reading
      cases result with
      | error fault => exact congrArg Turn.returned (farewell_following read past)
      | ok line =>
          dsimp only at given ⊢
          rw [given]
          rfl

theorem commands_following {state : State} {past : Past} {count : Nat}
    (asked : ∀ line ∈ frontend.commands count (state.following past), ¬ line.ReadsUnasked) :
    frontend.commands count (state.following past) = frontend.commands count state :=
  frontend.commands_embed (fun state => turn_following state past)
    (fun state => command?_following state past) asked

theorem converse_following {state : State} {count : Nat}
    (asked : ∀ line ∈ frontend.commands count state, ¬ line.ReadsUnasked) (past : Past) :
    frontend.converse count (state.following past) =
      ((frontend.converse count state).1.following past, (frontend.converse count state).2) :=
  frontend.converse_embed (fun state => turn_following state past) asked

theorem segments_following :
    (state.following past).console.terminal.segments =
      past.segments.reverse ++ state.console.terminal.segments := by
  simp only [State.following, Console.following, Terminal.segments, List.reverse_cons, List.reverse_append,
    List.append_assoc]

end

/-- The prompt after a program has been loaded into a new session. -/
def freshlyLoaded (settings : Settings) (files : FileStore) (program : Program) (script : List Keystroke) :
    State :=
  let start : State := {
    settings
    files
    machine := {}
    console := { terminal := { script } }
    program }
  start.say "\nFile loaded succesfully"

/-- A prompt of a session right after a `load` that has found a file and read its text. -/
inductive LoadedInSession (settings : Settings) (files : FileStore) (terminal : Terminal) (text : List Char)
    (loaded : State) : Prop where
  | intro {turns : Nat} {before : State} {argument : List Char} {bytes : List UInt8}
      (reached : frontend.promptAfter turns (opening settings files terminal) = some before)
      (command : frontend.command? before = some ⟨.load, argument⟩)
      (given : argument ≠ [])
      (found : files.lookup (bareFileName (Text.trim argument)) = .ok (some bytes))
      (decoded : fileText bytes = .ok text)
      (turned : frontend.turn before = .prompt loaded)

theorem current_of_read (state : State) : (frontend.read state).1.console.terminal.current = "" := by
  obtain ⟨settings, files, machine, ⟨feed, printed, script, finished, current⟩, program⟩ := state
  cases script with
  | nil => rfl
  | cons keystroke rest => cases keystroke <;> rfl

/-- Of the state before a load only the past is left. -/
theorem following_of_load {state loaded : State} {argument : List Char} {bytes : List UInt8}
    {text : List Char} (closed : state.console.terminal.current = "") (given : argument ≠ [])
    (found : state.files.lookup (bareFileName (Text.trim argument)) = .ok (some bytes))
    (decoded : fileText bytes = .ok text) (loads : load state argument = .prompt loaded) :
    ∃ program past, Program.read state.settings.link text = .ok program ∧
      loaded = (freshlyLoaded state.settings state.files program loaded.script).following past := by
  obtain ⟨settings, files, machine, ⟨feed, printed, script, finished, current⟩, program⟩ := state
  obtain rfl : current = "" := closed
  have nonempty : ¬ argument.isEmpty = true := by simpa using given
  simp only [load, if_neg nonempty, found, decoded] at loads
  split at loads
  · cases loads
  · next program read =>
      obtain rfl := Turn.prompt.inj loads
      refine ⟨program, ⟨feed, printed, finished⟩, read, ?_⟩
      simp only [State.following, Console.following, freshlyLoaded, State.say, Console.writeLine,
        Terminal.writeLine, Terminal.write, State.script, List.append_nil, Option.none_or, List.nil_append]

theorem LoadedInSession.following {settings : Settings} {files : FileStore} {terminal : Terminal}
    {text : List Char} {loaded : State} (loads : LoadedInSession settings files terminal text loaded) :
    ∃ program past, Program.read settings.link text = .ok program ∧
      loaded = (freshlyLoaded settings files program loaded.script).following past := by
  obtain @⟨turns, before, argument, bytes, reached, command, given, found, decoded, turned⟩ := loads
  obtain ⟨keepsSettings, keepsFiles, -⟩ := promptAfter_onward reached
  have sameSettings : (frontend.read before).1.settings = settings := keepsSettings
  have sameFiles : (frontend.read before).1.files = files := keepsFiles
  rw [← sameFiles] at found
  rw [frontend.turn_of_command? command] at turned
  have follows := following_of_load (current_of_read before) given found decoded turned
  rw [sameSettings, sameFiles] at follows
  exact follows

theorem LoadedInSession.session_eq {settings : Settings} {files : FileStore} {terminal : Terminal}
    {text : List Char} {loaded : State} (loads : LoadedInSession settings files terminal text loaded) :
    session settings files terminal = frontend.converse (loaded.script.length + 1) loaded := by
  obtain ⟨reached, command, given, found, decoded, turned⟩ := loads
  exact session_of_promptAfter (frontend.promptAfter_succ reached turned)

/-- Two sessions over the same files with the same settings, each at a prompt right after it has loaded the same
text, and with the same lines left to be read. Unless one of the commands that follow is an `exec` of an
instruction that reads, what is written from there on is the same, segment by segment; both end in the same
way, and with the same machine and program. -/
theorem load_erases_history (settings : Settings) (files : FileStore) (left right : Terminal)
    (text : List Char) (leftLoaded rightLoaded : State)
    (leftLoads : LoadedInSession settings files left text leftLoaded)
    (rightLoads : LoadedInSession settings files right text rightLoaded)
    (sameLines : leftLoaded.script = rightLoaded.script)
    (asked : ∀ line ∈ frontend.commands (leftLoaded.script.length + 1) leftLoaded, ¬ line.ReadsUnasked) :
    let leftEnd := session settings files left
    let rightEnd := session settings files right
    (∃ after, leftEnd.1.console.terminal.segments =
          leftLoaded.console.terminal.finished.reverse ++ after ∧
        rightEnd.1.console.terminal.segments =
          rightLoaded.console.terminal.finished.reverse ++ after) ∧
      leftEnd.2 = rightEnd.2 ∧ leftEnd.1.machine = rightEnd.1.machine ∧
      leftEnd.1.program = rightEnd.1.program := by
  obtain ⟨program, leftPast, read, leftFollows⟩ := leftLoads.following
  obtain ⟨other, rightPast, readOther, rightFollows⟩ := rightLoads.following
  obtain rfl := Except.ok.inj (read.symm.trans readOther)
  -- The two prompts are one fresh prompt with two pasts behind it.
  rw [leftLoads.session_eq, rightLoads.session_eq, ← sameLines]
  rw [← sameLines] at rightFollows
  generalize leftLoaded.script = lines at asked leftFollows rightFollows
  subst leftFollows rightFollows
  let fresh := freshlyLoaded settings files program lines
  have askedAfresh : ∀ line ∈ frontend.commands (lines.length + 1) fresh, ¬ line.ReadsUnasked := by
    rw [← commands_following asked]
    exact asked
  rw [converse_following askedAfresh leftPast, converse_following askedAfresh rightPast]
  exact ⟨⟨_, segments_following _ leftPast, segments_following _ rightPast⟩, rfl, rfl, rfl⟩

def echoSource : String :=
  "function \"$entrypoint$\"\nINPUT_STRING\nPRINT"

def echoFiles : FileStore :=
  FileStore.add (FileStore.add ⟨[]⟩ "echo" (String.toUTF8 echoSource).toList) "other"
    (String.toUTF8 "function \"$entrypoint$\"\nINPUT_NUMBER\nPRINT").toList

def echoTerminal (lines : List Keystroke) : Terminal where
  script := lines ++ [.line "stack", .line "run", .line "exec INPUT_STRING", .line "EXEC LOAD_CONST 7",
    .line "load other", .line "list"]

private theorem loaded_echo {lines : List Keystroke} {turns : Nat} {argument : List Char} {α : Type}
    {seen : α} (view : State → α)
    (shown : ((frontend.promptAfter turns (opening ⟨true, true, .adaptive, 10⟩ echoFiles
      (echoTerminal lines))).bind fun before => (frontend.promptAfter 1 before).map fun loaded =>
        (frontend.command? before, view loaded)) = some (some ⟨.load, argument⟩, seen))
    (given : argument ≠ [])
    (found : (echoFiles.lookup (bareFileName (Text.trim argument))).toOption =
      some (some (String.toUTF8 echoSource).toList)) :
    ∃ loaded, LoadedInSession ⟨true, true, .adaptive, 10⟩ echoFiles (echoTerminal lines) echoSource.toList
      loaded ∧ view loaded = seen := by
  have decoded : (fileText (String.toUTF8 echoSource).toList).toOption = some echoSource.toList := by
    decide +kernel
  obtain ⟨before, reached, rest⟩ := Option.bind_eq_some_iff.mp shown
  obtain ⟨loaded, turned, same⟩ := Option.map_eq_some_iff.mp rest
  obtain ⟨command, viewed⟩ := Prod.mk.inj same
  exact ⟨loaded, .intro reached command given (eq_ok_of_toOption found) (eq_ok_of_toOption decoded)
    (frontend.turn_of_promptAfter turned), viewed⟩

/-- One session has run another program, which has left a feed of two numbers and something printed. The line
that follows `run` is read by the program and is no command. -/
theorem load_erases_history_echo :
    let settings : Settings := ⟨true, true, .adaptive, 10⟩
    let leftLines : List Keystroke := [.line "load other", .line "run", .line "4 5",
      .line "exec LOAD_CONST 3", .line "load 'echo'"]
    let rightLines : List Keystroke := [.line "load echo"]
    let left := echoTerminal leftLines
    let right := echoTerminal rightLines
    let leftEnd := session settings echoFiles left
    let rightEnd := session settings echoFiles right
    ∃ leftLoaded rightLoaded : State, LoadedInSession settings echoFiles left echoSource.toList leftLoaded ∧
      LoadedInSession settings echoFiles right echoSource.toList rightLoaded ∧
      leftLoaded.console.printed.length = 1 ∧ rightLoaded.console.printed.length = 0 ∧
      (∃ after, leftEnd.1.console.terminal.segments =
          leftLoaded.console.terminal.finished.reverse ++ after ∧
        rightEnd.1.console.terminal.segments =
          rightLoaded.console.terminal.finished.reverse ++ after) ∧
      leftEnd.2 = rightEnd.2 ∧ leftEnd.1.machine = rightEnd.1.machine ∧
      leftEnd.1.program = rightEnd.1.program := by
  intro settings leftLines rightLines left right leftEnd rightEnd
  let commands : List CommandLine := [⟨.stack, []⟩, ⟨.run, []⟩, ⟨.exec, "LOAD_CONST 7".toList⟩,
    ⟨.load, "other".toList⟩, ⟨.list, []⟩]
  obtain ⟨leftLoaded, leftLoads, leftSeen⟩ := @loaded_echo leftLines 3 "'echo'".toList _
    (1, (echoTerminal []).script, commands)
    (fun loaded => (loaded.console.printed.length, loaded.script, frontend.commands 7 loaded))
    (by decide +kernel) (by decide) (by decide +kernel)
  obtain ⟨rightLoaded, rightLoads, rightSeen⟩ := @loaded_echo rightLines 0 "echo".toList _
    (0, (echoTerminal []).script) (fun loaded => (loaded.console.printed.length, loaded.script))
    (by decide +kernel) (by decide) (by decide +kernel)
  obtain ⟨leftPrinted, leftSeen⟩ := Prod.mk.inj leftSeen
  obtain ⟨leftScript, leftCommands⟩ := Prod.mk.inj leftSeen
  obtain ⟨rightPrinted, rightScript⟩ := Prod.mk.inj rightSeen
  have asked : ∀ line ∈ frontend.commands (leftLoaded.script.length + 1) leftLoaded,
      ¬ line.ReadsUnasked := by
    have counted : leftLoaded.script.length + 1 = 7 := congrArg (·.length + 1) leftScript
    rw [counted, leftCommands]
    decide
  exact ⟨leftLoaded, rightLoaded, leftLoads, rightLoads, leftPrinted, rightPrinted,
    load_erases_history settings echoFiles left right echoSource.toList leftLoaded rightLoaded leftLoads
      rightLoads (leftScript.trans rightScript.symm) asked⟩

end Functions

end Debugger

end StackMachine

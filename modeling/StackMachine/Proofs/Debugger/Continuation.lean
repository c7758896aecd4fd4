import StackMachine.Proofs.Debugger.Turning

/-!
How a session goes on. Settings and files stay what they are, every turn reads at least one line, and no line
is put back. So a session never runs out of turns, and from any prompt on it is the session of the lines
that are left (`session_of_promptAfter`). What lasts from one prompt to the next is shown once, for everything that
commands are made of (`turn_lasts`).
-/

set_option autoImplicit false

namespace StackMachine

theorem Terminal.script_of_read (terminal : Terminal) (prompt : String) :
    (terminal.read prompt).1.script <:+ terminal.script := by
  unfold Terminal.read
  cases terminal.script with
  | nil => exact List.suffix_refl []
  | cons keystroke rest => cases keystroke <;> exact List.suffix_cons _ rest

theorem Console.script_of_input (console : Console) :
    console.input.1.terminal.script <:+ console.terminal.script := by
  unfold Console.input
  cases console.feed with
  | none => exact console.terminal.script_of_read prompt
  | some feed =>
      dsimp only
      cases feed.take 1 <;> exact List.suffix_refl _

/-- Whether or not a feed answers, an instruction puts no line back. -/
theorem Machine.script_of_execute (labels : Labels) (machine : Machine) (console : Console)
    (instruction : Instruction) :
    (machine.execute labels console instruction).console.terminal.script <:+ console.terminal.script := by
  have read := console.script_of_input
  cases reads : instruction.reads with
  | false =>
      have fed : instruction.reads = true → ∃ feed, console.feed = some feed := by simp [reads]
      exact machine.execute_script labels fed ▸ List.suffix_refl _
  | true =>
    obtain ⟨mnemonic, args⟩ := instruction
    have reading : mnemonic = .known .inputNumber ∨ mnemonic = .known .inputString := by
      simpa [Instruction.reads, Instruction.is] using reads
    unfold Machine.execute
    cases args with
    | cons _ _ => rcases reading with rfl | rfl <;> exact List.suffix_refl _
    | nil =>
        rcases reading with rfl | rfl
        · simp only [Machine.perform, Machine.readNumber]
          generalize console.input = result at read
          obtain ⟨after, answer⟩ := result
          cases answer with
          | error fault => exact read
          | ok value =>
              dsimp only
              cases value.number? <;> exact read
        · simp only [Machine.perform, Machine.readText]
          generalize console.input = result at read
          obtain ⟨after, answer⟩ := result
          cases answer with
          | error fault => exact read
          | ok value => cases value <;> exact read

namespace Debugger

section

variable {σ : Type} (frontend : Frontend σ)

theorem Frontend.converse_of_promptAfter {turns : Nat} {state next : σ}
    (reached : frontend.promptAfter turns state = some next) (more : Nat) :
    frontend.converse (turns + more) state = frontend.converse more next := by
  induction turns generalizing state with
  | zero =>
      obtain rfl := Option.some.inj reached
      rw [Nat.zero_add]
  | succ turns ih =>
      rw [Nat.succ_add, Frontend.converse]
      rw [Frontend.promptAfter] at reached
      cases turned : frontend.turn state with
      | prompt middle => exact ih (by simpa only [turned] using reached)
      | returned | failed | exhausted => simp [turned] at reached

theorem Frontend.converse_ends {Invariant : σ → Prop} {waiting : σ → Nat}
    (kept : ∀ state next, Invariant state → frontend.turn state = .prompt next →
      Invariant next ∧ waiting next < waiting state)
    (ends : ∀ state last, Invariant state → frontend.turn state ≠ .exhausted last) {turns : Nat} {state : σ}
    (holds : Invariant state) (enough : waiting state < turns) :
    (frontend.converse turns state).2 = .returned ∨
      ∃ fault, (frontend.converse turns state).2 = .failed fault := by
  induction turns generalizing state with
  | zero => omega
  | succ turns ih =>
      rw [Frontend.converse]
      cases turned : frontend.turn state with
      | prompt next =>
          obtain ⟨still, fewer⟩ := kept state next holds turned
          exact ih still (by omega)
      | returned last => exact .inl rfl
      | failed last fault => exact .inr ⟨fault, rfl⟩
      | exhausted last => exact absurd turned (ends state last holds)

variable {waiting : σ → Nat}
  (shrinks : ∀ state next, frontend.turn state = .prompt next → waiting next < waiting state)
include shrinks

theorem Frontend.waiting_of_promptAfter {turns : Nat} {state next : σ}
    (reached : frontend.promptAfter turns state = some next) : turns + waiting next ≤ waiting state := by
  induction turns generalizing state with
  | zero =>
      obtain rfl := Option.some.inj reached
      omega
  | succ turns ih =>
      rw [Frontend.promptAfter] at reached
      cases turned : frontend.turn state with
      | returned | failed | exhausted => simp [turned] at reached
      | prompt middle =>
          have later := ih (by simpa only [turned] using reached)
          have first := shrinks state middle turned
          omega

/-- Once there are more turns than lines, it does not matter how many. -/
theorem Frontend.converse_eq_of_enough {turns more : Nat} {state : σ} (enough : waiting state < turns)
    (enoughMore : waiting state < more) : frontend.converse turns state = frontend.converse more state := by
  induction turns generalizing more state with
  | zero => omega
  | succ turns ih =>
      cases more with
      | zero => omega
      | succ more =>
          rw [Frontend.converse, Frontend.converse]
          cases turned : frontend.turn state with
          | returned | failed | exhausted => rfl
          | prompt next =>
              have fewer := shrinks state next turned
              exact ih (by omega) (by omega)

end

/-- Whether a command does nothing but write. -/
def Command.writes : Command → Bool
  | .load | .run | .step | .next | .exec => false
  | _ => true

namespace Functions

def Progress.state : Progress → State
  | .moved state _ | .ended state | .stopped state _ => state

/-- A later state of the same session. Lines may have been read. -/
def State.Onward (state later : State) : Prop :=
  later.settings = state.settings ∧ later.files = state.files ∧ later.script <:+ state.script

/-- A relation that holds from a state to every state that a command leads to. Whatever a command does is made up of
these. -/
structure Lasts (related : State → State → Prop) : Prop where
  refl : ∀ state, related state state
  trans : ∀ {state middle later}, related state middle → related middle later → related state later
  said : ∀ state line, related state (state.say line)
  read : ∀ state prompt, related state (state.readLine prompt).1
  fed : ∀ state {instruction line buffer}, Instruction.buffer instruction line = .ok buffer →
    related state (state.feedFrom buffer)
  executed : ∀ state function instruction, related state (state.after (state.execute function instruction))
  moved : ∀ state, related state state.moveOn
  loaded : ∀ state program machine, related state { state with program, machine }

/-- A command that writes the same on every console and does nothing else. -/
inductive Recites (state : State) (command : State → Turn State) : Prop where
  | reported (printout : Printout)
      (same : ∀ console, command (state.onConsole console) = (state.onConsole console).report printout)
  | returned (line : String)
      (same : ∀ console, command (state.onConsole console) = .returned ((state.onConsole console).say line))

theorem State.Onward.refl (state : State) : state.Onward state :=
  ⟨rfl, rfl, List.suffix_refl _⟩

theorem State.Onward.trans {state middle later : State} (first : state.Onward middle)
    (second : middle.Onward later) : state.Onward later := by
  obtain ⟨settings, files, script⟩ := first
  obtain ⟨laterSettings, laterFiles, laterScript⟩ := second
  exact ⟨laterSettings.trans settings, laterFiles.trans files, laterScript.trans script⟩

theorem onward_lasts : Lasts State.Onward where
  refl := .refl
  trans := .trans
  said state _ := .refl state
  read state prompt := ⟨rfl, rfl, state.console.terminal.script_of_read prompt⟩
  fed state _ _ _ _ := .refl state
  executed state function instruction :=
    ⟨rfl, rfl, Machine.script_of_execute function.labels state.machine state.console instruction⟩
  moved state := .refl state
  loaded state _ _ := .refl state

section

variable (state : State)

theorem list_recites : Recites state list := by
  by_cases unloaded : state.program.isEmpty = true
  · exact .returned "\nNo program loaded. Use: load <path>" fun _ => if_pos unloaded
  · cases active : state.active with
    | error fault =>
        refine .reported ⟨[], some fault⟩ fun console => ?_
        have activeThere : (state.onConsole console).active = .error fault := active
        exact (if_neg unloaded).trans (by simp only [activeThere]; rfl)
    | ok function =>
        refine .reported (.of ("" :: nearby function.instructions state.machine.ip)) fun console => ?_
        have activeThere : (state.onConsole console).active = .ok function := active
        exact (if_neg unloaded).trans (by simp only [activeThere]; rfl)

theorem frame_recites : Recites state frame := by
  unfold frame
  cases length : lengthOf? state.machine.current with
  | none =>
      refine .reported ⟨[], some (.noLength state.machine.current.kind)⟩ fun console => ?_
      simp only [State.onConsole, length]
      rfl
  | some count =>
      cases count with
      | zero =>
          refine .reported (.of ["\nThere are no active frames"]) fun console => ?_
          simp only [State.onConsole, length]
          rfl
      | succ count =>
          cases empty : state.machine.bindings.isEmpty with
          | true =>
              apply Recites.reported
              intro console
              simp only [State.onConsole, length, empty, if_true]
              exact rfl
          | false =>
              apply Recites.reported
              intro console
              simp only [State.onConsole, length, empty, Bool.false_eq_true, if_false]
              exact rfl

theorem memory_recites : Recites state memory := by
  unfold memory
  cases empty : state.machine.bindings.isEmpty with
  | true =>
      apply Recites.reported
      intro console
      simp only [State.onConsole, empty, if_true]
      exact rfl
  | false =>
      apply Recites.reported
      intro console
      simp only [State.onConsole, empty, Bool.false_eq_true, if_false]
      exact rfl

theorem answer_recites {line : CommandLine} (writes : line.command.writes = true) :
    Recites state (answer · line) := by
  obtain ⟨command, argument⟩ := line
  cases command with
  | load | run | step | next | exec => cases writes
  | quit => exact .returned "\nDebug was stopped" fun _ => rfl
  | info => exact .reported (.of ("\nCommands:" :: overview)) fun _ => rfl
  | list => exact list_recites state
  | print => exact .reported (variableView state.machine.bindings argument "\n" "") fun _ => rfl
  | stack =>
      let shown := viewStack ⟨"\n", state.machine.stack.length⟩ state.machine.stack argument
      exact .reported shown fun _ => rfl
  | memory => exact memory_recites state
  | frame => exact frame_recites state
  | unknown word => exact .reported (.of ["\nUnknown command: " ++ word ++ ". Type 'info'."]) fun _ => rfl

end

section

variable {related : State → State → Prop} (lasts : Lasts related) (state : State)
include lasts

theorem report_lasts (printout : Printout) : related state (state.report printout).state :=
  report_keeps State.say (related state) (fun later line before => lasts.trans before (lasts.said later line))
    (lasts.refl state) printout

theorem lasts_of_recites {state : State} {command : State → Turn State} (recites : Recites state command) :
    related state (command state).state := by
  cases recites with
  | reported printout same =>
      have reported : command state = state.report printout := same state.console
      rw [reported]
      exact report_lasts lasts state printout
  | returned line same =>
      have returned : command state = .returned (state.say line) := same state.console
      rw [returned]
      exact lasts.said state line

theorem ask_lasts (lead : String) (echo : Bool) (instruction : Instruction) :
    related state (ask state lead echo instruction).1 := by
  cases reads : instruction.reads with
  | false =>
      rw [ask_of_silent reads]
      exact lasts.refl state
  | true =>
      have read := lasts.trans (lasts.said state (lead ++ instruction.question)) (lasts.read _ "")
      rw [ask_of_reads reads]
      generalize (state.say (lead ++ instruction.question)).readLine "" = reading at read
      obtain ⟨asked, answer⟩ := reading
      cases answer with
      | error fault => exact read
      | ok line =>
          simp only [takeAnswer]
          cases buffered : instruction.buffer line with
          | error fault => exact read
          | ok buffer =>
              have fed := lasts.trans read (lasts.fed asked buffered)
              dsimp only
              split
              · exact lasts.trans fed (lasts.said _ _)
              · exact fed

theorem advance_lasts (lead : String) (echo : Bool) : related state (advance lead echo state).state := by
  unfold advance
  cases state.active with
  | error fault => exact lasts.refl state
  | ok function =>
      dsimp only
      split
      · cases itemAt function.instructions state.machine.ip with
        | error fault => exact lasts.refl state
        | ok instruction =>
            have asks := ask_lasts lasts state lead echo instruction
            dsimp only
            generalize ask state lead echo instruction = result at asks
            obtain ⟨asked, trouble⟩ := result
            cases trouble with
            | some fault => exact asks
            | none =>
                have executed := lasts.trans asks (lasts.executed asked function instruction)
                dsimp only
                split
                · exact executed
                · exact lasts.trans executed (lasts.moved _)
      · exact lasts.refl state

theorem settle_lasts (fault : Fault) : related state (settle state fault).state := by
  unfold settle
  split
  · exact lasts.trans (lasts.said state _) (lasts.moved _)
  · exact lasts.said state _
  · exact lasts.refl state

theorem travel_lasts {τ : Type} (lead : String) (echo : Bool) (tally : τ → Instruction → Option τ)
    (fuel : Nat) (counts : τ) : related state (travel lead echo tally fuel counts state).turn.state := by
  induction fuel generalizing counts state with
  | zero => exact lasts.refl state
  | succ fuel ih =>
      have advances := advance_lasts lasts state lead echo
      rw [travel]
      generalize advance lead echo state = progress at advances
      cases progress with
      | ended last => exact advances
      | stopped last fault => exact lasts.trans advances (settle_lasts lasts last fault)
      | moved next instruction =>
          dsimp only
          cases tally counts instruction with
          | none => exact advances
          | some counts => exact lasts.trans advances (ih next counts)

theorem stepInto_lasts (function : Function) (instruction : Instruction) :
    related state (stepInto state function instruction).state := by
  unfold stepInto
  dsimp only
  split
  · exact lasts.trans (lasts.said state _) (lasts.moved _)
  · have asks := lasts.trans (lasts.said state (announcement state.machine.ip instruction))
      (ask_lasts lasts _ "\n" false instruction)
    generalize ask (state.say (announcement state.machine.ip instruction)) "\n" false instruction = result
      at asks
    obtain ⟨asked, trouble⟩ := result
    cases trouble with
    | some fault => exact asks
    | none =>
        have executed := lasts.trans asks (lasts.executed asked function instruction)
        dsimp only
        split
        · exact lasts.trans executed (lasts.moved _)
        · split
          · exact lasts.trans executed (lasts.said _ _)
          · exact executed

theorem step_lasts (whole : Bool) : related state (step state whole).state := by
  unfold step
  split
  · exact lasts.said state _
  · cases state.active with
    | error fault => exact lasts.refl state
    | ok function =>
        dsimp only
        split
        · exact lasts.said state _
        · cases itemAt function.instructions state.machine.ip with
          | error fault => exact lasts.refl state
          | ok instruction =>
              have separated := lasts.said state ""
              dsimp only
              split
              · exact separated
              · split
                · have announced := lasts.trans separated (lasts.said (state.say "")
                    ("\n" ++ announcement state.machine.ip instruction ++ "  # CALL (step over)"))
                  have executed := lasts.trans announced (lasts.executed _ function instruction)
                  split
                  · exact executed
                  · rw [stepOver_eq_travel]
                    have entered := lasts.trans executed (lasts.moved _)
                    exact lasts.trans entered (travel_lasts lasts _ "\n" true callTally _ _)
                · exact lasts.trans separated (stepInto_lasts lasts _ function instruction)

theorem load_lasts (argument : List Char) : related state (load state argument).state := by
  unfold load
  split
  · exact lasts.said state _
  · split
    · exact lasts.refl state
    · exact lasts.said state _
    · split
      · exact lasts.said state _
      · have announced := lasts.said state "\nFile loaded succesfully"
        dsimp only
        split
        · exact announced
        · exact lasts.trans announced (lasts.loaded _ _ _)

theorem settleExec_lasts (word : List Char) (fault : Fault) :
    related state (settleExec word state fault).state := by
  unfold settleExec
  split
  · exact lasts.said state _
  · exact lasts.refl state
  · exact lasts.said state _

theorem attempt_lasts (instruction : Instruction) : related state (state.attempt instruction).1 := by
  have said : related state (state.executing instruction) := lasts.said state _
  unfold State.attempt
  split
  · exact said
  · exact lasts.trans said (lasts.executed _ _ instruction)

theorem exec_lasts (argument : List Char) : related state (exec state argument).state := by
  cases spelled : spelled? argument with
  | none =>
      obtain ⟨line, said⟩ := exec_of_unspelled? state spelled
      rw [said]
      exact lasts.said state line
  | some instruction =>
      obtain ⟨word, tries⟩ := exec_of_spelled? state spelled
      have attempted := attempt_lasts lasts state instruction
      rw [tries]
      unfold settleAttempt
      split
      · exact attempted
      · exact lasts.trans attempted (settleExec_lasts lasts _ _ _)

theorem answer_lasts (line : CommandLine) : related state (answer state line).state := by
  cases writes : line.command.writes with
  | true => exact lasts_of_recites lasts (answer_recites state writes)
  | false =>
      obtain ⟨command, argument⟩ := line
      cases command with
      | load => exact load_lasts lasts state argument
      | run =>
          rw [answer_run]
          exact travel_lasts lasts state "" false _ _ ()
      | step => exact step_lasts lasts state false
      | next => exact step_lasts lasts state true
      | exec => exact exec_lasts lasts state argument
      | _ => cases writes

theorem turn_lasts {state next : State} (turned : frontend.turn state = .prompt next) : related state next := by
  have read : related state (frontend.read state).1 := lasts.read state _
  rcases frontend.answer_of_turn turned with rfl | ⟨line, -, answered⟩
  · exact read
  · have answers := answer_lasts lasts (frontend.read state).1 line
    rw [← show frontend.answer = answer from rfl, answered] at answers
    exact lasts.trans read answers

end

theorem read_cases (state : State) :
    (∃ after line, frontend.read state = (state.onTerminal after, .ok line) ∧
      state.script = .line line :: after.script) ∨
    ∃ after fault, frontend.read state = (state.onTerminal after, .error fault) := by
  rcases state.console.terminal.read_cases (if state.settings.interactive then "xvm > " else "") with
    ⟨after, line, read, waiting⟩ | ⟨after, fault, read, -, -⟩
  · refine .inl ⟨after, line, ?_, waiting⟩
    simp only [frontend, Console.readLine, read, State.onTerminal]
  · refine .inr ⟨after, fault, ?_⟩
    simp only [frontend, Console.readLine, read, State.onTerminal]

/-- Every turn that comes back to the prompt takes at least one line. -/
theorem turn_onward {state next : State} (turned : frontend.turn state = .prompt next) :
    state.Onward next ∧ next.script.length < state.script.length := by
  rcases read_cases state with ⟨after, line, reads, waiting⟩ | ⟨after, fault, reads⟩
  · have onward : state.Onward (state.onTerminal after) := by
      refine ⟨rfl, rfl, ?_⟩
      rw [waiting]
      exact List.suffix_cons _ _
    have shorter : after.script.length < state.script.length := by
      rw [waiting]
      exact Nat.lt_succ_self _
    rw [Frontend.turn, reads] at turned
    dsimp only at turned
    split at turned
    · obtain rfl := Turn.prompt.inj turned
      exact ⟨onward, shorter⟩
    · next command _ =>
        have answered := answer_lasts onward_lasts (state.onTerminal after) command
        have same : answer (state.onTerminal after) command = .prompt next := turned
        rw [same] at answered
        exact ⟨onward.trans answered, Nat.lt_of_le_of_lt answered.2.2.length_le shorter⟩
  · rw [Frontend.turn, reads] at turned
    cases turned

theorem promptAfter_onward {turns : Nat} {state next : State}
    (reached : frontend.promptAfter turns state = some next) : state.Onward next := by
  have kept : ∀ middle last, state.Onward middle → frontend.turn middle = .prompt last →
      state.Onward last := fun _ _ before turned => before.trans (turn_onward turned).1
  exact frontend.invariant_at_every_prompt kept (.refl state) reached

/-- From any of its prompts on, a session is the conversation over the lines that are left. -/
theorem session_of_promptAfter {settings : Settings} {files : FileStore} {terminal : Terminal} {turns : Nat}
    {state : State} (reached : frontend.promptAfter turns (opening settings files terminal) = some state) :
    session settings files terminal = frontend.converse (state.script.length + 1) state := by
  have shrinks : ∀ state next, frontend.turn state = .prompt next →
      next.script.length < state.script.length := fun _ _ turned => (turn_onward turned).2
  have left : turns + state.script.length ≤ terminal.script.length :=
    frontend.waiting_of_promptAfter shrinks reached
  obtain ⟨more, enough⟩ : ∃ more, terminal.script.length + 1 = turns + more :=
    ⟨terminal.script.length + 1 - turns, by omega⟩
  rw [session, enough, frontend.converse_of_promptAfter reached]
  exact frontend.converse_eq_of_enough shrinks (by omega) (Nat.lt_succ_self _)

theorem session_of_failed {settings : Settings} {files : FileStore} {terminal : Terminal} {turns : Nat}
    {state failed : State} {fault : Fault}
    (reached : frontend.promptAfter turns (opening settings files terminal) = some state)
    (turned : frontend.turn state = .failed failed fault) :
    session settings files terminal = (failed, .failed fault) := by
  rw [session_of_promptAfter reached, Frontend.converse, turned]

end Functions

end Debugger

end StackMachine

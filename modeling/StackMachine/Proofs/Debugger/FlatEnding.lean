import StackMachine.Proofs.Debugger.FlatLoops

/-!
Every session of the debugger for a single list ends. Its loops end, and so does every other command, and every
turn takes a line off the script (`session_ends_and_loops_ascend`).
-/

set_option autoImplicit false

namespace StackMachine.Debugger.Flat

def State.script (state : State) : List Keystroke :=
  state.console.terminal.script

/-- Whether a turn ends, puts no line back, and leaves the debugger's place at an index. -/
structure Onward (state : State) (turn : Turn State) : Prop where
  ends : ∀ last, turn ≠ .exhausted last
  script : turn.state.script <:+ state.script
  place : 0 ≤ turn.state.ip

section

variable {state later : State} {turn : Turn State}

theorem Onward.trans (onward : Onward later turn) (script : later.script <:+ state.script) : Onward state turn :=
  ⟨onward.ends, onward.script.trans script, onward.place⟩

theorem settle_onward (script : later.script <:+ state.script) (place : 0 ≤ later.ip) (fault : Fault) :
    Onward state (settle later fault) := by
  unfold settle
  split <;> exact ⟨nofun, script, place⟩

theorem settleCall_onward (script : later.script <:+ state.script) (place : 0 ≤ later.ip) (fault : Fault) :
    Onward state (settleCall later fault) := by
  unfold settleCall
  split <;> exact ⟨nofun, script, place⟩

theorem carryOut_script (state : State) (instruction : Instruction) :
    (state.after (state.carryOut instruction)).script <:+ state.script :=
  state.machine.script_of_execute state.labels state.console instruction

theorem called_script (state : State) (instruction : Instruction) :
    (state.called instruction).script <:+ state.script :=
  carryOut_script (state.announceOver instruction) instruction

theorem stepped_script (state : State) : state.stepped.script <:+ state.script :=
  (step_onward state.labels state.code state.ip state.machine state.console).1

theorem RunLoop.onward {indices : List Int} (loop : RunLoop state indices turn) (natural : 0 ≤ state.ip) :
    Onward state turn := by
  induction loop with
  | ended => exact settle_onward (List.suffix_refl _) natural _
  | failed => exact settle_onward (carryOut_script _ _) natural _
  | moved _ _ _ ih => exact (ih (Int.add_nonneg natural (by decide))).trans (carryOut_script _ _)

theorem stepped_place (natural : 0 ≤ state.ip) : 0 ≤ state.stepped.ip := by
  have places : state.stepped.ip = state.ip ∨ state.stepped.ip = state.ip + 1 :=
    (step_onward state.labels state.code state.ip state.machine state.console).2
  omega

theorem OverLoop.onward {depth : Nat} {indices : List Int} (loop : OverLoop depth state indices turn)
    (natural : 0 ≤ state.ip) : Onward state turn := by
  induction loop with
  | back | ended | stopped | unwritten => exact ⟨nofun, List.suffix_refl _, natural⟩
  | failed => exact ⟨nofun, stepped_script _, stepped_place natural⟩
  | stuck => exact ⟨nofun, stepped_script _, stepped_place natural⟩
  | moved _ _ _ _ _ ih => exact (ih (stepped_place natural)).trans (stepped_script _)

theorem stepOnce_onward (natural : 0 ≤ state.ip) : Onward state (stepOnce state) := by
  change Onward state (state.afterStep state.tryStep .prompt)
  cases sound : state.tryStep.fault with
  | none =>
      rw [afterStep_of_sound sound]
      exact ⟨nofun, stepped_script state, stepped_place natural⟩
  | some fault =>
      rw [afterStep_of_fault sound]
      exact ⟨nofun, stepped_script state, stepped_place natural⟩

theorem NextLoop.onward {first indices : List Int} (loop : NextLoop state first indices turn)
    (natural : 0 ≤ state.ip) : Onward state turn := by
  cases loop with
  | unloaded | ended | unwritten => exact ⟨nofun, List.suffix_refl _, natural⟩
  | passed | stepped => exact stepOnce_onward natural
  | @refused instruction => exact settleCall_onward (called_script state instruction) natural _
  | @entered instruction _ _ _ _ _ loop => exact (loop.onward (Int.le_refl 0)).trans (called_script state instruction)

theorem report_onward (natural : 0 ≤ state.ip) (printout : Printout) : Onward state (state.report printout) := by
  obtain ⟨script, place⟩ := report_keeps State.say
    (fun later : State => later.script <:+ state.script ∧ 0 ≤ later.ip) (fun _ _ same => same)
    ⟨List.suffix_refl _, natural⟩ printout
  refine ⟨?_, script, place⟩
  unfold State.report report
  dsimp only
  split <;> nofun

theorem load_onward (natural : 0 ≤ state.ip) (argument : List Char) : Onward state (load state argument) := by
  have unread := List.suffix_refl state.script
  unfold load
  split
  · exact ⟨nofun, unread, natural⟩
  · dsimp only
    split
    · exact ⟨nofun, unread, natural⟩
    · exact ⟨nofun, unread, natural⟩
    · split
      · exact ⟨nofun, unread, natural⟩
      · split
        · exact ⟨nofun, unread, natural⟩
        · exact ⟨nofun, unread, Int.le_refl 0⟩

theorem exec_onward (natural : 0 ≤ state.ip) (argument : List Char) : Onward state (exec state argument) := by
  have unread := List.suffix_refl state.script
  unfold exec
  split
  · exact ⟨nofun, unread, natural⟩
  · split <;> exact ⟨nofun, unread, natural⟩

theorem answer_onward (natural : 0 ≤ state.ip) (line : CommandLine) : Onward state (answer state line) := by
  have unread := List.suffix_refl state.script
  obtain ⟨command, argument⟩ := line
  cases command with
  | quit => exact ⟨nofun, unread, natural⟩
  | load => exact load_onward natural argument
  | run =>
      obtain ⟨indices, loop⟩ := run_loop natural
      exact loop.onward natural
  | step => exact stepOnce_onward natural
  | next =>
      obtain ⟨first, later, loop⟩ := next_loop natural
      exact loop.onward natural
  | list =>
      unfold answer
      dsimp only
      split
      · exact ⟨nofun, unread, natural⟩
      · exact report_onward natural _
  | print => exact report_onward natural _
  | memory =>
      unfold answer
      dsimp only
      split
      · exact ⟨nofun, unread, natural⟩
      · exact report_onward natural _
  | exec => exact exec_onward natural argument
  | frame =>
      change Onward state (frame state)
      unfold frame
      split
      · exact report_onward natural _
      · exact ⟨nofun, unread, natural⟩
  | info => exact report_onward natural (.of ("Commands:" :: overview))
  | stack =>
      let shown := state.machine.showStack (some (.text (String.ofList argument)))
      exact report_onward natural (shown.append (.of ["None"]))
  | unknown word => exact ⟨nofun, unread, natural⟩

theorem script_of_read {line : String} (given : (frontend.read state).2 = .ok line) :
    state.script = .line line :: (frontend.read state).1.script := by
  rcases state.console.terminal.read_cases "xvm > " with
    ⟨after, other, read, waiting⟩ | ⟨after, fault, read, -, -⟩
  · simp only [frontend, Console.readLine, read, Except.ok.injEq] at given ⊢
    rw [← given]
    exact waiting
  · simp [frontend, Console.readLine, read] at given

/-- Every turn ends, and one that comes back to the prompt has taken a line. -/
theorem turn_onward (natural : 0 ≤ state.ip) :
    Onward state (frontend.turn state) ∧
      ∀ next, frontend.turn state = .prompt next → next.script.length < state.script.length := by
  have place : 0 ≤ (frontend.read state).1.ip := natural
  have unread : (frontend.read state).1.script <:+ state.script := state.console.terminal.script_of_read _
  have taken : ∀ line, (frontend.read state).2 = .ok line →
      state.script = .line line :: (frontend.read state).1.script := fun _ => script_of_read
  unfold Frontend.turn
  generalize frontend.read state = reading at place unread taken
  obtain ⟨asked, result⟩ := reading
  cases result with
  | error fault => exact ⟨⟨nofun, unread, place⟩, nofun⟩
  | ok line =>
      rw [taken line rfl, List.length_cons]
      dsimp only
      cases CommandLine.parse? line.toList with
      | none =>
          refine ⟨⟨nofun, unread, place⟩, ?_⟩
          intro next same
          obtain rfl := Turn.prompt.inj same
          exact Nat.lt_succ_self _
      | some command =>
          have answered : Onward asked (answer asked command) := answer_onward place command
          refine ⟨answered.trans unread, ?_⟩
          intro next same
          have unreadThen := answered.script
          rw [show answer asked command = .prompt next from same] at unreadThen
          exact Nat.lt_succ_of_le unreadThen.length_le

end

/-- Every session ends, by itself or with a fault. In between, each `run` carries out instructions at ascending
indices from the debugger's place on, and each `next` at most the one there and, if that is a call, instructions
at ascending indices from the first on. So neither loop has more rounds than there are instructions. -/
theorem session_ends_and_loops_ascend (files : FileStore) (terminal : Terminal) :
    ((session files terminal).2 = .returned ∨ ∃ fault, (session files terminal).2 = .failed fault) ∧
    ∀ turns state line, frontend.promptAfter turns (opening files terminal) = some state →
      frontend.command? state = some line →
      let asked := (frontend.read state).1
      (line.command = .run → ∃ indices, RunLoop asked indices (frontend.turn state) ∧
        Ascends asked.ip asked.code.length indices ∧ indices.length ≤ asked.code.length) ∧
      (line.command = .next → ∃ first later, NextLoop asked first later (frontend.turn state) ∧
        Ascends asked.ip asked.code.length first ∧ first.length ≤ 1 ∧
        Ascends 0 asked.code.length later ∧ later.length ≤ asked.code.length) := by
  have kept : ∀ before after : State, 0 ≤ before.ip → frontend.turn before = .prompt after →
      0 ≤ after.ip ∧ after.script.length < before.script.length := by
    intro before after natural turned
    obtain ⟨onward, shorter⟩ := turn_onward natural
    have place := onward.place
    rw [turned] at place
    exact ⟨place, shorter after turned⟩
  have opened : 0 ≤ (opening files terminal).ip := Int.le_refl 0
  constructor
  · have ends : ∀ (before last : State), 0 ≤ before.ip → frontend.turn before ≠ .exhausted last :=
      fun before last natural => (turn_onward natural).1.ends last
    exact frontend.converse_ends kept ends opened (Nat.lt_succ_self terminal.script.length)
  · intro turns state line reached given asked
    have keptPlace : ∀ before after : State, 0 ≤ before.ip → frontend.turn before = .prompt after →
        0 ≤ after.ip := fun before after natural turned => (kept before after natural turned).1
    have natural : 0 ≤ state.ip := frontend.invariant_at_every_prompt keptPlace opened reached
    change 0 ≤ asked.ip at natural
    rw [frontend.turn_of_command? given]
    obtain ⟨command, argument⟩ := line
    constructor
    · rintro rfl
      obtain ⟨indices, loop⟩ := run_loop natural
      have ascends := loop.ascends natural
      exact ⟨indices, loop, ascends, ascends.length_le natural⟩
    · rintro rfl
      obtain ⟨first, later, loop⟩ := next_loop natural
      obtain ⟨single, here, ascends⟩ := loop.ascends natural
      exact ⟨first, later, loop, here, single, ascends, ascends.length_le (Int.le_refl 0)⟩

/-- Instructions that call themselves and then jump in a circle. -/
def circlingFile : FileStore :=
  FileStore.add ⟨[]⟩ "circle" (String.toUTF8 "LOAD_CONST f\nCALL\nLABEL top\nJMP top").toList

/-- A second load is needed for the labels, which are those of what was loaded before. -/
def circlingTerminal : Terminal :=
  { script := [.line "load circle", .line "load circle", .line "run", .line "load circle", .line "step",
      .line "next"] }

/-- How a prompt of a session shows what its command is and from where to where that command takes the place. -/
theorem exists_of_shown {start : State} {turns length : Nat} {place final : Int} {command : Command}
    (shown : ((frontend.promptAfter turns start).map fun state =>
      ((state.ip, (frontend.turn state).state.ip), state.code.length,
        (frontend.command? state).map CommandLine.command)) = some ((place, final), length, some command)) :
    ∃ state line, frontend.promptAfter turns start = some state ∧ frontend.command? state = some line ∧
      line.command = command ∧ state.ip = place ∧ (frontend.turn state).state.ip = final ∧
      state.code.length = length := by
  obtain ⟨state, reached, same⟩ := Option.map_eq_some_iff.mp shown
  obtain ⟨places, same⟩ := Prod.mk.inj same
  obtain ⟨sameLength, same⟩ := Prod.mk.inj same
  obtain ⟨samePlace, sameFinal⟩ := Prod.mk.inj places
  obtain ⟨line, given, sameCommand⟩ := Option.map_eq_some_iff.mp same
  exact ⟨state, line, reached, given, sameCommand, samePlace, sameFinal, sameLength⟩

/-- The run through the circle carries out the four instructions once each, and so does the step over the call, from
its place at index 1, after the call itself. -/
theorem session_ends_and_loops_ascend_circling :
    ((session circlingFile circlingTerminal).2 = .returned ∨
      ∃ fault, (session circlingFile circlingTerminal).2 = .failed fault) ∧
    (∃ state, frontend.promptAfter 2 (opening circlingFile circlingTerminal) = some state ∧
      RunLoop (frontend.read state).1 [0, 1, 2, 3] (frontend.turn state)) ∧
    ∃ state, frontend.promptAfter 5 (opening circlingFile circlingTerminal) = some state ∧
      NextLoop (frontend.read state).1 [1] [0, 1, 2, 3] (frontend.turn state) := by
  obtain ⟨ends, loops⟩ := session_ends_and_loops_ascend circlingFile circlingTerminal
  refine ⟨ends, ?_, ?_⟩
  · obtain ⟨state, line, reached, given, isRun, place, final, length⟩ :=
      @exists_of_shown (opening circlingFile circlingTerminal) 2 4 0 4 .run (by decide +kernel)
    obtain ⟨indices, loop, ascends, -⟩ := (loops 2 state line reached given).1 isRun
    change Ascends state.ip state.code.length indices at ascends
    -- The place has come to the end, so no instruction was left out.
    have full : (frontend.turn state).state.ip ≤ state.ip + indices.length := loop.place_le
    rw [place, length] at ascends
    rw [place, final] at full
    obtain rfl : indices = [0, 1, 2, 3] := ascends.eq_of_full 4 rfl (by omega)
    exact ⟨state, reached, loop⟩
  · obtain ⟨state, line, reached, given, isNext, place, final, length⟩ :=
      @exists_of_shown (opening circlingFile circlingTerminal) 5 4 1 4 .next (by decide +kernel)
    obtain ⟨first, later, loop, -, -, ascends, -⟩ := (loops 5 state line reached given).2 isNext
    change Ascends 0 state.code.length later at ascends
    have full : (frontend.turn state).state.ip ≤ state.ip + 1 ∨
        first = [state.ip] ∧ (frontend.turn state).state.ip ≤ later.length := loop.place_le
    rw [length] at ascends
    rw [place, final] at full
    obtain ⟨rfl, full⟩ := full.resolve_left (by decide)
    obtain rfl : later = [0, 1, 2, 3] := ascends.eq_of_full 4 rfl (by omega)
    exact ⟨state, reached, loop⟩

end StackMachine.Debugger.Flat

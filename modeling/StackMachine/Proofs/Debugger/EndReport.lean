import StackMachine.Proofs.Debugger.Assertion
import StackMachine.Proofs.Debugger.ExecPointer
import StackMachine.Proofs.Debugger.FlatResuming
import StackMachine.Proofs.Machine.Shortage

/-!
Where a run says that the end of the program is reached. It says so for every fault that tells of something out of
range, and an instruction that takes from where there is nothing has such a fault too. The debugger for a single list
says the same at the end and at such an instruction. The debugger for programs says it at such an instruction only: at
the end it says nothing (`end_reported_where_starved`).
-/

set_option autoImplicit false

namespace StackMachine

theorem itemAt_eq_error {α : Type} {items : List α} {index : Int} {fault : Fault} :
    itemAt items index = .error fault ↔ itemAt? items index = none ∧ fault = .badIndex index := by
  unfold itemAt
  cases itemAt? items index with
  | some item => exact ⟨nofun, nofun⟩
  | none =>
      constructor
      · intro missing
        exact ⟨rfl, (Except.error.inj missing).symm⟩
      · rintro ⟨-, rfl⟩
        rfl

namespace Debugger

namespace Flat

/-- A run carries out the instructions up to a place. -/
inductive Reaches : State → State → Prop where
  | refl {state : State} : Reaches state state
  | cons {state place : State} {instruction : Instruction} (found : itemAt state.code state.ip = .ok instruction)
      (carried : (state.carryOut instruction).fault = none)
      (onward : Reaches { state.after (state.carryOut instruction) with ip := state.ip + 1 } place) :
      Reaches state place

/-- A run gets to an instruction that takes from where there is nothing, and `left` is what that leaves. -/
inductive StarvesAt (state left : State) : Prop where
  | intro {place : State} {instruction : Instruction} (reaches : Reaches state place)
      (found : itemAt place.code place.ip = .ok instruction)
      (starves : instruction.Starves place.machine place.console)
      (rests : left = place.after (place.carryOut instruction))

section

variable {state place left : State} {turn : Turn State} {indices : List Int} {fault : Fault}

theorem Reaches.natural (reaches : Reaches state place) (natural : 0 ≤ state.ip) : 0 ≤ place.ip := by
  induction reaches with
  | refl => exact natural
  | cons _ _ _ ih => exact ih (Int.add_nonneg natural (by decide))

theorem settle_end_iff : settle state fault = .prompt (left.say "End of program reached.") ↔
    fault.classOf = .index ∧ left = state := by
  constructor
  · intro settled
    unfold settle at settled
    cases kind : fault.classOf with
    | index =>
        rw [kind] at settled
        have consoles := Console.eq_of_writeLine (congrArg State.console (Turn.prompt.inj settled))
        obtain ⟨files, machine, console, code, labels, ip⟩ := state
        obtain ⟨otherFiles, otherMachine, otherConsole, otherCode, otherLabels, otherIp⟩ := left
        have fields := Turn.prompt.inj settled
        simp only [State.say, State.mk.injEq] at fields
        obtain ⟨rfl, rfl, -, rfl, rfl, rfl⟩ := fields
        obtain rfl : console = otherConsole := consoles
        exact ⟨rfl, rfl⟩
    | stop =>
        rw [kind] at settled
        exact absurd (congrArg State.console (Turn.prompt.inj settled))
          (Console.writeLine_ne _ (by decide) (by decide) (by decide))
    | _ =>
        rw [kind] at settled
        cases settled
  · rintro ⟨index, rfl⟩
    rw [settle, index]

theorem RunLoop.end_iff (loop : RunLoop state indices turn) (natural : 0 ≤ state.ip) :
    turn = .prompt (left.say "End of program reached.") ↔
      Reaches state left ∧ left.code.length ≤ left.ip ∨ StarvesAt state left := by
  induction loop with
  | @ended state fault missing =>
      obtain ⟨none, same⟩ := itemAt_eq_error.mp missing
      have past := length_le_of_itemAt?_none natural none
      have index : fault.classOf = .index := same ▸ Fault.classOf_badIndex _
      rw [settle_end_iff]
      constructor
      · rintro ⟨-, rfl⟩
        exact .inl ⟨.refl, past⟩
      · -- There is no instruction here, so the run has got no further.
        rintro (⟨reaches, -⟩ | ⟨reaches, found, -, -⟩)
        · cases reaches with
          | refl => exact ⟨index, rfl⟩
          | cons found =>
              rw [missing] at found
              cases found
        · cases reaches with
          | refl | cons found =>
              rw [missing] at found
              cases found
  | @failed state instruction fault found faulty =>
      have inside := lt_length_of_itemAt natural found
      rw [settle_end_iff]
      constructor
      · rintro ⟨index, rfl⟩
        exact .inr (.intro .refl found (Machine.index_iff_starves.mp ⟨fault, faulty, index⟩) rfl)
      · rintro (⟨reaches, past⟩ | @⟨_, again, reaches, foundThere, starves, rfl⟩)
        · cases reaches with
          | refl => omega
          | cons foundAgain carried =>
              obtain rfl := Except.ok.inj (found.symm.trans foundAgain)
              rw [faulty] at carried
              cases carried
        · cases reaches with
          | refl =>
              obtain rfl := Except.ok.inj (found.symm.trans foundThere)
              obtain rfl := Option.some.inj (faulty.symm.trans (Machine.execute_of_starves _ starves))
              exact ⟨rfl, rfl⟩
          | cons foundAgain carried =>
              obtain rfl := Except.ok.inj (found.symm.trans foundAgain)
              rw [faulty] at carried
              cases carried
  | @moved state instruction indices turn found carried onward ih =>
      have inside := lt_length_of_itemAt natural found
      rw [ih (Int.add_nonneg natural (by decide))]
      constructor
      · rintro (⟨reaches, past⟩ | ⟨reaches, foundThere, starves, rests⟩)
        · exact .inl ⟨.cons found carried reaches, past⟩
        · exact .inr (.intro (.cons found carried reaches) foundThere starves rests)
      · rintro (⟨reaches, past⟩ | ⟨reaches, foundThere, starves, rests⟩)
        · cases reaches with
          | refl => omega
          | cons foundAgain _ reaches =>
              obtain rfl := Except.ok.inj (found.symm.trans foundAgain)
              exact .inl ⟨reaches, past⟩
        · cases reaches with
          | refl =>
              obtain rfl := Except.ok.inj (found.symm.trans foundThere)
              have faulty := Machine.execute_of_starves state.labels starves
              rw [← State.carryOut, carried] at faulty
              cases faulty
          | cons foundAgain _ reaches =>
              obtain rfl := Except.ok.inj (found.symm.trans foundAgain)
              exact .inr (.intro reaches foundThere starves rests)

theorem StarvesAt.inside (starves : StarvesAt state left) (natural : 0 ≤ state.ip) :
    left.ip < left.code.length := by
  obtain ⟨reaches, found, -, rfl⟩ := starves
  exact lt_length_of_itemAt (reaches.natural natural) found

end

section

variable {files : FileStore} {terminal : Terminal} {turns : Nat} {state left : State} {argument : List Char}
  (reached : frontend.promptAfter turns (opening files terminal) = some state)
  (given : frontend.command? state = some ⟨.run, argument⟩)
include reached

theorem inside_of_starvesAt (starves : StarvesAt (frontend.read state).1 left) : left.ip < left.code.length := by
  have natural := natural_of_promptAfter reached
  exact starves.inside natural

include given

theorem turn_end_iff : frontend.turn state = .prompt (left.say "End of program reached.") ↔
    Reaches (frontend.read state).1 left ∧ left.code.length ≤ left.ip ∨ StarvesAt (frontend.read state).1 left := by
  have place := natural_of_promptAfter reached
  have natural : 0 ≤ (frontend.read state).1.ip := place
  obtain ⟨indices, loop⟩ := run_loop natural
  rw [frontend.turn_of_command? given]
  exact loop.end_iff natural

end

/-- A listing whose only instruction adds two operands. -/
def addingListing : FileStore :=
  FileStore.add ⟨[]⟩ "p" (String.toUTF8 "ADD").toList

/-- A run that is given after a load finds nothing to add. -/
theorem exists_starvesAt : ∃ state left : State,
    frontend.promptAfter 1 (opening addingListing { script := [.line "load p", .line "run"] }) = some state ∧
      frontend.command? state = some ⟨.run, []⟩ ∧ StarvesAt (frontend.read state).1 left := by
  have meets : ((frontend.promptAfter 1 (opening addingListing { script := [.line "load p", .line "run"] })).bind
      fun state => (itemAt? state.code state.ip).map fun instruction =>
        (frontend.command? state, decide (state.machine.stack.length < instruction.demand))) =
      some (some ⟨.run, []⟩, true) := by decide +kernel
  obtain ⟨state, reached, meets⟩ := Option.bind_eq_some_iff.mp meets
  obtain ⟨instruction, at_, same⟩ := Option.map_eq_some_iff.mp meets
  obtain ⟨given, few⟩ := Prod.mk.inj same
  have found : itemAt state.code state.ip = .ok instruction := by rw [itemAt, at_]
  exact ⟨state, _, reached, given, .intro .refl found (.operands (of_decide_eq_true few)) rfl⟩

end Flat

namespace Functions

/-- A run gets to an instruction that is given what it asks for and takes from where there is nothing, and `left` is
what that leaves. -/
inductive StarvesAt (state left : State) : Prop where
  | intro {legs : List Leg} {place asked : State} {function : Function} {instruction : Instruction}
      (moves : Moves "" false state legs place) (enough : legs.length < state.settings.fuel)
      (fetched : place.fetch? = some (function, instruction))
      (asks : ask place "" false instruction = (asked, none))
      (starves : instruction.Starves asked.machine asked.console)
      (rests : left = asked.after (asked.execute function instruction))

/-- Whether a run would begin before the first instruction of a function that has none. -/
structure State.Vacant (state : State) : Prop where
  empty : ∃ labels, state.active = .ok ⟨[], labels⟩
  before : state.machine.ip = -1
  tries : 0 < state.settings.fuel

/-- A run gets to the end of the active function. -/
inductive FinishesAt (state left : State) : Prop where
  | intro {legs : List Leg} {function : Function} (moves : Moves "" false state legs left)
      (enough : legs.length < state.settings.fuel) (active : left.active = .ok function)
      (past : function.instructions.length ≤ left.machine.ip)

section

variable {state place left : State} {legs : List Leg} {fault : Fault}

theorem settle_end_iff : settle state fault = .prompt (state.say "\nEnd of program reached.") ↔
    fault.classOf = .index := by
  constructor
  · intro settled
    unfold settle at settled
    cases kind : fault.classOf with
    | index => rfl
    | stop =>
        rw [kind] at settled
        exact absurd (congrArg State.console (Turn.prompt.inj settled))
          (Console.writeLine_ne _ (by decide) (by decide) (by decide))
    | _ =>
        rw [kind] at settled
        cases settled
  · intro index
    rw [settle, index]

theorem Journey.says_end_iff (journey : Journey) :
    journey.turn = .prompt (journey.state.say "\nEnd of program reached.") ↔
      ∃ fault, journey.halt = .stopped fault ∧ fault.classOf = .index := by
  have silent : Turn.prompt journey.state ≠ .prompt (journey.state.say "\nEnd of program reached.") := by
    intro same
    exact Console.writeLine_ne_self _ _ (congrArg State.console (Turn.prompt.inj same)).symm
  unfold Journey.turn
  cases halt : journey.halt with
  | arrived | ended =>
      refine ⟨fun same => absurd same silent, ?_⟩
      rintro ⟨_, impossible, -⟩
      cases impossible
  | stopped fault =>
      refine settle_end_iff.trans ⟨fun index => ⟨fault, rfl, index⟩, ?_⟩
      rintro ⟨other, same, index⟩
      obtain rfl := Halt.stopped.inj same
      exact index
  | escaped | exhausted =>
      refine ⟨nofun, ?_⟩
      rintro ⟨_, impossible, -⟩
      cases impossible

theorem length_legs_of_stopped {τ : Type} {lead : String} {echo : Bool} {tally : τ → Instruction → Option τ}
    {fuel : Nat} {counts : τ} (halted : (travel lead echo tally fuel counts state).halt = .stopped fault) :
    (travel lead echo tally fuel counts state).legs.length < fuel := by
  induction fuel generalizing counts state with
  | zero => cases halted
  | succ fuel ih =>
      rw [travel] at halted ⊢
      cases advanced : advance lead echo state with
      | ended | stopped => exact Nat.succ_pos fuel
      | moved next instruction =>
          rw [advanced] at halted
          dsimp only at halted ⊢
          cases tallies : tally counts instruction with
          | none =>
              rw [tallies] at halted
              cases halted
          | some more =>
              rw [tallies] at halted
              exact Nat.succ_lt_succ (ih halted)

/-- Where a run goes on from a place that it gets to. -/
theorem runJourney_of_moves (moves : Moves "" false state legs place) (enough : legs.length < state.settings.fuel) :
    ∃ more, runJourney state =
      let onward := travel "" false (fun _ _ => some ()) (more + 1) () place
      ⟨legs ++ onward.legs, onward.state, onward.halt⟩ := by
  obtain ⟨more, fuel⟩ := Nat.exists_eq_add_of_lt enough
  refine ⟨more, ?_⟩
  rw [runJourney, fuel, Nat.add_assoc]
  exact travel_of_moves moves (tallied_run legs) (more + 1)

theorem not_lacking_of_buffer {instruction : Instruction} {line : String}
    (failed : instruction.buffer line = .error fault) : fault.lacking = false := by
  unfold Instruction.buffer at failed
  split at failed
  · obtain ⟨before, word, after, -, -, notANumber⟩ := exists_of_mapM_eq_error (eq_error_of_map failed)
    split at notANumber
    · cases notANumber
    · split at notANumber <;> cases notANumber
      rfl
  · cases failed

theorem not_lacking_of_ask {lead : String} {echo : Bool} {asked : State} {instruction : Instruction}
    (asks : ask state lead echo instruction = (asked, some fault)) : fault.lacking = false := by
  cases reads : instruction.reads with
  | false =>
      rw [ask_of_silent reads] at asks
      cases asks
  | true =>
      rw [ask_of_reads reads] at asks
      generalize said : (state.say (lead ++ instruction.question)).readLine "" = reading at asks
      obtain ⟨read, answer⟩ := reading
      cases answer with
      | error other =>
          obtain ⟨-, same⟩ := Prod.mk.inj asks
          obtain rfl := Option.some.inj same
          exact Terminal.not_lacking_of_read (congrArg Prod.snd said)
      | ok line =>
          rw [takeAnswer] at asks
          cases buffered : instruction.buffer line with
          | ok buffer =>
              rw [buffered] at asks
              cases asks
          | error other =>
              rw [buffered] at asks
              obtain ⟨-, same⟩ := Prod.mk.inj asks
              obtain rfl := Option.some.inj same
              exact not_lacking_of_buffer buffered

/-- What is out of range when a run tries the next instruction: that instruction, or what it takes from. -/
theorem range_of_advance {lead : String} {echo : Bool} (stopped : advance lead echo place = .stopped left fault)
    (index : fault.classOf = .index) :
    (∃ function, place.active = .ok function ∧ place.machine.ip < function.instructions.length ∧
      itemAt function.instructions place.machine.ip = .error fault ∧ left = place) ∨
    ∃ function instruction asked, place.fetch? = some (function, instruction) ∧
      ask place lead echo instruction = (asked, none) ∧ instruction.Starves asked.machine asked.console ∧
      left = asked.after (asked.execute function instruction) := by
  have lacking : fault.lacking = true := by rw [Fault.lacking, index]
  unfold advance at stopped
  cases active : place.active with
  | error other =>
      rw [active] at stopped
      obtain ⟨rfl, rfl⟩ := Progress.stopped.inj stopped
      unfold State.active Program.function at active
      split at active
      · split at active <;> cases active <;> cases index
      · cases active
        split at index <;> cases index
  | ok function =>
      rw [active] at stopped
      dsimp only at stopped
      split at stopped
      · next inside =>
          cases found : itemAt function.instructions place.machine.ip with
          | error other =>
              rw [found] at stopped
              obtain ⟨rfl, rfl⟩ := Progress.stopped.inj stopped
              exact .inl ⟨function, rfl, inside, found, rfl⟩
          | ok instruction =>
              have fetched := State.fetch?_of_itemAt active found
              rw [found] at stopped
              dsimp only at stopped
              cases asks : ask place lead echo instruction with
              | mk asked trouble =>
                  rw [asks] at stopped
                  cases trouble with
                  | some other =>
                      obtain ⟨rfl, rfl⟩ := Progress.stopped.inj stopped
                      rw [not_lacking_of_ask asks] at lacking
                      cases lacking
                  | none =>
                      dsimp only at stopped
                      cases failed : (asked.execute function instruction).fault with
                      | none =>
                          rw [failed] at stopped
                          cases stopped
                      | some other =>
                          rw [failed] at stopped
                          obtain ⟨rfl, rfl⟩ := Progress.stopped.inj stopped
                          have starves := Machine.index_iff_starves.mp ⟨other, failed, index⟩
                          exact .inr ⟨function, instruction, asked, fetched, asks, starves, rfl⟩
      · cases stopped

/-- A pointer that is at most one short of a place misses what comes before the end only in an empty function. -/
theorem empty_of_itemAt {items : List Instruction} {pointer : Int} (short : -1 ≤ pointer)
    (before : pointer < items.length) (missing : itemAt items pointer = .error fault) :
    items = [] ∧ pointer = -1 := by
  obtain ⟨none, -⟩ := itemAt_eq_error.mp missing
  by_cases natural : 0 ≤ pointer
  · have past := length_le_of_itemAt?_none natural none
    omega
  · obtain rfl : pointer = -1 := by omega
    rw [itemAt?_neg_one, List.getLast?_eq_none_iff] at none
    exact ⟨none, rfl⟩

theorem StarvesAt.runJourney (starves : StarvesAt state left) :
    (runJourney state).state = left ∧ (runJourney state).halt = .stopped .emptyPop := by
  obtain @⟨legs, place, asked, function, instruction, moves, enough, fetched, asks, starves, rests⟩ := starves
  have stops : advance "" false place = .stopped left .emptyPop :=
    advance_of_fails (.intro fetched asks (Machine.execute_of_starves _ starves) rests)
  obtain ⟨more, journey⟩ := runJourney_of_moves moves enough
  rw [journey, travel, stops]
  exact ⟨rfl, rfl⟩

theorem State.Vacant.runJourney (vacant : state.Vacant) :
    (runJourney state).state = state ∧ (runJourney state).halt = .stopped (.badIndex (-1)) := by
  obtain ⟨⟨labels, active⟩, before, tries⟩ := vacant
  have missing : itemAt ([] : List Instruction) (-1) = .error (.badIndex (-1)) := rfl
  have stops : advance "" false state = .stopped state (.badIndex (-1)) := by
    unfold advance
    rw [active, before]
    dsimp only
    rw [if_pos (by decide), missing]
  obtain ⟨more, journey⟩ := runJourney_of_moves .refl tries
  rw [journey, travel, stops]
  exact ⟨rfl, rfl⟩

theorem FinishesAt.turn (finishes : FinishesAt state left) : (runJourney state).turn = .prompt left := by
  obtain @⟨legs, function, moves, enough, active, past⟩ := finishes
  have ends : advance "" false left = .ended left := by
    unfold advance
    rw [active]
    exact if_neg (Int.not_lt.mpr past)
  obtain ⟨more, journey⟩ := runJourney_of_moves moves enough
  rw [journey, travel, ends]
  rfl

theorem says_end_iff (steady : state.Steady) :
    (runJourney state).turn = .prompt (left.say "\nEnd of program reached.") ∧ (runJourney state).state = left ↔
      StarvesAt state left ∨ state.Vacant ∧ left = state := by
  constructor
  · rintro ⟨reports, rfl⟩
    obtain ⟨fault, halted, index⟩ := (runJourney state).says_end_iff.mp reports
    have enough : (runJourney state).legs.length < state.settings.fuel := length_legs_of_stopped halted
    obtain ⟨place, moves, closes⟩ := travel_moves "" false (fun _ _ => some ()) state.settings.fuel () state
    have stopped : advance "" false place = .stopped (runJourney state).state fault := by
      unfold Journey.Closes at closes
      rw [← runJourney, halted] at closes
      exact closes
    rcases range_of_advance stopped index with
      ⟨function, active, before, missing, same⟩ | ⟨function, instruction, asked, fetched, asks, starves, rests⟩
    · have short := (changes_steady moves.changes steady).1.short.pointer
      obtain ⟨empty, pointer⟩ := empty_of_itemAt short before missing
      -- Behind any instruction that has been carried out the pointer is no longer short of a place.
      have unmoved : (runJourney state).legs = [] := by
        by_contra some_
        have natural := moves.natural steady some_
        omega
      rw [← runJourney, unmoved] at moves
      cases moves
      obtain ⟨instructions, labels⟩ := function
      obtain rfl : instructions = [] := empty
      exact .inr ⟨⟨⟨labels, active⟩, pointer, Nat.zero_lt_of_lt enough⟩, same⟩
    · exact .inl (.intro moves enough fetched asks starves rests)
  · rintro (starves | ⟨vacant, rfl⟩)
    · obtain ⟨rfl, halted⟩ := starves.runJourney
      exact ⟨(Functions.runJourney state).says_end_iff.mpr ⟨_, halted, rfl⟩, rfl⟩
    · obtain ⟨comes, halted⟩ := vacant.runJourney
      have reports := (Functions.runJourney left).says_end_iff.mpr ⟨_, halted, Fault.classOf_badIndex _⟩
      rw [comes] at reports
      exact ⟨reports, comes⟩

theorem StarvesAt.inside (starves : StarvesAt state left) (paired : state.machine.Paired) :
    ∃ function, left.active = .ok function ∧ left.machine.ip < function.instructions.length := by
  obtain @⟨legs, place, asked, function, instruction, moves, enough, fetched, asks, starves, rests⟩ := starves
  have fails : Fails "" false place left .emptyPop :=
    .intro fetched asks (Machine.execute_of_starves _ starves) rests
  obtain ⟨-, same⟩ := fails.stays (moves.paired paired)
  obtain ⟨active, inside, -⟩ := State.fetch?_eq_some (same.trans fetched)
  exact ⟨function, active, inside⟩

end

section

variable {settings : Settings} {files : FileStore} {terminal : Terminal} {turns : Nat} {state left : State}
  {argument : List Char} (reached : frontend.promptAfter turns (opening settings files terminal) = some state)
include reached

theorem steady_of_promptAfter : (frontend.read state).1.Steady := by
  obtain ⟨labels, paired, short⟩ :=
    frontend.invariant_at_every_prompt (fun _ _ => turn_steady) (opening_steady settings files terminal) reached
  exact ⟨labels, paired, short⟩

theorem inside_of_end (ends : StarvesAt (frontend.read state).1 left ∨
    (frontend.read state).1.Vacant ∧ left = (frontend.read state).1) :
    ∃ function, left.active = .ok function ∧ left.machine.ip < function.instructions.length := by
  rcases ends with starves | ⟨⟨⟨labels, active⟩, before, -⟩, rfl⟩
  · exact starves.inside (steady_of_promptAfter reached).paired
  · have negative : (frontend.read state).1.machine.ip < 0 := by omega
    exact ⟨⟨[], labels⟩, active, negative⟩

end

theorem turn_eq_runJourney {state : State} {argument : List Char}
    (given : frontend.command? state = some ⟨.run, argument⟩) :
    frontend.turn state = (runJourney (frontend.read state).1).turn :=
  (frontend.turn_of_command? given).trans (answer_run _ argument)

/-- A program whose entry adds two operands. -/
def addingProgram : FileStore :=
  FileStore.add ⟨[]⟩ "p" (String.toUTF8 "function \"$entrypoint$\"\nADD").toList

/-- A run that is given after a load finds nothing to add. -/
theorem exists_starvesAt : ∃ state left : State,
    frontend.promptAfter 1 (opening ⟨false, true, .adaptive, 10⟩ addingProgram
        { script := [.line "load p", .line "run"] }) = some state ∧
      frontend.command? state = some ⟨.run, []⟩ ∧ StarvesAt (frontend.read state).1 left := by
  have meets : ((frontend.promptAfter 1 (opening ⟨false, true, .adaptive, 10⟩ addingProgram
      { script := [.line "load p", .line "run"] })).bind fun state => state.fetch?.map fun fetched =>
        (frontend.command? state, fetched.2.reads, decide (state.machine.stack.length < fetched.2.demand),
          decide (0 < state.settings.fuel))) =
      some (some ⟨.run, []⟩, false, true, true) := by decide +kernel
  obtain ⟨state, reached, meets⟩ := Option.bind_eq_some_iff.mp meets
  obtain ⟨⟨function, instruction⟩, fetched, same⟩ := Option.map_eq_some_iff.mp meets
  obtain ⟨given, same⟩ := Prod.mk.inj same
  obtain ⟨silent, same⟩ := Prod.mk.inj same
  obtain ⟨few, enough⟩ := Prod.mk.inj same
  exact ⟨state, _, reached, given, .intro .refl (of_decide_eq_true enough) fetched
    (ask_of_silent silent _ _ _) (.operands (of_decide_eq_true few)) rfl⟩

end Functions

/-- A run is given at a prompt. In the debugger for a single list it says that the end is reached if and only if it gets
behind the last instruction or to an instruction that takes from where there is nothing, and then it is still inside of
the code. In the debugger for programs it says so if and only if it gets to such an instruction, or begins before the
first instruction of an empty function. The pointer is never at the end then, and where it is the run says nothing. -/
theorem end_reported_where_starved (files : FileStore) (terminal : Terminal) (turns : Nat) (argument : List Char) :
    (∀ state left : Flat.State, Flat.frontend.promptAfter turns (Flat.opening files terminal) = some state →
      Flat.frontend.command? state = some ⟨.run, argument⟩ →
      let asked := (Flat.frontend.read state).1
      (Flat.frontend.turn state = .prompt (left.say "End of program reached.") ↔
        Flat.Reaches asked left ∧ left.code.length ≤ left.ip ∨ Flat.StarvesAt asked left) ∧
      (Flat.StarvesAt asked left → left.ip < left.code.length)) ∧
    ∀ (settings : Functions.Settings) (state left : Functions.State),
      Functions.frontend.promptAfter turns (Functions.opening settings files terminal) = some state →
      Functions.frontend.command? state = some ⟨.run, argument⟩ →
      let asked := (Functions.frontend.read state).1
      (Functions.frontend.turn state = .prompt (left.say "\nEnd of program reached.") ∧
          (Functions.runJourney asked).state = left ↔
        Functions.StarvesAt asked left ∨ asked.Vacant ∧ left = asked) ∧
      (Functions.StarvesAt asked left ∨ asked.Vacant ∧ left = asked →
        ∃ function, left.active = .ok function ∧ left.machine.ip < function.instructions.length) ∧
      (Functions.FinishesAt asked left → Functions.frontend.turn state = .prompt left) := by
  constructor
  · intro state left reached given asked
    exact ⟨Flat.turn_end_iff reached given, Flat.inside_of_starvesAt reached⟩
  · intro settings state left reached given asked
    rw [Functions.turn_eq_runJourney given]
    exact ⟨Functions.says_end_iff (Functions.steady_of_promptAfter reached), Functions.inside_of_end reached,
      Functions.FinishesAt.turn⟩

/-- Both debuggers take an addition on an empty stack for the end. -/
theorem end_reported_where_starved_adding :
    (∃ state left : Flat.State, Flat.StarvesAt (Flat.frontend.read state).1 left ∧
      Flat.frontend.turn state = .prompt (left.say "End of program reached.") ∧ left.ip < left.code.length) ∧
    ∃ state left : Functions.State, Functions.StarvesAt (Functions.frontend.read state).1 left ∧
      Functions.frontend.turn state = .prompt (left.say "\nEnd of program reached.") ∧
      ∃ function, left.active = .ok function ∧ left.machine.ip < function.instructions.length := by
  constructor
  · obtain ⟨state, left, reached, given, starves⟩ := Flat.exists_starvesAt
    obtain ⟨reports, inside⟩ := (end_reported_where_starved _ _ 1 []).1 state left reached given
    exact ⟨state, left, starves, reports.mpr (.inr starves), inside starves⟩
  · obtain ⟨state, left, reached, given, starves⟩ := Functions.exists_starvesAt
    obtain ⟨reports, inside, -⟩ := (end_reported_where_starved _ _ 1 []).2 _ state left reached given
    exact ⟨state, left, starves, (reports.mpr (.inl starves)).1, inside (.inl starves)⟩

/-- In neither debugger the pointer has to be at the end when a run says so. -/
theorem end_reported_inside :
    (¬ ∀ (files : FileStore) (terminal : Terminal) (turns : Nat) (argument : List Char) (state left : Flat.State),
        Flat.frontend.promptAfter turns (Flat.opening files terminal) = some state →
        Flat.frontend.command? state = some ⟨.run, argument⟩ →
        Flat.frontend.turn state = .prompt (left.say "End of program reached.") → left.code.length ≤ left.ip) ∧
    ¬ ∀ (settings : Functions.Settings) (files : FileStore) (terminal : Terminal) (turns : Nat) (argument : List Char)
        (state left : Functions.State) (function : Function),
        Functions.frontend.promptAfter turns (Functions.opening settings files terminal) = some state →
        Functions.frontend.command? state = some ⟨.run, argument⟩ →
        Functions.frontend.turn state = .prompt (left.say "\nEnd of program reached.") →
        left.active = .ok function → function.instructions.length ≤ left.machine.ip := by
  constructor
  · intro atEnd
    obtain ⟨state, left, reached, given, starves⟩ := Flat.exists_starvesAt
    have reported := (Flat.turn_end_iff reached given).mpr (.inr starves)
    have past := atEnd _ _ 1 [] state left reached given reported
    have inside := Flat.inside_of_starvesAt reached starves
    omega
  · intro atEnd
    obtain ⟨state, left, reached, given, starves⟩ := Functions.exists_starvesAt
    have reported := ((Functions.says_end_iff (Functions.steady_of_promptAfter reached)).mpr (.inl starves)).1
    rw [← Functions.turn_eq_runJourney given] at reported
    obtain ⟨function, active, inside⟩ := Functions.inside_of_end reached (.inl starves)
    have past := atEnd _ _ _ 1 [] state left function reached given reported active
    omega

end Debugger

end StackMachine

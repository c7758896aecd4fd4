import StackMachine.Proofs.Debugger.Stepping
import StackMachine.Proofs.Program.Clearing

/-!
Breakpoints do not change what a program does. Where a run of a program is stopped at a breakpoint, the run
of the program with its breakpoints cleared goes over a label; the machines are the same before and after.
So the runs that are resumed after every breakpoint make up the one run that is not stopped.
-/

set_option autoImplicit false

namespace StackMachine.Debugger.Functions

/-- How many legs of a journey set out from a place where a program has a breakpoint. -/
def breaksMet (program : Program) : State → List Leg → Nat
  | _, [] => 0
  | state, leg :: legs =>
    (if program.breaksAt state.machine then 1 else 0) + breaksMet program leg.state legs

/-- The state after a program has been loaded: the machine has not done anything yet. -/
structure State.JustLoaded (state : State) : Prop where
  machine : state.machine = {}
  program : ∃ text, Program.read state.settings.link text = .ok state.program

/-- A later state of a session in which nothing has been read or loaded since. -/
structure State.Continues (state later : State) : Prop where
  settings : later.settings = state.settings
  program : later.program = state.program
  script : later.script = state.script

/-- Two sessions at the same place of a program, in one of them with its breakpoints cleared. -/
structure Aligned (broken cleared : State) : Prop where
  machine : broken.machine = cleared.machine
  clears : broken.program.ClearsTo cleared.program
  linked : broken.program.Linked
  clearedLinked : cleared.program.Linked
  silent : broken.program.Silent

/-- What trying the next instruction comes to in two sessions that are aligned. -/
inductive Abreast (broken cleared : State) : Progress → Progress → Prop where
  | moved {next clearedNext : State} {instruction : Instruction}
      (unbroken : broken.program.breaksAt cleared.machine = false) (continues : broken.Continues next)
      (aligned : Aligned next clearedNext) :
      Abreast broken cleared (.moved next instruction) (.moved clearedNext instruction)
  | passed {stopped clearedNext : State} {label : Instruction}
      (breaks : broken.program.breaksAt cleared.machine = true) (continues : broken.Continues stopped)
      (aligned : Aligned stopped.moveOn clearedNext) :
      Abreast broken cleared (.stopped stopped .breakpoint) (.moved clearedNext label)
  | ended : Abreast broken cleared (.ended broken) (.ended cleared)
  | stopped {stopped clearedStopped : State} {fault : Fault} (continues : broken.Continues stopped)
      (machine : stopped.machine = clearedStopped.machine) :
      Abreast broken cleared (.stopped stopped fault) (.stopped clearedStopped fault)

theorem State.Continues.refl (state : State) : state.Continues state := ⟨rfl, rfl, rfl⟩

section

variable {broken cleared : State}

theorem Aligned.later {next clearedNext : State} (aligned : Aligned broken cleared)
    (machine : next.machine = clearedNext.machine) (program : next.program = broken.program)
    (clearedProgram : clearedNext.program = cleared.program) : Aligned next clearedNext := by
  refine ⟨machine, ?_, ?_, ?_, ?_⟩
  · rw [program, clearedProgram]
    exact aligned.clears
  · rw [program]
    exact aligned.linked
  · rw [clearedProgram]
    exact aligned.clearedLinked
  · rw [program]
    exact aligned.silent

theorem advance_of_itemAt?_none {state : State} {function : Function} (active : state.active = .ok function)
    (outside : itemAt? function.instructions state.machine.ip = none) (lead : String) (echo : Bool) :
    advance lead echo state =
      if state.machine.ip < function.instructions.length then
        .stopped state (.badIndex state.machine.ip)
      else .ended state := by
  simp only [advance, active, itemAt, outside]

theorem breaksAt_of_fetch? {state : State} {function : Function} {instruction : Instruction}
    (fetched : state.fetch? = some (function, instruction)) :
    state.program.breaksAt state.machine = instruction.is .breakpoint := by
  obtain ⟨active, -, found⟩ := State.fetch?_eq_some fetched
  unfold State.active at active
  simp only [Program.breaksAt, active, found]

/-- An instruction that is no breakpoint does the same in both sessions. -/
theorem abreast_of_kept (aligned : Aligned broken cleared) {function clearedFunction : Function}
    {instruction : Instruction} (fetched : broken.fetch? = some (function, instruction))
    (clearedFetched : cleared.fetch? = some (clearedFunction, instruction))
    (functions : function.ClearsTo clearedFunction) (other : instruction.is .breakpoint = false) :
    Abreast broken cleared (advance "" false broken) (advance "" false cleared) := by
  obtain ⟨active, -, found⟩ := State.fetch?_eq_some fetched
  obtain ⟨clearedActive, -, -⟩ := State.fetch?_eq_some clearedFetched
  have member := mem_of_itemAt found
  have silent := aligned.silent _ function active instruction member
  have labels : ∀ text, instruction.JumpsTo (.text text) →
      function.labels.get? (.text text) = clearedFunction.labels.get? (.text text) := by
    intro text jumps
    exact functions.get?_labels (aligned.linked _ function active)
      (aligned.clearedLinked _ clearedFunction clearedActive) member jumps
  have executed : (broken.execute function instruction).machine =
        (cleared.execute clearedFunction instruction).machine ∧
      (broken.execute function instruction).fault =
        (cleared.execute clearedFunction instruction).fault := by
    unfold State.execute
    rw [aligned.machine, Machine.execute_of_labels _ _ labels]
    exact Machine.execute_of_silent _ _ silent _ _
  obtain ⟨machine, fault⟩ := executed
  have continues : broken.Continues (broken.after (broken.execute function instruction)) :=
    ⟨rfl, rfl, Machine.execute_script function.labels broken.machine (by simp [silent])⟩
  have unbroken : broken.program.breaksAt cleared.machine = false := by
    rw [← aligned.machine, breaksAt_of_fetch? fetched, other]
  rw [advance_of_fetch? fetched silent, advance_of_fetch? clearedFetched silent, fault]
  cases (cleared.execute clearedFunction instruction).fault with
  | some fault => exact .stopped continues machine
  | none =>
      refine .moved unbroken ⟨rfl, rfl, continues.script⟩ (aligned.later ?_ rfl rfl)
      simp only [State.moveOn, State.after, machine]

/-- A breakpoint stops the one session where the other goes over a label. -/
theorem abreast_of_replaced (aligned : Aligned broken cleared) {function clearedFunction : Function}
    {breakpoint : Instruction} {name : Value} (fetched : broken.fetch? = some (function, breakpoint))
    (clearedFetched : cleared.fetch? = some (clearedFunction, .of .label [name]))
    (isBreakpoint : breakpoint.is .breakpoint = true) :
    Abreast broken cleared (advance "" false broken) (advance "" false cleared) := by
  have silent := Instruction.reads_of_is isBreakpoint (by decide) (by decide)
  have breaks : broken.program.breaksAt cleared.machine = true := by
    rw [← aligned.machine, breaksAt_of_fetch? fetched, isBreakpoint]
  have executed := Machine.execute_breakpoint isBreakpoint function.labels broken.machine broken.console
  rw [advance_of_fetch? fetched silent, advance_of_fetch? clearedFetched rfl]
  unfold State.execute
  rw [executed]
  refine .passed breaks ⟨rfl, rfl, rfl⟩ (aligned.later ?_ rfl rfl)
  simp only [State.moveOn, State.after, Outcome.fail, aligned.machine]
  rfl

/-- One instruction keeps two sessions aligned, unless it is the last that both of them try. -/
theorem advance_abreast (aligned : Aligned broken cleared) :
    Abreast broken cleared (advance "" false broken) (advance "" false cleared) := by
  have current : broken.machine.current = cleared.machine.current := by rw [aligned.machine]
  have ip : broken.machine.ip = cleared.machine.ip := by rw [aligned.machine]
  rcases aligned.clears.function broken.machine.current with
    ⟨fault, active, clearedActive⟩ | ⟨function, clearedFunction, active, clearedActive, functions⟩
  · rw [current] at clearedActive
    have stopped : advance "" false broken = .stopped broken fault := by
      simp only [advance, State.active, active]
    have clearedStopped : advance "" false cleared = .stopped cleared fault := by
      simp only [advance, State.active, clearedActive]
    rw [stopped, clearedStopped]
    exact .stopped (.refl broken) aligned.machine
  · rw [current] at clearedActive
    have items := itemAt?_of_forall₂ functions broken.machine.ip
    generalize found : itemAt? function.instructions broken.machine.ip = item at items
    generalize clearedFound : itemAt? clearedFunction.instructions broken.machine.ip = clearedItem at items
    rw [ip] at clearedFound
    cases items with
    | none =>
        rw [advance_of_itemAt?_none active found, advance_of_itemAt?_none clearedActive clearedFound, ip,
          functions.length_eq]
        split
        · exact .stopped (.refl broken) aligned.machine
        · exact .ended
    | some clears =>
        have fetched := State.fetch?_of_itemAt? active found
        have clearedFetched := State.fetch?_of_itemAt? clearedActive clearedFound
        cases clears with
        | kept other => exact abreast_of_kept aligned fetched clearedFetched functions other
        | replaced isBreakpoint => exact abreast_of_replaced aligned fetched clearedFetched isBreakpoint

theorem settle_aligned {stopped clearedStopped final : State} {fault : Fault}
    (machine : stopped.machine = clearedStopped.machine)
    (settled : settle clearedStopped fault = .prompt final) :
    ∃ last, settle stopped fault = .prompt last ∧ last.machine = final.machine ∧
      last.script = stopped.script := by
  unfold settle at settled ⊢
  cases kind : fault.classOf with
  | stop =>
      simp only [kind, Turn.prompt.injEq] at settled
      subst settled
      refine ⟨_, rfl, ?_, rfl⟩
      simp only [State.moveOn, State.say, machine]
  | index =>
      simp only [kind, Turn.prompt.injEq] at settled
      subst settled
      exact ⟨_, rfl, machine, rfl⟩
  | _ => simp [kind] at settled

theorem turn_of_run (state : State) {rest : List Keystroke}
    (waiting : state.script = .line "run" :: rest) :
    ∃ read : Terminal, read.script = rest ∧
      frontend.turn state = run state.settings.fuel (state.onTerminal read) := by
  have parsed : CommandLine.parse? "run".toList = some ⟨.run, []⟩ := by decide
  exact turn_of_line state waiting parsed

/-- Resuming one session as often as it is stopped takes it to where the other comes in one run. The fuel
that is left for the run under way and the fuel of every later one suffice for what is left of that run. -/
theorem resumes_of_run {fuel left : Nat} {final : State} {rest : List Keystroke}
    (aligned : Aligned broken cleared) (enough : fuel ≤ left) (refill : fuel ≤ broken.settings.fuel)
    (returned : run fuel cleared = .prompt final)
    (waiting : broken.script =
      List.replicate (breaksMet broken.program cleared
        (travel "" false (fun _ _ => some ()) fuel () cleared).legs) (.line "run") ++ rest) :
    ∃ stopped last, run left broken = .prompt stopped ∧
      frontend.promptAfter (breaksMet broken.program cleared
        (travel "" false (fun _ _ => some ()) fuel () cleared).legs) stopped = some last ∧
      last.machine = final.machine ∧ last.script = rest := by
  induction fuel generalizing left broken cleared with
  | zero => cases returned
  | succ fuel ih =>
      obtain ⟨left, rfl⟩ : ∃ fewer, left = fewer + 1 := ⟨left - 1, by omega⟩
      have abreast := advance_abreast aligned
      rw [run] at returned ⊢
      rw [travel] at waiting ⊢
      generalize advance "" false broken = progress at abreast ⊢
      generalize advance "" false cleared = clearedProgress at abreast returned waiting ⊢
      cases abreast with
      | ended =>
          obtain rfl := Turn.prompt.inj returned
          exact ⟨broken, broken, rfl, rfl, aligned.machine, waiting⟩
      | stopped continues machine =>
          obtain ⟨last, settled, same, script⟩ := settle_aligned machine returned
          exact ⟨last, last, settled, rfl, same, script.trans (continues.script.trans waiting)⟩
      | moved unbroken continues aligned =>
          simp only [Journey.legs_prepend, breaksMet, unbroken, Bool.false_eq_true, if_false,
            Nat.zero_add] at waiting ⊢
          rw [← continues.script] at waiting
          rw [← continues.program] at waiting ⊢
          have refill' : fuel ≤ _ := Nat.le_of_succ_le (continues.settings ▸ refill)
          exact ih aligned (Nat.le_of_succ_le_succ enough) refill' returned waiting
      | @passed stopped clearedNext _ breaks continues aligned =>
          -- The run ends here, and the next one that waits goes on from behind the breakpoint.
          let halted := (stopped.say
            ("\nStopped at instruction " ++ toString stopped.machine.ip ++ " (BREAKPOINT)")).moveOn
          simp only [Journey.legs_prepend, breaksMet, breaks, if_true, Nat.add_comm 1] at waiting ⊢
          rw [← continues.script] at waiting
          rw [← continues.program] at waiting ⊢
          obtain ⟨read, script, turned⟩ := turn_of_run halted waiting
          have refill' : fuel ≤ halted.settings.fuel := Nat.le_of_succ_le (continues.settings ▸ refill)
          have resumed : Aligned (halted.onTerminal read) clearedNext := aligned.later aligned.machine rfl rfl
          obtain ⟨next, last, ran, resumes, same, left⟩ := ih resumed refill' refill' returned script
          refine ⟨halted, last, rfl, ?_, same, left⟩
          have again : frontend.turn halted = .prompt next := turned.trans ran
          simp only [Frontend.promptAfter, again]
          exact resumes

end

/-- Let a program that reads nothing be loaded in one session, and in another the same program with a label
that no jump uses in the place of each breakpoint. If a `run` of the second program comes back to the prompt
after passing as many of these labels as `breaksMet` counts, then one more `run` than that of the first
program all come back to the prompt, and the last one leaves the same machine. -/
theorem runs_resume_to_cleared_run (broken cleared final : State) (argument : List Char)
    (rest : List Keystroke) (loaded : broken.JustLoaded) (clearedLoaded : cleared.JustLoaded)
    (clears : broken.program.ClearsTo cleared.program) (silent : broken.program.Silent)
    (enough : cleared.settings.fuel ≤ broken.settings.fuel)
    (returned : answer cleared ⟨.run, argument⟩ = .prompt final) :
    let breaks := breaksMet broken.program cleared (runJourney cleared).legs
    ∃ last, frontend.promptAfter (breaks + 1)
        (broken.withScript (List.replicate (breaks + 1) (.line "run") ++ rest)) = some last ∧
      last.machine = final.machine ∧ last.script = rest := by
  intro breaks
  obtain ⟨text, read⟩ := loaded.program
  obtain ⟨clearedText, clearedRead⟩ := clearedLoaded.program
  let state := broken.withScript (List.replicate (breaks + 1) (.line "run") ++ rest)
  have waiting : state.script = .line "run" :: (List.replicate breaks (.line "run") ++ rest) := rfl
  obtain ⟨terminal, script, turned⟩ := turn_of_run state waiting
  have aligned : Aligned (state.onTerminal terminal) cleared :=
    ⟨loaded.machine.trans clearedLoaded.machine.symm, clears, Program.linked_of_read read,
      Program.linked_of_read clearedRead, silent⟩
  obtain ⟨stopped, last, ran, resumes, same, left⟩ :=
    resumes_of_run aligned enough enough returned script
  have first : frontend.turn state = .prompt stopped := turned.trans ran
  refine ⟨last, ?_, same, left⟩
  change frontend.promptAfter (breaks + 1) state = some last
  simp only [Frontend.promptAfter, first]
  exact resumes

/-- A source with one line at three places: in a loop that is gone through twice, at the end of the entry, and
in a function that the entry calls. -/
def markedSource (mark : String) : List Char :=
  ("function \"$entrypoint$\"\nLOAD_CONST 0\nLOAD_CONST 1\nLABEL again\n" ++ mark ++
    "\nCJMP again\nLOAD_CONST f\nCALL\n" ++ mark ++ "\nfunction \"f\"\n" ++ mark ++ "\nRET").toList

def markedEntry (mark : Instruction) : List Instruction := [
  .of .loadConst [.int 0], .of .loadConst [.int 1],
  .of .label [.text "again"], mark, .of .branch [.text "again"],
  .of .loadConst [.text "f"], .of .call [], mark]

def marked (mark : Instruction) (entryLabels calledLabels : Labels) : State where
  settings := ⟨false, true, .adaptive, 20⟩
  files := ⟨[]⟩
  machine := {}
  console := { terminal := {} }
  program := ⟨[(entryPoint, .linked ⟨markedEntry mark, entryLabels⟩),
    ("f", .linked ⟨[mark, .of .ret []], calledLabels⟩)]⟩

def stopping : State :=
  marked (.of .breakpoint []) ⟨[(.text "again", 2)]⟩ .empty

def passing : State :=
  marked (.of .label [.text "here"]) ⟨[(.text "again", 2), (.text "here", 7)]⟩ ⟨[(.text "here", 0)]⟩

theorem stopping_justLoaded : stopping.JustLoaded := by
  have bodies : Source.bodies (markedSource "BREAKPOINT") =
      [(entryPoint, ("LOAD_CONST 0\nLOAD_CONST 1\nLABEL again\nBREAKPOINT\nCJMP again\n" ++
        "LOAD_CONST f\nCALL\nBREAKPOINT").toList), ("f", "BREAKPOINT\nRET".toList)] := by decide +kernel
  refine ⟨rfl, markedSource "BREAKPOINT", ?_⟩
  unfold Program.read
  rw [bodies]
  repeat rw [String.toList_append]
  repeat rw [Text.toList_of_spelling rfl]
  rfl

theorem passing_justLoaded : passing.JustLoaded := by
  have bodies : Source.bodies (markedSource "LABEL here") =
      [(entryPoint, ("LOAD_CONST 0\nLOAD_CONST 1\nLABEL again\nLABEL here\nCJMP again\n" ++
        "LOAD_CONST f\nCALL\nLABEL here").toList), ("f", "LABEL here\nRET".toList)] := by decide +kernel
  refine ⟨rfl, markedSource "LABEL here", ?_⟩
  unfold Program.read
  rw [bodies]
  repeat rw [String.toList_append]
  repeat rw [Text.toList_of_spelling rfl]
  rfl

theorem stopping_clearsTo : stopping.program.ClearsTo passing.program := by
  have entry : Instruction.ClearsTo (markedEntry (.of .breakpoint [])) (.of .breakpoint [])
      (.of .label [.text "here"]) :=
    .replaced rfl (by simp [markedEntry, Instruction.JumpsTo, Instruction.is, Instruction.of])
  have called : Instruction.ClearsTo [.of .breakpoint [], .of .ret []] (.of .breakpoint [])
      (.of .label [.text "here"]) :=
    .replaced rfl (by simp [Instruction.JumpsTo, Instruction.is, Instruction.of])
  refine .cons ⟨rfl, .linked ?_⟩ (.cons ⟨rfl, .linked ?_⟩ .nil)
  · exact .cons (.kept rfl) (.cons (.kept rfl) (.cons (.kept rfl) (.cons entry (.cons (.kept rfl)
      (.cons (.kept rfl) (.cons (.kept rfl) (.cons entry .nil)))))))
  · exact .cons called (.cons (.kept rfl) .nil)

theorem stopping_silent : stopping.program.Silent := by
  intro name function loaded
  obtain ⟨title, -, member⟩ := Program.mem_bodies_of_function loaded
  have linked : function.instructions = markedEntry (.of .breakpoint []) ∨
      function.instructions = [.of .breakpoint [], .of .ret []] := by
    simp only [stopping, marked, List.mem_cons, Prod.mk.injEq, Body.linked.injEq, List.not_mem_nil,
      or_false] at member
    rcases member with ⟨-, rfl⟩ | ⟨-, rfl⟩
    · exact .inl rfl
    · exact .inr rfl
  rcases linked with code | code
  · rw [code]
    simp [markedEntry, Instruction.reads, Instruction.is, Instruction.of]
  · rw [code]
    simp [Instruction.reads, Instruction.is, Instruction.of]

/-- Four breakpoints stop the program, two of them in the rounds of its loop, and the fifth `run` ends where
the program without them ends in one. -/
theorem runs_resume_to_cleared_run_marked :
    stopping.JustLoaded ∧ passing.JustLoaded ∧ stopping.program.ClearsTo passing.program ∧
      stopping.program.Silent ∧
      ∃ final last, answer passing ⟨.run, []⟩ = .prompt final ∧ final.machine = { ip := 8 } ∧
        breaksMet stopping.program passing (runJourney passing).legs = 4 ∧
        frontend.promptAfter 5 (stopping.withScript (List.replicate 5 (.line "run"))) = some last ∧
        last.machine = final.machine := by
  have returned : answer passing ⟨.run, []⟩ = .prompt _ := rfl
  obtain ⟨last, resumed, machine, -⟩ := runs_resume_to_cleared_run stopping passing _ [] []
    stopping_justLoaded passing_justLoaded stopping_clearsTo stopping_silent (Nat.le_refl 20) returned
  exact ⟨stopping_justLoaded, passing_justLoaded, stopping_clearsTo, stopping_silent, _, last, returned,
    rfl, rfl, resumed, machine⟩

end StackMachine.Debugger.Functions

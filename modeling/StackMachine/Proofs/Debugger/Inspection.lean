import StackMachine.Proofs.Debugger.FlatLabels
import StackMachine.Proofs.Debugger.Pairing
import StackMachine.Proofs.Machine.Naming

/-!
The commands that only show something. Neither debugger lets them change code, machine or pointer. Where operands and
variables can be written they come back to the prompt, but for a listing without a program, which ends the session, and
for what is shown by the name of a function that is not in the program, has no length or is too long to be written
(`inspection_harmless_where_shown`).
-/

set_option autoImplicit false

namespace StackMachine

/-- Whether nothing has cut a printout short. -/
def Printout.whole (printout : Printout) : Bool :=
  printout.fault.isNone

namespace Printout

@[simp] theorem whole_of (lines : List String) : (of lines).whole = true := rfl

@[simp] theorem whole_cons (line : String) (rest : Printout) : (cons line rest).whole = rest.whole := rfl

@[simp] theorem whole_append (first second : Printout) :
    (first.append second).whole = (first.whole && second.whole) := by
  unfold append whole
  cases cut : first.fault with
  | none => rfl
  | some fault => simp [cut]

@[simp] theorem whole_ofText (text : Except Fault (List Char)) (line : String → String) :
    (ofText text line).whole = text.toOption.isSome := by
  cases text <;> rfl

end Printout

@[simp] theorem Value.isSome_show (value : Value) : value.show.toOption.isSome = value.printable := by
  unfold Value.show
  cases value.printable <;> rfl

@[simp] theorem Value.isSome_write (value : Value) : value.write.toOption.isSome = value.printable := by
  unfold Value.write
  cases value.printable <;> rfl

theorem whole_numberedLines (index : Nat) (values : List Value) :
    (numberedLines index values).whole = values.all Value.printable := by
  induction values generalizing index with
  | nil => rfl
  | cons value rest ih => simp only [numberedLines, Printout.whole_append, Printout.whole_ofText,
      Value.isSome_write, ih, List.all_cons]

theorem whole_bindingLines (indent : String) (entries : List (Value × Value)) :
    (bindingLines indent entries).whole = entries.all fun entry => entry.1.printable && entry.2.printable := by
  induction entries with
  | nil => rfl
  | cons entry rest ih =>
      obtain ⟨name, value⟩ := entry
      rw [bindingLines, Printout.whole_append, Printout.whole_ofText, ih, List.all_cons, ← Value.isSome_show,
        ← Value.isSome_write]
      cases name.show with
      | error fault => rfl
      | ok shown => cases value.write <;> rfl

theorem whole_bindingLines_of_names {bindings : Bindings} (names : bindings.NamesPrintable) (indent : String) :
    (bindingLines indent bindings.entries).whole = bindings.entries.all fun entry => entry.2.printable := by
  rw [whole_bindingLines, Bool.eq_iff_iff, List.all_eq_true, List.all_eq_true]
  constructor
  · intro written entry member
    exact (Bool.and_eq_true_iff.mp (written entry member)).2
  · intro written entry member
    rw [names entry member, written entry member]
    rfl

theorem whole_viewTop (wording : StackWording) (stack : List Value) (count : Int) :
    (viewTop wording stack count).whole = true := by
  unfold viewTop
  split
  · rfl
  · split
    · rfl
    · dsimp only
      split
      · rfl
      · next shown => rw [Printout.whole, shown, Option.isNone_none]

section

variable {stack : List Value} (printable : ∀ value ∈ stack, value.printable = true)
include printable

theorem whole_viewStackBy (wording : StackWording) (request : List Char) :
    (viewStackBy wording stack request).whole = true := by
  unfold viewStackBy
  split
  · rw [Printout.whole_cons, whole_numberedLines]
    exact List.all_eq_true.mpr printable
  · split
    · split
      · exact whole_viewTop wording stack _
      · rfl
    · rfl

theorem whole_viewStack (wording : StackWording) (request : List Char) :
    (viewStack wording stack request).whole = true := by
  unfold viewStack
  split
  · rfl
  · exact whole_viewStackBy printable wording request

end

theorem Machine.whole_showStack {machine : Machine} (printable : ∀ value ∈ machine.stack, value.printable = true)
    (request : String) : (machine.showStack (some (.text request))).whole = true := by
  unfold Machine.showStack
  dsimp only
  split
  · exact whole_viewStack printable _ []
  · exact whole_viewStackBy printable _ request.toList

theorem Table.exists_mem_of_get? {α : Type} {table : Table α} {name : Value} {content : α}
    (found : table.get? name = some content) : ∃ entry ∈ table.entries, entry.2 = content := by
  obtain ⟨entries⟩ := table
  unfold Table.get? at found
  dsimp only at found ⊢
  induction entries with
  | nil => cases found
  | cons first rest ih =>
      obtain ⟨other, held⟩ := first
      rw [find?] at found
      split at found
      · obtain rfl := Option.some.inj found
        exact ⟨_, List.mem_cons_self, rfl⟩
      · obtain ⟨entry, member, same⟩ := ih found
        exact ⟨entry, List.mem_cons_of_mem _ member, same⟩

namespace Debugger

/-- The commands that show something and do nothing else. -/
def Command.inspects : Command → Bool
  | .info | .list | .print | .stack | .memory | .frame => true
  | _ => false

/-- The turns of such a command: a printout is reported, whole or cut short, or a line is said and the session
ends. -/
inductive Shows {σ : Type} (say : σ → String → σ) (state : σ) (shown ended : Bool) : Turn σ → Prop where
  | reported (printout : Printout) (whole : printout.whole = shown) (stays : ended = false) :
      Shows say state shown ended (report say state printout)
  | returned (line : String) (cut : shown = false) (ends : ended = true) :
      Shows say state shown ended (.returned (say state line))

section

variable {σ : Type} {say : σ → String → σ} {state : σ}

theorem Shows.comes_to {shown ended : Bool} {turn : Turn σ} (shows : Shows say state shown ended turn)
    (Keeps : σ → Prop) (said : ∀ state line, Keeps state → Keeps (say state line)) (holds : Keeps state) :
    Keeps turn.state ∧ ((∃ next, turn = .prompt next) ↔ shown = true) ∧
      ((∃ final, turn = .returned final) ↔ ended = true) := by
  cases shows with
  | returned line cut ends =>
      subst cut ends
      exact ⟨said state line holds, ⟨nofun, nofun⟩, ⟨fun _ => rfl, fun _ => ⟨_, rfl⟩⟩⟩
  | reported printout whole stays =>
      subst whole stays
      refine ⟨report_keeps say Keeps said holds printout, ?_⟩
      unfold report Printout.whole
      cases printout.fault with
      | none => exact ⟨⟨fun _ => rfl, fun _ => ⟨_, rfl⟩⟩, ⟨nofun, nofun⟩⟩
      | some fault => exact ⟨⟨nofun, nofun⟩, ⟨nofun, nofun⟩⟩

theorem said_shows (line : String) : Shows say state true false (.prompt (say state line)) :=
  .reported (.of [line]) rfl rfl

theorem whole_variableView {bindings : Bindings}
    (contents : ∀ entry ∈ bindings.entries, entry.2.printable = true) (argument : List Char) (lead place : String) :
    (variableView bindings argument lead place).whole = true := by
  unfold variableView
  split
  · rfl
  · split
    · next value found =>
        obtain ⟨entry, member, rfl⟩ := Table.exists_mem_of_get? found
        rw [Printout.whole_ofText, Value.isSome_write]
        exact contents entry member
    · rfl

end

namespace Functions

/-- Whether every instruction of the program and every name of a variable can be written. -/
structure State.Nameable (state : State) : Prop where
  program : state.program.Printable
  machine : state.machine.NamesPrintable

theorem State.Nameable.of_program {state final : State} (nameable : state.Nameable)
    (program : final.program = state.program) (names : final.machine.NamesPrintable) : final.Nameable := by
  constructor
  · rw [program]
    exact nameable.program
  · exact names

theorem Change.nameable {state final : State} (change : Change state final) (nameable : state.Nameable) :
    final.Nameable := by
  have names := nameable.machine
  cases change with
  | idle machine program =>
      rw [← machine] at names
      exact nameable.of_program program names
  | loaded read machine =>
      have fresh := Machine.namesPrintable_fresh
      rw [← machine] at fresh
      exact ⟨Program.printable_of_read read, fresh⟩
  | carriedOut fetched effect machine program =>
      obtain ⟨own, saved⟩ := effect.namesPrintable (State.printable_of_fetch? nameable.program fetched) names
      apply nameable.of_program program
      rw [machine]
      exact ⟨own, saved⟩
  | failed fetched effect program =>
      have written := State.printable_of_fetch? nameable.program fetched
      exact nameable.of_program program (effect.namesPrintable written names)
  | passed fetched isBreakpoint machine program =>
      apply nameable.of_program program
      rw [machine]
      exact ⟨names.own, names.saved⟩

theorem printable_of_spelled? {argument : List Char} {instruction : Instruction}
    (spelled : spelled? argument = some instruction) : instruction.printable = true := by
  obtain ⟨-, _, op, -, -, rfl⟩ := exists_of_spelled? spelled
  exact Instruction.printable_ofWords op _

theorem nameable_of_exec {state final : State} {argument : List Char}
    (executed : exec state argument = .prompt final) (nameable : state.Nameable) : final.Nameable := by
  obtain ⟨program, tried⟩ := machine_of_exec executed
  apply nameable.of_program program
  rcases tried with same | ⟨function, instruction, spelled, -, machine⟩
  · rw [same]
    exact nameable.machine
  · have effect := Machine.execute_effect function.labels state.machine (state.executing instruction).console
      instruction
    rw [machine]
    exact effect.namesPrintable (printable_of_spelled? spelled) nameable.machine

theorem nameable_of_turn {state final : State} (nameable : state.Nameable)
    (turned : frontend.turn state = .prompt final) : final.Nameable :=
  kept_by_turn State.Nameable Change.nameable nameable_of_exec nameable turned

/-- Where a command that shows something comes back to the prompt, if operands and variables can be written: a listing
where the active function is in the program, and what is shown by names of functions where these can be shown. -/
def State.inspectable (state : State) : Command → Bool
  | .list => state.active.toOption.isSome
  | .frame => (lengthOf? state.machine.current).isSome && state.machine.current.printable
  | .memory =>
    state.machine.current.printable && (state.machine.saved.all fun place => place.function.printable) &&
      state.machine.frames.all fun bindings => bindings.entries.all fun entry => entry.2.printable
  | _ => true

/-- Whether a command ends the session with the word that nothing is loaded. -/
def State.stopsAt (state : State) : Command → Bool
  | .list => state.program.isEmpty
  | _ => false

section

variable {state : State}

theorem list_shows : Shows State.say state state.active.toOption.isSome state.program.isEmpty (list state) := by
  unfold list
  by_cases empty : state.program.isEmpty = true
  · rw [if_pos empty]
    refine .returned _ ?_ empty
    -- Without a program there is no active function.
    cases active : state.active with
    | error fault => rfl
    | ok function =>
        obtain ⟨title, -, member⟩ := Program.mem_bodies_of_function active
        rw [List.isEmpty_iff.mp empty] at member
        cases member
  · rw [if_neg empty]
    have loaded := Bool.eq_false_iff.mpr empty
    cases state.active with
    | error fault => exact .reported ⟨[], some fault⟩ rfl loaded
    | ok function => exact .reported _ rfl loaded

theorem whole_savedFrame (place : ReturnPoint) {bindings : Bindings} (names : bindings.NamesPrintable) :
    (savedFrame place bindings).whole =
      (place.function.printable && bindings.entries.all fun entry => entry.2.printable) := by
  unfold savedFrame
  split
  · next empty =>
      rw [Printout.whole_ofText, Value.isSome_show, List.isEmpty_iff.mp empty, List.all_nil, Bool.and_true]
  · rw [Printout.whole_append, Printout.whole_ofText, Value.isSome_show, whole_bindingLines_of_names names]

theorem whole_foldl_append {α : Type} (show_ : α → Printout) (items : List α) (shown : Printout) :
    (items.foldl (fun shown item => shown.append (show_ item)) shown).whole =
      (shown.whole && items.all fun item => (show_ item).whole) := by
  induction items generalizing shown with
  | nil => rw [List.foldl_nil, List.all_nil, Bool.and_true]
  | cons item rest ih => rw [List.foldl_cons, ih, Printout.whole_append, List.all_cons, Bool.and_assoc]

theorem all_zip {α β : Type} (p : α → Bool) (q : β → Bool) {left : List α} {right : List β}
    (same : right.length = left.length) :
    ((left.zip right).all fun pair => p pair.1 && q pair.2) = (left.all p && right.all q) := by
  induction left generalizing right with
  | nil =>
      obtain rfl := List.length_eq_zero_iff.mp same
      rfl
  | cons first left ih =>
      cases right with
      | nil => cases same
      | cons second right =>
          rw [List.zip_cons_cons, List.all_cons, List.all_cons, List.all_cons, ih (Nat.succ.inj same)]
          ac_rfl

theorem whole_savedFrames {machine : Machine} (paired : machine.Paired)
    (names : ∀ bindings ∈ machine.frames, bindings.NamesPrintable) :
    (savedFrames machine).whole = ((machine.saved.all fun place => place.function.printable) &&
      machine.frames.all fun bindings => bindings.entries.all fun entry => entry.2.printable) := by
  have matching : ¬ machine.frames.length ≠ machine.saved.length := not_not_intro paired
  have shown : ∀ pair ∈ machine.saved.zip machine.frames, (savedFrame pair.1 pair.2).whole =
      (pair.1.function.printable && pair.2.entries.all fun entry => entry.2.printable) :=
    fun pair member => whole_savedFrame pair.1 (names pair.2 (List.of_mem_zip member).2)
  -- Frames are shown next to their return points, and none of either is left over.
  rw [← all_zip _ _ paired]
  unfold savedFrames
  by_cases none : machine.frames.isEmpty = true
  · rw [if_pos none, List.isEmpty_iff.mp none, List.zip_nil_right]
    rfl
  · rw [if_neg none, if_neg matching]
    change (List.foldl (fun (shown : Printout) (pair : ReturnPoint × Bindings) =>
      shown.append (savedFrame pair.1 pair.2)) _ _).whole = _
    rw [whole_foldl_append, List.all_reverse, Printout.whole_of, Bool.true_and, Bool.eq_iff_iff, List.all_eq_true,
      List.all_eq_true]
    exact forall₂_congr fun pair member => by rw [shown pair member]

theorem memory_shows (paired : state.machine.Paired) (names : state.machine.NamesPrintable)
    (contents : ∀ entry ∈ state.machine.bindings.entries, entry.2.printable = true) :
    Shows State.say state
      (state.machine.current.printable && (state.machine.saved.all fun place => place.function.printable) &&
        state.machine.frames.all fun bindings => bindings.entries.all fun entry => entry.2.printable) false
      (memory state) := by
  refine .reported _ ?_ rfl
  rw [Printout.whole_append, whole_savedFrames paired names.saved, Bool.and_assoc]
  split
  · rw [Printout.whole_ofText, Value.isSome_show]
  · rw [Printout.whole_append, Printout.whole_ofText, Value.isSome_show, whole_bindingLines_of_names names.own,
      List.all_eq_true.mpr contents, Bool.and_true]

theorem printable_of_lengthOf? {value : Value} (none : lengthOf? value = some 0) : value.printable = true := by
  cases value with
  | text => rfl
  | list items =>
      obtain rfl := List.length_eq_zero_iff.mp (Option.some.inj none)
      rfl
  | dict entries =>
      obtain rfl := List.length_eq_zero_iff.mp (Option.some.inj none)
      rfl
  | _ => cases none

theorem frame_shows (names : state.machine.NamesPrintable)
    (contents : ∀ entry ∈ state.machine.bindings.entries, entry.2.printable = true) :
    Shows State.say state ((lengthOf? state.machine.current).isSome && state.machine.current.printable) false
      (frame state) := by
  unfold frame
  dsimp only
  cases length : lengthOf? state.machine.current with
  | none => exact .reported ⟨[], some (.noLength state.machine.current.kind)⟩ rfl rfl
  | some count =>
      rw [Option.isSome_some, Bool.true_and]
      cases count with
      | zero =>
          -- An empty name is never too long to be written.
          rw [printable_of_lengthOf? length]
          exact said_shows _
      | succ count =>
          refine .reported _ ?_ rfl
          rw [Printout.whole_append, Printout.whole_ofText, Value.isSome_show]
          split
          · rw [Printout.whole_of, Bool.and_true]
          · rw [whole_bindingLines_of_names names.own, List.all_eq_true.mpr contents, Bool.and_true]

theorem answer_shows {line : CommandLine} (inspects : line.command.inspects = true) (paired : state.machine.Paired)
    (names : state.machine.NamesPrintable) (operands : ∀ value ∈ state.machine.stack, value.printable = true)
    (contents : ∀ entry ∈ state.machine.bindings.entries, entry.2.printable = true) :
    Shows State.say state (state.inspectable line.command) (state.stopsAt line.command)
      (answer state line) := by
  obtain ⟨command, argument⟩ := line
  cases command with
  | load | run | step | next | exec | quit | unknown => cases inspects
  | info => exact .reported (.of ("\nCommands:" :: overview)) rfl rfl
  | list => exact list_shows
  | print => exact .reported _ (whole_variableView contents argument _ _) rfl
  | stack => exact .reported _ (whole_viewStack operands _ argument) rfl
  | memory => exact memory_shows paired names contents
  | frame => exact frame_shows names contents

end

end Functions

namespace Flat

/-- Whether every instruction of the code and every name of a variable can be written. -/
structure State.Nameable (state : State) : Prop where
  code : state.Printable
  machine : state.machine.NamesPrintable

theorem Worked.namesPrintable {code : List Instruction} {start machine : Machine} (worked : Worked code start machine)
    (printable : ∀ instruction ∈ code, instruction.printable = true) (names : start.NamesPrintable) :
    machine.NamesPrintable := by
  induction worked with
  | start => exact names
  | @execute machine instruction _ labels console member ih =>
      exact (Machine.execute_effect labels machine console instruction).namesPrintable (printable instruction member) ih

theorem nameable_of_turn {state final : State} (nameable : state.Nameable)
    (turned : frontend.turn state = .prompt final) : final.Nameable := by
  constructor
  · exact nameable.code.turn turned
  · rcases worked_of_turn turned with worked | cleared
    · exact worked.namesPrintable nameable.code nameable.machine
    · rw [cleared]
      exact ⟨nofun, nameable.machine.saved⟩

/-- Where a command that shows something comes back to the prompt, if operands and variables can be written. -/
def State.inspectable (state : State) : Command → Bool
  | .list => !state.code.isEmpty
  | .frame => !inFunction state.machine || state.machine.current.printable
  | _ => true

/-- Whether a command ends the session with the word that nothing is loaded. -/
def State.stopsAt (state : State) : Command → Bool
  | .list => state.code.isEmpty
  | _ => false

section

variable {state : State}

theorem frame_shows (names : state.machine.NamesPrintable)
    (contents : ∀ entry ∈ state.machine.bindings.entries, entry.2.printable = true) :
    Shows State.say state (!inFunction state.machine || state.machine.current.printable) false
      (frame state) := by
  unfold frame
  cases inFunction state.machine with
  | false => exact said_shows _
  | true =>
      refine .reported _ ?_ rfl
      rw [Printout.whole_append, Printout.whole_ofText, Value.isSome_show, Bool.not_true, Bool.false_or]
      split
      · rw [Printout.whole_of, Bool.and_true]
      · rw [whole_bindingLines_of_names names.own, List.all_eq_true.mpr contents, Bool.and_true]

theorem answer_shows {line : CommandLine} (inspects : line.command.inspects = true)
    (names : state.machine.NamesPrintable) (operands : ∀ value ∈ state.machine.stack, value.printable = true)
    (contents : ∀ entry ∈ state.machine.bindings.entries, entry.2.printable = true) :
    Shows State.say state (state.inspectable line.command) (state.stopsAt line.command)
      (answer state line) := by
  obtain ⟨command, argument⟩ := line
  cases command with
  | load | run | step | next | exec | quit | unknown => cases inspects
  | info => exact .reported (.of ("Commands:" :: overview)) rfl rfl
  | print => exact .reported _ (whole_variableView contents argument _ _) rfl
  | frame => exact frame_shows names contents
  | stack =>
      refine .reported _ ?_ rfl
      rw [Printout.whole_append, Machine.whole_showStack operands]
      rfl
  | list =>
      unfold answer State.inspectable State.stopsAt
      dsimp only
      cases state.code.isEmpty with
      | true => exact .returned _ rfl rfl
      | false => exact .reported (.of (nearby state.code state.ip)) rfl rfl
  | memory =>
      unfold answer
      dsimp only
      split
      · exact said_shows _
      · refine .reported _ ?_ rfl
        rw [whole_bindingLines_of_names names.own]
        exact List.all_eq_true.mpr contents

end

end Flat

/-- A command that shows something, given at a prompt of either debugger where operands and variables can be written.
It leaves everything but the console as it is. It comes back to the prompt unless the function that is to be listed is
not there, or a name of a function that is to be shown has no length or is too long, or, among the variables that calls
have saved, one is too long. A listing ends the session if and only if nothing is loaded. -/
theorem inspection_harmless_where_shown (settings : Functions.Settings) (files : FileStore) (terminal : Terminal)
    (turns : Nat) (line : CommandLine) (inspects : line.command.inspects = true) :
    (∀ state, Flat.frontend.promptAfter turns (Flat.opening files terminal) = some state →
      Flat.frontend.command? state = some line →
      (∀ value ∈ state.machine.stack, value.printable = true) →
      (∀ entry ∈ state.machine.bindings.entries, entry.2.printable = true) →
      (∃ console, (Flat.frontend.turn state).state = { state with console }) ∧
      ((∃ next, Flat.frontend.turn state = .prompt next) ↔ state.inspectable line.command = true) ∧
      ((∃ final, Flat.frontend.turn state = .returned final) ↔ state.stopsAt line.command = true)) ∧
    ∀ state, Functions.frontend.promptAfter turns (Functions.opening settings files terminal) = some state →
      Functions.frontend.command? state = some line →
      (∀ value ∈ state.machine.stack, value.printable = true) →
      (∀ entry ∈ state.machine.bindings.entries, entry.2.printable = true) →
      (∃ console, (Functions.frontend.turn state).state = { state with console }) ∧
      ((∃ next, Functions.frontend.turn state = .prompt next) ↔ state.inspectable line.command = true) ∧
      ((∃ final, Functions.frontend.turn state = .returned final) ↔ state.stopsAt line.command = true) := by
  constructor
  · intro state reached given operands contents
    have initial : (Flat.opening files terminal).Nameable := ⟨nofun, Machine.namesPrintable_fresh⟩
    have nameable : state.Nameable :=
      Flat.frontend.invariant_at_every_prompt (fun _ _ => Flat.nameable_of_turn) initial reached
    let asked := (Flat.frontend.read state).1
    rw [Flat.frontend.turn_of_command? given]
    have shows : Shows Flat.State.say asked (asked.inspectable line.command) (asked.stopsAt line.command)
        (Flat.answer asked line) := Flat.answer_shows inspects nameable.machine operands contents
    have kept : ∀ (later : Flat.State) (said : String), (∃ console, later = { asked with console }) →
        ∃ console, later.say said = { asked with console } := by
      rintro _ said ⟨console, rfl⟩
      exact ⟨_, rfl⟩
    exact shows.comes_to (fun later => ∃ console, later = { asked with console }) kept ⟨_, rfl⟩
  · intro state reached given operands contents
    have initial : (Functions.opening settings files terminal).Nameable :=
      ⟨Program.printable_empty, Machine.namesPrintable_fresh⟩
    have nameable : state.Nameable :=
      Functions.frontend.invariant_at_every_prompt (fun _ _ => Functions.nameable_of_turn) initial reached
    have start : (Functions.opening settings files terminal).machine.Paired := rfl
    have paired : state.machine.Paired :=
      Functions.frontend.invariant_at_every_prompt (fun _ _ => Functions.paired_of_turn) start reached
    let asked := (Functions.frontend.read state).1
    rw [Functions.frontend.turn_of_command? given]
    have shows : Shows Functions.State.say asked (asked.inspectable line.command) (asked.stopsAt line.command)
        (Functions.answer asked line) := Functions.answer_shows inspects paired nameable.machine operands contents
    have kept : ∀ (later : Functions.State) (said : String), (∃ console, later = { asked with console }) →
        ∃ console, later.say said = { asked with console } := by
      rintro _ said ⟨console, rfl⟩
      exact ⟨_, rfl⟩
    exact shows.comes_to (fun later => ∃ console, later = { asked with console }) kept ⟨_, rfl⟩

def numberedFiles : FileStore :=
  (FileStore.add ⟨[]⟩ "list" (String.toUTF8
    "LOAD_CONST 2\nLOAD_CONST 7\nCALL\nLOAD_CONST 1\nSTORE_VAR x").toList).add "program"
    (String.toUTF8 "function \"$entrypoint$\"\nLOAD_CONST 2\nLOAD_CONST 7\nCALL").toList

def numberedSettings : Functions.Settings := ⟨false, true, .adaptive, 10⟩

def listCalling : Terminal :=
  { script := [.line "load list", .line "run", .line "frame"] }

def programCalling : Terminal :=
  { script := [.line "load program", .line "step", .line "step", .line "step", .line "frame"] }

/-- After a call by a number one debugger shows the frame by that number. The other takes the length of the number and
fails, but loses nothing. -/
theorem inspection_harmless_where_shown_numbered :
    (∃ state next, Flat.frontend.promptAfter 2 (Flat.opening numberedFiles listCalling) = some state ∧
      Flat.frontend.command? state = some ⟨.frame, []⟩ ∧ state.machine.stack.length = 1 ∧
      state.machine.bindings.entries.length = 1 ∧ Flat.frontend.turn state = .prompt next) ∧
    ∃ state, Functions.frontend.promptAfter 4 (Functions.opening numberedSettings numberedFiles programCalling) =
        some state ∧
      Functions.frontend.command? state = some ⟨.frame, []⟩ ∧ state.machine.stack.length = 1 ∧
      (∃ console, (Functions.frontend.turn state).state = { state with console }) ∧
      ¬ ∃ next, Functions.frontend.turn state = .prompt next := by
  constructor
  · have shown : ((Flat.frontend.promptAfter 2 (Flat.opening numberedFiles listCalling)).map fun state =>
        (Flat.frontend.command? state, (state.machine.stack.length, state.machine.bindings.entries.length),
          state.machine.stack.all Value.printable,
          state.machine.bindings.entries.all (fun entry => entry.2.printable), state.inspectable .frame)) =
        some (some ⟨.frame, []⟩, (1, 1), true, true, true) := by decide +kernel
    obtain ⟨state, reached, same⟩ := Option.map_eq_some_iff.mp shown
    obtain ⟨given, same⟩ := Prod.mk.inj same
    obtain ⟨lengths, same⟩ := Prod.mk.inj same
    obtain ⟨operands, same⟩ := Prod.mk.inj same
    obtain ⟨contents, inspectable⟩ := Prod.mk.inj same
    obtain ⟨stack, bindings⟩ := Prod.mk.inj lengths
    obtain ⟨inList, -⟩ := inspection_harmless_where_shown numberedSettings numberedFiles listCalling 2 ⟨.frame, []⟩ rfl
    obtain ⟨-, ⟨-, back⟩, -⟩ :=
      inList state reached given (List.all_eq_true.mp operands) (List.all_eq_true.mp contents)
    obtain ⟨next, turned⟩ := back inspectable
    exact ⟨state, next, reached, given, stack, bindings, turned⟩
  · have shown : ((Functions.frontend.promptAfter 4 (Functions.opening numberedSettings numberedFiles
        programCalling)).map fun state => (Functions.frontend.command? state, state.machine.stack.length,
          state.machine.stack.all Value.printable,
          state.machine.bindings.entries.all (fun entry => entry.2.printable), state.inspectable .frame)) =
        some (some ⟨.frame, []⟩, 1, true, true, false) := by decide +kernel
    obtain ⟨state, reached, same⟩ := Option.map_eq_some_iff.mp shown
    obtain ⟨given, same⟩ := Prod.mk.inj same
    obtain ⟨stack, same⟩ := Prod.mk.inj same
    obtain ⟨operands, same⟩ := Prod.mk.inj same
    obtain ⟨contents, inspectable⟩ := Prod.mk.inj same
    obtain ⟨-, inProgram⟩ :=
      inspection_harmless_where_shown numberedSettings numberedFiles programCalling 4 ⟨.frame, []⟩ rfl
    obtain ⟨kept, ⟨shows, -⟩, -⟩ :=
      inProgram state reached given (List.all_eq_true.mp operands) (List.all_eq_true.mp contents)
    refine ⟨state, reached, given, stack, kept, ?_⟩
    intro back
    rw [shows back] at inspectable
    cases inspectable

end Debugger

/-- A text, or an integer within the digit limit. -/
inductive Value.Plain : Value → Prop where
  | int {n : Int} (fits : Numeral.fitsDecimal n = true) : Plain (.int n)
  | text {s : String} : Plain (.text s)

namespace Debugger

/-- A listing without a program does not come back to the prompt. -/
theorem listing_of_nothing_ends_session :
    ¬ ∀ (files : FileStore) (terminal : Terminal) (turns : Nat) (state : Flat.State) (line : CommandLine),
      Flat.frontend.promptAfter turns (Flat.opening files terminal) = some state →
      Flat.frontend.command? state = some line → line.command.inspects = true →
      (∀ value ∈ state.machine.stack, value.Plain) →
      (∀ entry ∈ state.machine.bindings.entries, entry.2.Plain) →
      ∃ next, Flat.frontend.turn state = .prompt next ∧ next.code = state.code ∧ next.ip = state.ip ∧
        next.machine = state.machine := by
  intro harmless
  let start := Flat.opening ⟨[]⟩ { script := [.line "list", .line "frame"] }
  have given : Flat.frontend.command? start = some ⟨.list, []⟩ := by decide +kernel
  obtain ⟨next, turned, -⟩ := harmless _ _ 0 start _ rfl given rfl nofun nofun
  have ended : (Flat.frontend.promptAfter 1 start).isNone = true := by decide +kernel
  rw [Flat.frontend.promptAfter_succ rfl turned] at ended
  cases ended

end Debugger

end StackMachine

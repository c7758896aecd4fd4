import StackMachine.Proofs.Debugger.Continuation
import StackMachine.Proofs.Debugger.FlatTurning
import StackMachine.Proofs.Program.Labels

/-!
The labels of the debugger for a single list. No command but `load` touches code or labels. A load takes the labels
of the code that is there and then replaces that code, so that labels are always one load behind
(`labels_of_code_before_load`). What it has read can be written, so all code of a session can
(`printable_of_promptAfter`).
-/

set_option autoImplicit false

namespace StackMachine.Debugger.Flat

/-- Whether files, code and labels are the same in a later state. -/
def State.SameCode (state later : State) : Prop :=
  later.files = state.files ∧ later.code = state.code ∧ later.labels = state.labels

theorem State.SameCode.refl (state : State) : state.SameCode state :=
  ⟨rfl, rfl, rfl⟩

theorem State.SameCode.trans {state middle later : State} (first : state.SameCode middle)
    (second : middle.SameCode later) : state.SameCode later := by
  obtain ⟨files, code, labels⟩ := first
  obtain ⟨laterFiles, laterCode, laterLabels⟩ := second
  exact ⟨laterFiles.trans files, laterCode.trans code, laterLabels.trans labels⟩

section

variable (state : State)

theorem report_sameCode (printout : Printout) : state.SameCode (state.report printout).state :=
  report_keeps State.say state.SameCode (fun _ _ same => same) (.refl state) printout

theorem afterStep_sameCode (result : Step) {next : State → Turn State}
    (continues : ∀ later : State, later.SameCode (next later).state) :
    state.SameCode (state.afterStep result next).state := by
  unfold State.afterStep
  dsimp only
  split
  · exact continues _
  · exact .refl state

theorem stepOnce_sameCode : state.SameCode (stepOnce state).state :=
  afterStep_sameCode state _ .refl

theorem runRest_sameCode (rest : List Instruction) : state.SameCode (runRest state rest).state := by
  induction rest generalizing state with
  | nil => exact .refl state
  | cons instruction rest ih =>
      rw [runRest]
      split
      · exact ih _
      · split <;> exact .refl state

theorem stepOver_sameCode (depth count : Nat) : state.SameCode (stepOver depth count state).state := by
  induction count generalizing state with
  | zero => exact .refl state
  | succ count ih =>
      rw [stepOver]
      split
      · exact .refl state
      · split
        · exact .refl state
        · split
          · exact .refl state
          · apply afterStep_sameCode
            intro later
            split
            · exact .refl later
            · exact ih later

theorem next_sameCode : state.SameCode (next state).state := by
  unfold next
  split
  · exact .refl state
  · split
    · exact .refl state
    · split
      · exact .refl state
      · split
        · exact .refl state
        · split
          · dsimp only
            split
            · split <;> exact .refl state
            · exact stepOver_sameCode _ _ _
          · exact stepOnce_sameCode state

theorem exec_sameCode (argument : List Char) : state.SameCode (exec state argument).state := by
  unfold exec
  split
  · exact .refl state
  · split <;> exact .refl state

theorem answer_sameCode {line : CommandLine} (other : line.command ≠ .load) :
    state.SameCode (answer state line).state := by
  obtain ⟨command, argument⟩ := line
  cases command with
  | load => exact absurd rfl other
  | quit | unknown => exact .refl state
  | run => exact runRest_sameCode state _
  | step => exact stepOnce_sameCode state
  | next => exact next_sameCode state
  | print => exact report_sameCode state _
  | exec => exact exec_sameCode state argument
  | info => exact report_sameCode state (.of ("Commands:" :: overview))
  | stack =>
      let shown := state.machine.showStack (some (.text (String.ofList argument)))
      exact report_sameCode state (shown.append (.of ["None"]))
  | list =>
      unfold answer
      dsimp only
      split
      · exact .refl state
      · exact report_sameCode state _
  | memory =>
      unfold answer
      dsimp only
      split
      · exact .refl state
      · exact report_sameCode state _
  | frame =>
      change state.SameCode (frame state).state
      unfold frame
      split
      · exact report_sameCode state _
      · exact .refl state

end

section

variable {state final : State}

theorem turn_sameCode (other : ∀ line, frontend.command? state = some line → line.command ≠ .load)
    (turned : frontend.turn state = .prompt final) : state.SameCode final := by
  rcases frontend.answer_of_turn turned with rfl | ⟨line, given, answered⟩
  · exact .refl state
  · have same := answer_sameCode (frontend.read state).1 (other line given)
    rw [show answer (frontend.read state).1 line = .prompt final from answered] at same
    exact same

theorem promptAfter_sameCode {turns : Nat} (reached : frontend.promptAfter turns state = some final)
    (noLoad : ∀ line ∈ frontend.commands turns state, line.command ≠ .load) : state.SameCode final := by
  have kept : ∀ before after : State, state.SameCode before →
      (∀ line, frontend.command? before = some line → line.command ≠ .load) →
      frontend.turn before = .prompt after → state.SameCode after :=
    fun _ _ same other turned => same.trans (turn_sameCode other turned)
  exact frontend.invariant_at_prompt kept (.refl state) noLoad reached

/-- The files stay as they are, and only a load that has read a listing replaces the code. -/
theorem code_of_turn (turned : frontend.turn state = .prompt final) :
    final.files = state.files ∧ (final.code = state.code ∨ ∃ text, Listing.read text = .ok final.code) := by
  rcases frontend.answer_of_turn turned with rfl | ⟨⟨command, argument⟩, -, answered⟩
  · exact ⟨rfl, .inl rfl⟩
  · by_cases isLoad : command = .load
    · subst isLoad
      obtain ⟨labels, -, ⟨line, rfl⟩ | ⟨bytes, text, code, -, -, read, rfl⟩⟩ := prompt_of_load answered
      · exact ⟨rfl, .inl rfl⟩
      · exact ⟨rfl, .inr ⟨text, read⟩⟩
    · have same : State.SameCode _ (frontend.answer (frontend.read state).1 ⟨command, argument⟩).state :=
        answer_sameCode (frontend.read state).1 isLoad
      rw [answered] at same
      exact ⟨same.1, .inl same.2.1⟩

theorem files_of_promptAfter {turns : Nat} (reached : frontend.promptAfter turns state = some final) :
    final.files = state.files := by
  have kept : ∀ before after : State, before.files = state.files → frontend.turn before = .prompt after →
      after.files = state.files := fun _ _ same turned => (code_of_turn turned).1.trans same
  exact frontend.invariant_at_every_prompt kept rfl reached

/-- Whether every instruction of the code can be written. -/
def State.Printable (state : State) : Prop :=
  ∀ instruction ∈ state.code, instruction.printable = true

theorem State.Printable.turn (printable : state.Printable) (turned : frontend.turn state = .prompt final) :
    final.Printable := by
  intro instruction member
  obtain ⟨-, same | ⟨text, read⟩⟩ := code_of_turn turned
  · rw [same] at member
    exact printable instruction member
  · exact (Listing.readable_of_read read instruction member).printable

theorem printable_of_promptAfter {files : FileStore} {terminal : Terminal} {turns : Nat}
    (reached : frontend.promptAfter turns (opening files terminal) = some state) : state.Printable := by
  have kept : ∀ before after : State, before.Printable → frontend.turn before = .prompt after → after.Printable :=
    fun _ _ printable turned => printable.turn turned
  have opened : (opening files terminal).Printable := List.forall_mem_nil _
  exact frontend.invariant_at_every_prompt kept opened reached

theorem load_of_read {argument : List Char} {bytes : List UInt8} {text : List Char} {code : List Instruction}
    {labels : Labels} (linked : Listing.labels state.code = .ok labels)
    (found : state.files.lookup (bareFileName argument) = .ok (some bytes)) (decoded : fileText bytes = .ok text)
    (read : Listing.read text = .ok code) : load state argument = .prompt (state.reloaded labels code) := by
  unfold load
  rw [linked]
  dsimp only
  rw [found]
  dsimp only
  rw [decoded]
  dsimp only
  rw [read]
  rfl

end

/-- Two prompts of a session with a `load` between them that has read a code list. -/
inductive Loads (files : FileStore) (terminal : Terminal) (before loaded : State) (code : List Instruction) :
    Prop where
  | intro {turns : Nat} {argument : List Char} {bytes : List UInt8} {text : List Char}
      (reached : frontend.promptAfter turns (opening files terminal) = some before)
      (given : frontend.command? before = some ⟨.load, argument⟩)
      (found : files.lookup (bareFileName argument) = .ok (some bytes))
      (decoded : fileText bytes = .ok text)
      (read : Listing.read text = .ok code)
      (turned : frontend.turn before = .prompt loaded)

theorem Loads.reloaded {files : FileStore} {terminal : Terminal} {before loaded : State}
    {code : List Instruction} (loads : Loads files terminal before loaded code) :
    ∃ labels, Listing.labels before.code = .ok labels ∧
      loaded = (frontend.read before).1.reloaded labels code := by
  obtain ⟨reached, given, found, decoded, read, turned⟩ := loads
  rw [← show (frontend.read before).1.files = files from files_of_promptAfter reached] at found
  rw [frontend.turn_of_command? given] at turned
  obtain ⟨labels, linked, -⟩ := prompt_of_load turned
  have reloads := load_of_read linked found decoded read
  exact ⟨labels, linked, (Turn.prompt.inj (reloads.symm.trans turned)).symm⟩

/-- From a load on up to the next one, the labels are those of the code that the load has replaced. They are those of
the code that was loaded if and only if both have the same labels at the same places. A jump to a name raises its
fault if and only if the replaced code has no label of that name, wherever the loaded code has one. -/
theorem labels_of_code_before_load (files : FileStore) (terminal : Terminal) (before loaded later : State)
    (code : List Instruction) (more : Nat) (loads : Loads files terminal before loaded code)
    (reached : frontend.promptAfter more loaded = some later)
    (noLoad : ∀ line ∈ frontend.commands more loaded, line.command ≠ .load) :
    later.code = code ∧ later.labels.Chart before.code ∧
    (later.labels.Chart code ↔
      ∀ name, Listing.lastLabelled? name before.code = Listing.lastLabelled? name code) ∧
    ∀ (machine : Machine) (console : Console) (name : String),
      (machine.execute later.labels console (.of .jump [.text name])).fault = some (.missingKey (.text name)) ↔
        Listing.lastLabelled? (.text name) before.code = none := by
  obtain ⟨labels, linked, rfl⟩ := loads.reloaded
  obtain ⟨-, sameCode, sameLabels⟩ := promptAfter_sameCode reached noLoad
  have chart : later.labels.Chart before.code := by
    rw [sameLabels]
    exact Listing.chart_labels linked
  refine ⟨sameCode, chart, Labels.chart_congr chart, ?_⟩
  intro machine console name
  change (machine.jump console later.labels (.text name)).fault = _ ↔ _
  rw [Machine.jump, chart]
  cases Listing.lastLabelled? (.text name) before.code with
  | none => exact ⟨fun _ => rfl, fun _ => rfl⟩
  | some index => exact ⟨nofun, nofun⟩

/-- How a load between two prompts shows in a session on fixed input. -/
theorem loads_of_shown {files : FileStore} {terminal : Terminal} {turns : Nat} {argument : List Char} {α : Type}
    {seen : α} {bytes : List UInt8} {text : List Char} {code : List Instruction} (view : State → State → α)
    (shown : ((frontend.promptAfter turns (opening files terminal)).bind fun before =>
      (frontend.promptAfter 1 before).map fun loaded => (frontend.command? before, view before loaded)) =
        some (some ⟨.load, argument⟩, seen))
    (found : (files.lookup (bareFileName argument)).toOption = some (some bytes))
    (decoded : (fileText bytes).toOption = some text) (read : Listing.read text = .ok code) :
    ∃ before loaded, Loads files terminal before loaded code ∧ view before loaded = seen := by
  obtain ⟨before, reached, rest⟩ := Option.bind_eq_some_iff.mp shown
  obtain ⟨loaded, turned, same⟩ := Option.map_eq_some_iff.mp rest
  obtain ⟨given, viewed⟩ := Prod.mk.inj same
  exact ⟨before, loaded, .intro reached given (eq_ok_of_toOption found) (eq_ok_of_toOption decoded) read
    (frontend.turn_of_promptAfter turned), viewed⟩

def laggingFiles : FileStore :=
  FileStore.add (FileStore.add ⟨[]⟩ "old" (String.toUTF8 "JMP end\nLABEL end").toList) "new"
    (String.toUTF8 "LABEL go\nJMP go").toList

def laggingTerminal : Terminal :=
  { script := [.line "load old", .line "load new", .line "list", .line "run"] }

theorem exists_read_labelled {text : List Char} {name : Value} {index : Nat}
    (shown : ((Listing.read text).toOption.map (Listing.lastLabelled? name)) = some (some index)) :
    ∃ code, Listing.read text = .ok code ∧ Listing.lastLabelled? name code = some index := by
  obtain ⟨code, read, labelled⟩ := Option.map_eq_some_iff.mp shown
  exact ⟨code, eq_ok_of_toOption read, labelled⟩

/-- After a second load the first label of the new code is not known, and the label of the old code still is. -/
theorem labels_of_code_before_load_lagging :
    ∃ before loaded later code, Loads laggingFiles laggingTerminal before loaded code ∧
      frontend.promptAfter 1 loaded = some later ∧
      (∀ line ∈ frontend.commands 1 loaded, line.command ≠ .load) ∧
      Listing.lastLabelled? (.text "go") code = some 0 ∧
      (∀ (machine : Machine) (console : Console),
        (machine.execute later.labels console (.of .jump [.text "go"])).fault =
          some (.missingKey (.text "go"))) ∧
      later.labels.get? (.text "end") = some 1 := by
  obtain ⟨code, read, labelled⟩ :=
    @exists_read_labelled "LABEL go\nJMP go".toList (.text "go") 0 (by decide +kernel)
  obtain ⟨before, loaded, loads, seen⟩ := @loads_of_shown laggingFiles laggingTerminal 1 "new".toList _
    (none, some 1, [⟨.list, []⟩], true) (String.toUTF8 "LABEL go\nJMP go").toList "LABEL go\nJMP go".toList code
    (fun before loaded => (Listing.lastLabelled? (.text "go") before.code,
      Listing.lastLabelled? (.text "end") before.code,
      frontend.commands 1 loaded, (frontend.promptAfter 1 loaded).isSome))
    (by decide +kernel) (by decide +kernel) (by decide +kernel) read
  obtain ⟨unknown, seen⟩ := Prod.mk.inj seen
  obtain ⟨known, seen⟩ := Prod.mk.inj seen
  obtain ⟨commands, goesOn⟩ := Prod.mk.inj seen
  obtain ⟨later, reached⟩ := Option.isSome_iff_exists.mp goesOn
  have noLoad : ∀ line ∈ frontend.commands 1 loaded, line.command ≠ .load := by
    rw [commands]
    decide
  obtain ⟨-, chart, -, raises⟩ := labels_of_code_before_load laggingFiles laggingTerminal before loaded later code 1
    loads reached noLoad
  refine ⟨before, loaded, later, code, loads, reached, noLoad, labelled, ?_, ?_⟩
  · intro machine console
    exact (raises machine console "go").mpr unknown
  · rw [chart, known]
    rfl

theorem jump_misses_label_of_loaded_code :
    ¬ ∀ (files : FileStore) (terminal : Terminal) (before loaded later : State) (code : List Instruction)
      (more : Nat) (name : String), Loads files terminal before loaded code →
      frontend.promptAfter more loaded = some later →
      (∀ line ∈ frontend.commands more loaded, line.command ≠ .load) →
      (Listing.lastLabelled? (.text name) code).isSome →
      (later.machine.execute later.labels later.console (.of .jump [.text name])).fault ≠
        some (.missingKey (.text name)) := by
  intro found
  obtain ⟨code, read, labelled⟩ :=
    @exists_read_labelled "JMP end\nLABEL end".toList (.text "end") 1 (by decide +kernel)
  obtain ⟨before, loaded, loads, missing⟩ := @loads_of_shown laggingFiles laggingTerminal 0 "old".toList _
    none (String.toUTF8 "JMP end\nLABEL end").toList "JMP end\nLABEL end".toList code
    (fun _ loaded => loaded.labels.get? (.text "end")) (by decide +kernel) (by decide +kernel)
    (by decide +kernel) read
  have raised := found laggingFiles laggingTerminal before loaded loaded code 0 "end" loads rfl nofun
    (by rw [labelled]; rfl)
  apply raised
  change (loaded.machine.jump loaded.console loaded.labels (.text "end")).fault = _
  rw [Machine.jump, missing]
  rfl

end StackMachine.Debugger.Flat

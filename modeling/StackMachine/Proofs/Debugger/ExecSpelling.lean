import StackMachine.Proofs.Debugger.ExecReport
import StackMachine.Proofs.Numeral.Characters

/-!
The instruction that an `exec` spells, against the one that the same line gives in a listing. A listing is cut at
spaces outside of quotes and loses its quote marks. An `exec` is cut at all blanks and keeps the quote marks. So both
give the same instruction if and only if the line has no quote mark and no text of the instruction has a blank
(`exec_spells_unless_quoted_or_blank`). Numbers may stand between blanks.
-/

set_option autoImplicit false

namespace StackMachine

open Text

theorem flatMap_filter_of_nil {α β : Type} {keep : α → Bool} {f : α → List β} {items : List α}
    (nothing : ∀ item ∈ items, keep item = false → f item = []) :
    (items.filter keep).flatMap f = items.flatMap f := by
  induction items with
  | nil => rfl
  | cons item items ih =>
      rw [List.forall_mem_cons] at nothing
      rw [List.flatMap_cons, ← ih nothing.2, List.filter_cons]
      cases kept : keep item with
      | true => rfl
      | false =>
          rw [nothing.1 kept]
          rfl

namespace Listing

theorem pieces_of_unquoted {line : List Char} (unquoted : ∀ c ∈ line, isQuote c = false) :
    pieces false line = cut (· == ' ') line := by
  induction line with
  | nil => rfl
  | cons c rest ih =>
      rw [List.forall_mem_cons] at unquoted
      rw [pieces, cut, unquoted.1, ih unquoted.2, Bool.not_false, Bool.and_true]
      rfl

/-- An instruction that is read alone comes from one line of its text, and all words are on that line. -/
theorem line_of_read {text : List Char} {instruction : Instruction} (read : Listing.read text = .ok [instruction]) :
    ∃ (line : List Char) (op : Opcode) (args : List (List Char)), words line = op.name.toList :: args ∧
      instruction = .of op (args.map Value.ofWord) ∧ Text.words text = Text.words line ∧ ∀ c ∈ line, c ∈ text := by
  have lines := forall₂_of_mapM_eq_ok read
  generalize significant : significantLines text = found at lines
  cases lines with
  | @cons line _ others _ first rest =>
      cases rest
      obtain ⟨op, args, split, denoted⟩ := (readLine_eq_ok first).2
      have blank : ∀ c : Char, (c == '\n') = true → isBlank c = true := by
        intro c newline
        rw [beq_iff_eq.mp newline]
        decide
      have member : line ∈ cut (· == '\n') text := by
        have among : line ∈ significantLines text := by rw [significant]; exact List.mem_singleton_self line
        exact (List.mem_filter.mp among).1
      refine ⟨line, op, args, by rw [words_eq_tokens, split], denoted, ?_, ?_⟩
      · have blanks : ∀ other ∈ cut (· == '\n') text, (other.any fun c => !isBlank c) = false →
            Text.words other = [] := by
          intro other _ blankLine
          apply words_of_blanks
          simpa using blankLine
        rw [words_eq_flatMap_cut blank, ← flatMap_filter_of_nil blanks]
        change (significantLines text).flatMap Text.words = _
        rw [significant, List.flatMap_singleton]
      · exact fun c inside => (mem_of_mem_cut member inside).1

/-- Without quote marks a listing only cuts at fewer blanks. -/
theorem words_of_unquoted {line : List Char} (unquoted : ∀ c ∈ line, isQuote c = false) :
    Text.words line = (words line).flatMap Text.words := by
  have blank : ∀ c : Char, (c == ' ') = true → isBlank c = true := by
    intro c space
    rw [beq_iff_eq.mp space]
    decide
  have empty : ∀ piece ∈ cut (· == ' ') line, (!piece.isEmpty) = false → Text.words piece = [] := by
    intro piece _ nothing
    obtain rfl : piece = [] := by simpa using nothing
    rfl
  rw [words_eq_flatMap_cut blank, ← flatMap_filter_of_nil empty, words, pieces_of_unquoted unquoted]

end Listing

/-- Cutting words at further blanks does not change what they denote if and only if none of them denotes a text with
a blank. -/
theorem ofWord_of_words_iff {args : List (List Char)} (some_ : ∀ arg ∈ args, arg ≠ []) :
    (args.flatMap words).map Value.ofWord = args.map Value.ofWord ↔
      ∀ text, .text text ∈ args.map Value.ofWord → ∀ c ∈ text.toList, isBlank c = false := by
  constructor
  · intro same text denoted
    rw [← same] at denoted
    obtain ⟨word, among, denotes⟩ := List.mem_map.mp denoted
    obtain ⟨arg, -, member⟩ := List.mem_flatMap.mp among
    have isText : (Value.ofWord word).text? = some text := by rw [denotes]; rfl
    have spelt := Value.ofWord_of_text? isText
    obtain rfl := Value.text.inj (spelt.symm.trans denotes)
    rw [String.toList_ofList]
    exact (solid_of_mem_words member).2
  · intro solid
    induction args with
    | nil => rfl
    | cons arg args ih =>
        rw [List.forall_mem_cons] at some_
        have later := ih some_.2 fun text denoted => solid text (List.mem_cons_of_mem _ denoted)
        have first : (words arg).map Value.ofWord = [Value.ofWord arg] := by
          cases denoted : (Value.ofWord arg).text? with
          | none =>
              obtain ⟨one, same⟩ := Value.words_of_number denoted
              rw [one, List.map_singleton, same]
          | some text =>
              have spelt := Value.ofWord_of_text? denoted
              have whole := solid (String.ofList arg) (by rw [List.map_cons, spelt]; exact List.mem_cons_self)
              rw [String.toList_ofList] at whole
              rw [words_of_all some_.1 whole, List.map_singleton]
        rw [List.flatMap_cons, List.map_append, first, later, List.map_cons, List.singleton_append]

namespace Debugger

namespace Functions

theorem spelled?_eq_some_iff {argument : List Char} {instruction : Instruction} :
    spelled? argument = some instruction ↔ ∃ (op : Opcode) (args : List (List Char)),
      words argument = op.name.toList :: args ∧ instruction = .of op (args.map Value.ofWord) := by
  constructor
  · intro spelled
    obtain ⟨word, args, op, split, named, rfl⟩ := exists_of_spelled? spelled
    refine ⟨op, args, ?_, rfl⟩
    rw [split, ← Opcode.ofName?_eq_some_iff.mp named, String.toList_ofList]
  · rintro ⟨op, args, split, rfl⟩
    unfold spelled?
    rw [split]
    dsimp only
    rw [String.ofList_toList, op.ofName?_name]
    rfl

/-- Quote marks stay where they are in what an `exec` spells, and there are none in what a listing gives. -/
theorem unquoted_of_spelled? {text argument : List Char} {instruction : Instruction}
    (read : Listing.read text = .ok [instruction]) (same : words argument = words text)
    (spelled : spelled? argument = some instruction) : ∀ c ∈ text, Listing.isQuote c = false := by
  intro mark inside
  cases quote : Listing.isQuote mark with
  | false => rfl
  | true =>
      have solid : isBlank mark = false := by
        rcases Bool.or_eq_true_iff.mp quote with single | double
        · rw [beq_iff_eq.mp single]
          decide
        · rw [beq_iff_eq.mp double]
          decide
      obtain ⟨word, member, among⟩ := exists_mem_words inside solid
      obtain ⟨op, args, split, rfl⟩ := spelled?_eq_some_iff.mp spelled
      have whole := (solid_of_mem_words member).2
      rw [← same, split] at member
      rcases List.mem_cons.mp member with rfl | later
      · exact quote.symm.trans (op.legible_name.isQuote_eq_false mark among)
      · have denoted := Value.ofWord_of_quoted whole among quote
        have given : .text (String.ofList word) ∈ args.map Value.ofWord :=
          List.mem_map.mpr ⟨word, later, denoted⟩
        have readable := Listing.readable_of_read read _ (List.mem_singleton_self _)
        have legible := (readable.legible given).isQuote_eq_false mark
        rw [String.toList_ofList] at legible
        exact quote.symm.trans (legible among)

/-- An `exec` spells what the same text gives as a listing if and only if nothing in it is quoted and no text of the
instruction has a blank. -/
theorem spelled?_iff {text argument : List Char} {instruction : Instruction}
    (read : Listing.read text = .ok [instruction]) (same : words argument = words text) :
    spelled? argument = some instruction ↔ (∀ c ∈ text, Listing.isQuote c = false) ∧
      ∀ arg, .text arg ∈ instruction.args → ∀ c ∈ arg.toList, isBlank c = false := by
  have unquoted := unquoted_of_spelled? read same
  obtain ⟨line, op, args, split, rfl, onLine, within⟩ := Listing.line_of_read read
  have some_ : ∀ arg ∈ args, arg ≠ [] := by
    intro arg member
    have among : arg ∈ Listing.words line := by rw [split]; exact List.mem_cons_of_mem _ member
    simpa using (List.mem_filter.mp among).2
  have nameWords : words op.name.toList = [op.name.toList] := by
    refine words_of_all ?_ op.isBlank_of_mem_name
    intro empty
    exact op.legible_name.ne_empty (String.toList_inj.mp empty)
  -- Once nothing is quoted, the listing has only left blanks in its words at which an `exec` goes on cutting.
  have spelt (unquoted : ∀ c ∈ text, Listing.isQuote c = false) :
      words argument = op.name.toList :: args.flatMap words := by
    rw [same, onLine, Listing.words_of_unquoted fun c inside => unquoted c (within c inside), split,
      List.flatMap_cons, nameWords, List.singleton_append]
  constructor
  · intro spelled
    refine ⟨unquoted spelled, (ofWord_of_words_iff some_).mp ?_⟩
    obtain ⟨other, others, splitThere, denoted⟩ := spelled?_eq_some_iff.mp spelled
    obtain ⟨-, rfl⟩ := List.cons.inj ((spelt (unquoted spelled)).symm.trans splitThere)
    exact (congrArg Instruction.args denoted).symm
  · rintro ⟨unquoted, solid⟩
    refine spelled?_eq_some_iff.mpr ⟨op, _, spelt unquoted, ?_⟩
    rw [(ofWord_of_words_iff some_).mpr solid]

theorem exists_solid_of_read {text : List Char} {instruction : Instruction}
    (read : Listing.read text = .ok [instruction]) : ∃ c ∈ text, isBlank c = false := by
  obtain ⟨line, op, args, split, -, -, within⟩ := Listing.line_of_read read
  have name : op.name.toList ∈ Listing.words line := by rw [split]; exact List.mem_cons_self
  cases letters : op.name.toList with
  | nil => exact absurd (String.toList_inj.mp letters) op.legible_name.ne_empty
  | cons c rest =>
      have first : c ∈ op.name.toList := by rw [letters]; exact List.mem_cons_self
      have inside := (Listing.mem_of_mem_pieces (List.mem_filter.mp name).1 first).1
      exact ⟨c, within c inside, op.isBlank_of_mem_name c first⟩

/-- What follows the word of the command is its argument, up to blanks around it. -/
theorem parse?_exec {text : List Char} (solid : ∃ c ∈ text, isBlank c = false) :
    ∃ argument, CommandLine.parse? ("exec ".toList ++ text) = some ⟨.exec, argument⟩ ∧
      words argument = words text := by
  refine ⟨(text.rdropWhile isBlank).dropWhile isBlank, ?_, ?_⟩
  · have trimmed : trim ("exec ".toList ++ text) = "exec ".toList ++ text.rdropWhile isBlank :=
      rdropWhile_append_of_exists solid "exec ".toList
    rw [CommandLine.parse?, trimmed]
    rfl
  · have blank : ∀ c : Char, isBlank c = true → isBlank c = true := fun _ same => same
    rw [words_dropWhile blank, words_rdropWhile blank]

theorem command?_of_waiting {state : State} {line : String} {rest : List Keystroke}
    (waiting : state.script = .line line :: rest) : frontend.command? state = CommandLine.parse? line.toList := by
  have answered : (frontend.read state).2 = .ok line := by
    rcases state.console.terminal.read_cases (if state.settings.interactive then "xvm > " else "") with
      ⟨after, other, read, waitingThere⟩ | ⟨after, fault, read, -, never⟩
    · obtain ⟨same, -⟩ := List.cons.inj (waiting.symm.trans waitingThere)
      obtain rfl := Keystroke.line.inj same
      simp only [frontend, Console.readLine, read]
    · exact absurd waiting (never line rest)
  rw [Frontend.command?, answered]

/-- Whether a run goes on from an instruction as from one that has been tried. It moves on after it. -/
inductive Progress.Repeats (tried : State × Option Fault) : Progress → Prop where
  | moved {next : State} {instruction : Instruction} (carried : tried.2 = none)
      (same : next.machine = tried.1.moveOn.machine) : Repeats tried (.moved next instruction)
  | stopped {next : State} {fault : Fault} (failed : tried.2 = some fault)
      (same : next.machine = tried.1.machine) : Repeats tried (.stopped next fault)

section

variable {state : State} {instruction : Instruction}

theorem machine_of_settleAttempt (word : List Char) (tried : State × Option Fault) :
    (settleAttempt word tried).state.machine = tried.1.machine := by
  unfold settleAttempt settleExec
  cases tried.2 with
  | none => rfl
  | some fault =>
      dsimp only
      split <;> rfl

/-- The console does not matter to an instruction that reads nothing. -/
theorem repeats_of_fetch? {function : Function} (fetched : state.fetch? = some (function, instruction))
    (silent : instruction.reads = false) (lead : String) (echo : Bool) :
    (advance lead echo state).Repeats (state.attempt instruction) := by
  obtain ⟨active, -, -⟩ := State.fetch?_eq_some fetched
  obtain ⟨machine, fault⟩ := Machine.execute_of_silent function.labels state.machine silent state.console
    (state.executing instruction).console
  rw [advance_of_fetch? fetched silent, State.attempt, active]
  cases failed : (state.execute function instruction).fault with
  | none =>
      refine .moved (fault.symm.trans failed) ?_
      exact congrArg (fun machine : Machine => { machine with ip := machine.ip + 1 }) machine
  | some trouble => exact .stopped (fault.symm.trans failed) machine

end

/-- A line that a listing gives one instruction for is the argument of an `exec`. What the `exec` spells is tried, and
that is the instruction of the listing if and only if the line has no quote mark and no text of the instruction has a
blank. Trying an instruction does what carrying it out in the program does, unless it reads: an `exec` asks for no
answer. The arguments have to have keys: one that is no number is another object in an `exec` than in the program, and
tables here do not look for objects (`Table.store`). -/
theorem exec_spells_unless_quoted_or_blank (state : State) (line : String) (rest : List Keystroke)
    (instruction : Instruction) (waiting : state.script = .line ("exec " ++ line) :: rest)
    (read : Listing.read line.toList = .ok [instruction]) :
    let asked := (frontend.read state).1
    ∃ argument, frontend.command? state = some ⟨.exec, argument⟩ ∧
      (∀ spelt, spelled? argument = some spelt →
        (∃ word, frontend.turn state = settleAttempt word (asked.attempt spelt)) ∧
        (frontend.turn state).state.machine = (asked.attempt spelt).1.machine) ∧
      (spelled? argument = some instruction ↔ (∀ c ∈ line.toList, Listing.isQuote c = false) ∧
        ∀ text, .text text ∈ instruction.args → ∀ c ∈ text.toList, isBlank c = false) ∧
      (instruction.reads = false → (∀ arg ∈ instruction.args, arg.key?.isSome = true) →
        ∀ function, asked.fetch? = some (function, instruction) → ∀ lead echo,
          (advance lead echo asked).Repeats (asked.attempt instruction)) := by
  intro asked
  obtain ⟨argument, parsed, same⟩ := parse?_exec (exists_solid_of_read read)
  have given : frontend.command? state = some ⟨.exec, argument⟩ := by
    rw [command?_of_waiting waiting, String.toList_append, parsed]
  have turned : frontend.turn state = exec asked argument := frontend.turn_of_command? given
  refine ⟨argument, given, ?_, spelled?_iff read same, ?_⟩
  · intro spelt spelled
    obtain ⟨word, tried⟩ := exec_of_spelled? asked spelled
    rw [turned, tried]
    exact ⟨⟨word, rfl⟩, machine_of_settleAttempt word _⟩
  · exact fun silent _ function fetched => repeats_of_fetch? fetched silent

/-- A prompt at which the instruction of the program is given once more, with its number between blanks. -/
def pushingAgain : State :=
  let start := opening ⟨false, true, .adaptive, 10⟩ ⟨[]⟩ { script := [.line ("exec " ++ "LOAD_CONST  \t7\t")] }
  { start with program := ⟨[("$entrypoint$", .linked ⟨[.of .loadConst [.int 7]], .empty⟩)]⟩ }

theorem exec_spells_unless_quoted_or_blank_pushing :
    let asked := (frontend.read pushingAgain).1
    let pushing := Instruction.of .loadConst [.int 7]
    ∃ function argument, asked.fetch? = some (function, pushing) ∧
      frontend.command? pushingAgain = some ⟨.exec, argument⟩ ∧ spelled? argument = some pushing ∧
      (frontend.turn pushingAgain).state.machine = (asked.attempt pushing).1.machine ∧
      (advance "" false asked).Repeats (asked.attempt pushing) := by
  intro asked pushing
  have read : Listing.read "LOAD_CONST  \t7\t".toList = .ok [pushing] := rfl
  have plain : ("LOAD_CONST  \t7\t".toList.all fun c => !Listing.isQuote c) = true := by decide
  have unquoted : ∀ c ∈ "LOAD_CONST  \t7\t".toList, Listing.isQuote c = false := by
    intro c inside
    simpa using List.all_eq_true.mp plain c inside
  have numbers : ∀ text, .text text ∈ pushing.args → ∀ c ∈ text.toList, isBlank c = false := by
    intro text member
    cases List.mem_singleton.mp member
  obtain ⟨argument, given, tries, spells, repeats⟩ :=
    exec_spells_unless_quoted_or_blank pushingAgain _ [] pushing rfl read
  have spelled := spells.mpr ⟨unquoted, numbers⟩
  have keyed : ∀ arg ∈ pushing.args, arg.key?.isSome = true := by decide
  exact ⟨⟨[pushing], .empty⟩, argument, rfl, given, spelled, (tries _ spelled).2, repeats rfl keyed _ rfl "" false⟩

/-- A line can give an instruction in a listing that the same `exec` does not spell. -/
theorem exec_misspells_quoted :
    ¬ ∀ (settings : Settings) (files : FileStore) (terminal : Terminal) (turns : Nat) (state : State) (line : String)
        (rest : List Keystroke) (instruction : Instruction), settings.link = true →
      frontend.promptAfter turns (opening settings files terminal) = some state →
      state.script = .line ("exec " ++ line) :: rest → Listing.read line.toList = .ok [instruction] →
      ∃ argument, frontend.command? state = some ⟨.exec, argument⟩ ∧ spelled? argument = some instruction := by
  intro same
  let quoting : Terminal := { script := [.line ("exec " ++ "LOAD_CONST \"a\"")] }
  have read : Listing.read "LOAD_CONST \"a\"".toList = .ok [.of .loadConst [.text "a"]] := rfl
  obtain ⟨argument, given, spelled⟩ := same ⟨false, true, .adaptive, 10⟩ ⟨[]⟩ quoting 0 _
    "LOAD_CONST \"a\"" [] _ rfl rfl rfl read
  have quoted : frontend.command? (opening ⟨false, true, .adaptive, 10⟩ ⟨[]⟩ quoting) =
      some ⟨.exec, "LOAD_CONST \"a\"".toList⟩ := by decide +kernel
  have spelt : spelled? "LOAD_CONST \"a\"".toList = some (.of .loadConst [.text "\"a\""]) := rfl
  obtain rfl : "LOAD_CONST \"a\"".toList = argument :=
    congrArg CommandLine.argument (Option.some.inj (quoted.symm.trans given))
  have arguments := congrArg Instruction.args (Option.some.inj (spelt.symm.trans spelled))
  obtain ⟨text, -⟩ := List.cons.inj arguments
  exact absurd (Value.text.inj text) (by decide)

end Functions

end Debugger

end StackMachine

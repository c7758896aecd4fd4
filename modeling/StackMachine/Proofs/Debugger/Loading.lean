import StackMachine.Proofs.Debugger.Continuation
import StackMachine.Proofs.Listing.Reading
import StackMachine.Proofs.Machine.OperandFault

/-!
Loads that do not install a program. A load without a path, one that finds no file and one whose file is no text are
reported and change nothing. A file whose text has a body that cannot be read is announced as loaded, and then its fault
leaves the debugger (`load_harmless_unless_body_rejected`).
-/

set_option autoImplicit false

namespace StackMachine

theorem mapM_eq_error_of_first {α β : Type} {f : α → Except Fault β} {before after : List α} {item : α} {fault : Fault}
    (passed : ∀ earlier ∈ before, ∃ result, f earlier = .ok result) (failed : f item = .error fault) :
    (before ++ item :: after).mapM f = .error fault := by
  induction before with
  | nil =>
      rw [List.nil_append, List.mapM_cons, failed]
      rfl
  | cons earlier before ih =>
      obtain ⟨⟨result, first⟩, later⟩ := List.forall_mem_cons.mp passed
      rw [List.cons_append, List.mapM_cons, first, ih later]
      rfl

theorem mapM_eq_error_of_mem {α β : Type} {f : α → Except Fault β} {items : List α} {item : α} {fault : Fault}
    (member : item ∈ items) (failed : f item = .error fault) : ∃ first, items.mapM f = .error first := by
  induction items with
  | nil => cases member
  | cons head items ih =>
      rw [List.mapM_cons]
      cases first : f head with
      | error other => exact ⟨other, rfl⟩
      | ok result =>
          rcases List.mem_cons.mp member with rfl | member
          · rw [first] at failed
            cases failed
          · obtain ⟨other, later⟩ := ih member
            rw [later]
            exact ⟨other, rfl⟩

namespace Program

/-- The first body of a source that cannot be read, and the fault that it has. -/
inductive Rejects (link : Bool) (text : List Char) (fault : Fault) : Prop where
  | intro {before after : List (String × List Char)} {name : String} {body : List Char}
      (bodies : Source.bodies text = before ++ (name, body) :: after)
      (passed : ∀ earlier ∈ before, ∃ read, readBody link earlier.2 = .ok read)
      (failed : readBody link body = .error fault)

def readNamed (link : Bool) (named : String × List Char) : Except Fault (String × Body) := do
  let body ← readBody link named.2
  return (named.1, body)

theorem read_eq_readNamed (link : Bool) (text : List Char) :
    Program.read link text = ((Source.bodies text).mapM (readNamed link)).map Program.mk := by
  unfold Program.read
  change (Source.bodies text).mapM (readNamed link) >>= _ = _
  cases (Source.bodies text).mapM (readNamed link) <;> rfl

theorem readNamed_eq_error_iff {link : Bool} {named : String × List Char} {fault : Fault} :
    readNamed link named = .error fault ↔ readBody link named.2 = .error fault := by
  unfold readNamed
  cases readBody link named.2 with
  | ok body => exact ⟨nofun, nofun⟩
  | error other => exact ⟨fun failed => congrArg _ (Except.error.inj failed),
      fun failed => congrArg _ (Except.error.inj failed)⟩

theorem exists_readNamed_iff {link : Bool} {named : String × List Char} :
    (∃ result, readNamed link named = .ok result) ↔ ∃ body, readBody link named.2 = .ok body := by
  unfold readNamed
  cases readBody link named.2 with
  | ok body => exact ⟨fun _ => ⟨body, rfl⟩, fun _ => ⟨(named.1, body), rfl⟩⟩
  | error other => exact ⟨nofun, nofun⟩

theorem read_eq_error_iff {link : Bool} {text : List Char} {fault : Fault} :
    Program.read link text = .error fault ↔ Rejects link text fault := by
  rw [read_eq_readNamed]
  constructor
  · intro failed
    obtain ⟨before, ⟨name, body⟩, after, split, passed, first⟩ := exists_of_mapM_eq_error (eq_error_of_map failed)
    refine .intro split ?_ (readNamed_eq_error_iff.mp first)
    intro earlier member
    exact exists_readNamed_iff.mp (passed earlier member)
  · rintro ⟨bodies, passed, failed⟩
    rw [bodies, mapM_eq_error_of_first (fun earlier member => exists_readNamed_iff.mpr (passed earlier member))
      (readNamed_eq_error_iff.mpr failed)]
    rfl

/-- A source with a body that cannot be read is rejected, though the fault may be that of a body before it. -/
theorem rejects_of_mem {link : Bool} {text : List Char} {named : String × List Char} {fault : Fault}
    (member : named ∈ Source.bodies text) (unread : readBody link named.2 = .error fault) :
    ∃ first, Rejects link text first := by
  obtain ⟨first, failed⟩ := mapM_eq_error_of_mem member (readNamed_eq_error_iff.mpr unread)
  refine ⟨first, read_eq_error_iff.mp ?_⟩
  rw [read_eq_readNamed, failed]
  rfl

end Program

namespace Debugger.Functions

/-- A load that is reported as failed, and the words of the report. -/
inductive Declines (files : FileStore) (argument : List Char) : String → Prop where
  | unnamed (none : argument = []) : Declines files argument "Usage: load <path>"
  | missing (given : argument ≠ []) (nothing : files.lookup (bareFileName (Text.trim argument)) = .ok none) :
      Declines files argument "File not found"
  | undecoded {bytes : List UInt8} {fault : Fault} (given : argument ≠ [])
      (found : files.lookup (bareFileName (Text.trim argument)) = .ok (some bytes))
      (undecoded : fileText bytes = .error fault) :
      Declines files argument ("\nFailed to read file: " ++ fault.message)

/-- A load whose fault leaves the debugger, and what it has written by then. -/
inductive Breaks (link : Bool) (files : FileStore) (argument : List Char) : List String → Fault → Prop where
  | unreachable {fault : Fault} (given : argument ≠ [])
      (failed : files.lookup (bareFileName (Text.trim argument)) = .error fault) :
      Breaks link files argument [] fault
  | rejected {bytes : List UInt8} {text : List Char} {fault : Fault} (given : argument ≠ [])
      (found : files.lookup (bareFileName (Text.trim argument)) = .ok (some bytes))
      (decoded : fileText bytes = .ok text) (rejects : Program.Rejects link text fault) :
      Breaks link files argument ["\nFile loaded succesfully"] fault

inductive Installs (link : Bool) (files : FileStore) (argument : List Char) (program : Program) : Prop where
  | intro {bytes : List UInt8} {text : List Char} (given : argument ≠ [])
      (found : files.lookup (bareFileName (Text.trim argument)) = .ok (some bytes))
      (decoded : fileText bytes = .ok text) (read : Program.read link text = .ok program)

section

variable {state : State} {argument : List Char}

theorem load_of_declines {message : String} (declines : Declines state.files argument message) :
    load state argument = .prompt (state.say message) := by
  cases declines with
  | unnamed none => rw [load, none, List.isEmpty_nil, if_pos rfl]
  | missing given nothing => simp only [load, List.isEmpty_iff, if_neg given, nothing]
  | undecoded given found undecoded => simp only [load, List.isEmpty_iff, if_neg given, found, undecoded]

theorem load_of_breaks {said : List String} {fault : Fault}
    (breaks : Breaks state.settings.link state.files argument said fault) :
    load state argument = .failed (said.foldl State.say state) fault := by
  cases breaks with
  | unreachable given failed => simp only [load, List.isEmpty_iff, if_neg given, failed, List.foldl_nil]
  | rejected given found decoded rejects =>
      have unread : Program.read (state.say "\nFile loaded succesfully").settings.link _ = .error fault :=
        Program.read_eq_error_iff.mpr rejects
      simp only [load, List.isEmpty_iff, if_neg given, found, decoded, unread, List.foldl_cons, List.foldl_nil]

theorem load_of_installs {program : Program} (installs : Installs state.settings.link state.files argument program) :
    load state argument = .prompt { state.say "\nFile loaded succesfully" with program, machine := {} } := by
  obtain ⟨given, found, decoded, read⟩ := installs
  have readThere : Program.read (state.say "\nFile loaded succesfully").settings.link _ = .ok program := read
  simp only [load, List.isEmpty_iff, if_neg given, found, decoded, readThere]

end

theorem load_cases (link : Bool) (files : FileStore) (argument : List Char) :
    (∃ message, Declines files argument message) ∨ (∃ said fault, Breaks link files argument said fault) ∨
      ∃ program, Installs link files argument program := by
  by_cases given : argument = []
  · exact .inl ⟨_, .unnamed given⟩
  · cases found : files.lookup (bareFileName (Text.trim argument)) with
    | error fault => exact .inr (.inl ⟨_, _, .unreachable given found⟩)
    | ok content =>
        cases content with
        | none => exact .inl ⟨_, .missing given found⟩
        | some bytes =>
            cases decoded : fileText bytes with
            | error fault => exact .inl ⟨_, .undecoded given found decoded⟩
            | ok text =>
                cases read : Program.read link text with
                | error fault =>
                    exact .inr (.inl ⟨_, _, .rejected given found decoded (Program.read_eq_error_iff.mp read)⟩)
                | ok program => exact .inr (.inr ⟨program, .intro given found decoded read⟩)

/-- A `load` that is given at a prompt. Without a path, without a file and with a file that is no text it is reported,
and the next prompt comes with the same program and the same machine. If a body of the text cannot be read, the session
ends with the fault of the first such body, after the file has been announced as loaded. It ends as well where a name
on the path is longer than any file's. Every other load installs a program. -/
theorem load_harmless_unless_body_rejected (settings : Settings) (files : FileStore) (terminal : Terminal)
    (turns : Nat) (state : State) (argument : List Char)
    (reached : frontend.promptAfter turns (opening settings files terminal) = some state)
    (given : frontend.command? state = some ⟨.load, argument⟩) :
    let asked := (frontend.read state).1
    (∀ message, Declines files argument message →
      frontend.turn state = .prompt (asked.say message) ∧ (asked.say message).machine = state.machine ∧
        (asked.say message).program = state.program) ∧
    (∀ said fault, Breaks settings.link files argument said fault →
      session settings files terminal = (said.foldl State.say asked, .failed fault)) ∧
    (∀ bytes text, argument ≠ [] → files.lookup (bareFileName (Text.trim argument)) = .ok (some bytes) →
      fileText bytes = .ok text →
      (∃ named ∈ Source.bodies text, ∃ fault, Program.readBody settings.link named.2 = .error fault) →
      ∃ fault, session settings files terminal = (asked.say "\nFile loaded succesfully", .failed fault)) ∧
    ((∀ message, ¬ Declines files argument message) →
      (∀ said fault, ¬ Breaks settings.link files argument said fault) →
      ∃ program, Installs settings.link files argument program ∧
        frontend.turn state = .prompt { asked.say "\nFile loaded succesfully" with program, machine := {} }) := by
  intro asked
  obtain ⟨sameSettings, sameFiles, -⟩ := promptAfter_onward reached
  have settingsThere : state.settings = settings := sameSettings
  have filesThere : state.files = files := sameFiles
  subst settings files
  have turned : frontend.turn state = load asked argument := frontend.turn_of_command? given
  have breaksOff : ∀ said fault, Breaks state.settings.link state.files argument said fault →
      session state.settings state.files terminal = (said.foldl State.say asked, .failed fault) :=
    fun _ _ breaks => session_of_failed reached (turned.trans (load_of_breaks breaks))
  refine ⟨?_, breaksOff, ?_, ?_⟩
  · intro message declines
    exact ⟨turned.trans (load_of_declines declines), rfl, rfl⟩
  · rintro bytes text given found decoded ⟨named, member, fault, unread⟩
    obtain ⟨first, rejects⟩ := Program.rejects_of_mem member unread
    exact ⟨first, breaksOff _ _ (.rejected given found decoded rejects)⟩
  · intro heard kept
    rcases load_cases state.settings.link state.files argument with
      ⟨_, declines⟩ | ⟨_, _, breaks⟩ | ⟨program, installs⟩
    · exact absurd declines (heard _)
    · exact absurd breaks (kept _ _)
    · exact ⟨program, installs, turned.trans (load_of_installs installs)⟩

private theorem exists_unread {link : Bool} {text : List Char}
    (unread : (Source.bodies text).any (fun named => (Program.readBody link named.2).toOption.isNone) = true) :
    ∃ named ∈ Source.bodies text, ∃ fault, Program.readBody link named.2 = .error fault := by
  obtain ⟨named, member, nothing⟩ := List.any_eq_true.mp unread
  exact ⟨named, member, exists_error_of_toOption (Option.isNone_iff_eq_none.mp nothing)⟩

def rejectedSource : String :=
  "function \"$entrypoint$\"\nLOAD_CONST 1\nfunction \"f\"\nLOAD_CONST 2\nNOP"

/-- A program, a file that is no text, and a source whose second body has a line that is no instruction. -/
def mixedFiles : FileStore :=
  ((FileStore.add ⟨[]⟩ "p" (String.toUTF8 "function \"$entrypoint$\"\nLOAD_CONST 1").toList).add "r" [255]).add "q"
    (String.toUTF8 rejectedSource).toList

/-- With a program that has been stepped through, the load of what is no text is reported and changes nothing. The load
that is given at the next prompt ends the session. -/
theorem load_harmless_unless_body_rejected_mixed :
    let settings : Settings := ⟨false, true, .adaptive, 10⟩
    let terminal : Terminal := { script := [.line "load p", .line "step", .line "load r", .line "load q"] }
    ∃ (state next final : State) (fault : Fault),
      frontend.promptAfter 2 (opening settings mixedFiles terminal) = some state ∧ state.machine.ip = 1 ∧
      frontend.command? state = some ⟨.load, ['r']⟩ ∧ frontend.turn state = .prompt next ∧
      next.machine = state.machine ∧ next.program = state.program ∧
      frontend.command? next = some ⟨.load, ['q']⟩ ∧ session settings mixedFiles terminal = (final, .failed fault) := by
  intro settings terminal
  have before : ((frontend.promptAfter 2 (opening settings mixedFiles terminal)).map fun state =>
      (state.machine.ip, frontend.command? state)) = some (1, some ⟨.load, ['r']⟩) := by decide +kernel
  have after : ((frontend.promptAfter 3 (opening settings mixedFiles terminal)).map frontend.command?) =
      some (some ⟨.load, ['q']⟩) := by decide +kernel
  have found : (mixedFiles.lookup (bareFileName (Text.trim ['r']))).toOption = some (some [255]) := by decide +kernel
  have foundNext : (mixedFiles.lookup (bareFileName (Text.trim ['q']))).toOption =
      some (some (String.toUTF8 rejectedSource).toList) := by decide +kernel
  have decoded : (fileText (String.toUTF8 rejectedSource).toList).toOption = some rejectedSource.toList := by
    decide +kernel
  obtain ⟨state, reached, same⟩ := Option.map_eq_some_iff.mp before
  obtain ⟨pointer, given⟩ := Prod.mk.inj same
  obtain ⟨next, later, givenNext⟩ := Option.map_eq_some_iff.mp after
  obtain ⟨fault, undecoded⟩ := @exists_error_of_toOption _ (fileText [255]) (by decide +kernel)
  obtain ⟨reported, -⟩ := load_harmless_unless_body_rejected settings mixedFiles terminal 2 state _ reached given
  obtain ⟨turned, machine, program⟩ := reported _ (.undecoded (by decide) (eq_ok_of_toOption found) undecoded)
  obtain rfl : next = _ := Option.some.inj (later.symm.trans (frontend.promptAfter_succ reached turned))
  obtain ⟨-, -, ends, -⟩ := load_harmless_unless_body_rejected settings mixedFiles terminal 3 _ _ later givenNext
  obtain ⟨other, ended⟩ := ends _ _ (by decide) (eq_ok_of_toOption foundNext) (eq_ok_of_toOption decoded)
    (exists_unread (by decide +kernel))
  exact ⟨state, _, _, other, reached, pointer, given, turned, machine, program, givenNext, ended⟩

def unreadableSource : String :=
  "function \"$entrypoint$\"\nLOAD_CONST 1\nNOP"

/-- A load of a source with a body that cannot be read does not come back to the prompt. -/
theorem load_left_by_rejected_body :
    ¬ ∀ (settings : Settings) (files : FileStore) (terminal : Terminal) (turns : Nat) (state : State)
        (argument : List Char) (bytes : List UInt8) (text : List Char), settings.link = true →
      frontend.promptAfter turns (opening settings files terminal) = some state →
      frontend.command? state = some ⟨.load, argument⟩ → argument ≠ [] →
      files.lookup (bareFileName (Text.trim argument)) = .ok (some bytes) → fileText bytes = .ok text →
      (∃ named ∈ Source.bodies text, ∃ fault, Program.readBody settings.link named.2 = .error fault) →
      ∃ next, frontend.turn state = .prompt next ∧ next.machine = state.machine ∧ next.program = state.program := by
  intro harmless
  let files : FileStore := FileStore.add ⟨[]⟩ "p" (String.toUTF8 unreadableSource).toList
  let start := opening ⟨false, true, .adaptive, 10⟩ files { script := [.line "load p"] }
  have found : (files.lookup (bareFileName (Text.trim ['p']))).toOption =
      some (some (String.toUTF8 unreadableSource).toList) := by decide +kernel
  have decoded : (fileText (String.toUTF8 unreadableSource).toList).toOption = some unreadableSource.toList := by
    decide +kernel
  have given : frontend.command? start = some ⟨.load, ['p']⟩ := by decide +kernel
  have ended : (frontend.promptAfter 1 start).isNone = true := by decide +kernel
  obtain ⟨next, turned, -⟩ := harmless _ files _ 0 start _ _ _ rfl rfl given (by decide) (eq_ok_of_toOption found)
    (eq_ok_of_toOption decoded) (exists_unread (by decide +kernel))
  have prompted : frontend.promptAfter 1 start = some next := frontend.promptAfter_succ rfl turned
  rw [prompted] at ended
  cases ended

end Debugger.Functions

end StackMachine

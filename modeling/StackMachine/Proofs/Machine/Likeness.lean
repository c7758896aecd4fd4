import StackMachine.Machine

/-!
Machines that differ only in where they are. Their own instruction pointer and the ones that they have saved may be
different, and all else is the same. An instruction does the same to both: what it takes, prints and raises is the
same, and the machines stay alike (`execute_alike`). For whoever keeps a place of their own and fetches by it, such
machines are one.
-/

set_option autoImplicit false

namespace StackMachine

structure Machine.Alike (machine twin : Machine) : Prop where
  stack : machine.stack = twin.stack
  bindings : machine.bindings = twin.bindings
  frames : machine.frames = twin.frames
  current : machine.current = twin.current
  functions : machine.saved.map ReturnPoint.function = twin.saved.map ReturnPoint.function

/-- Outcomes with machines that are alike, on the same console and with the same fault. -/
inductive Outcome.Alike : Outcome → Outcome → Prop where
  | intro {machine twin : Machine} (alike : machine.Alike twin) (console : Console) (fault : Option Fault) :
      Alike ⟨machine, console, fault⟩ ⟨twin, console, fault⟩

theorem Machine.Alike.refl (machine : Machine) : machine.Alike machine :=
  ⟨rfl, rfl, rfl, rfl, rfl⟩

namespace Outcome.Alike

variable {machine twin : Machine}

theorem done (alike : machine.Alike twin) (console : Console) :
    Outcome.Alike (.done machine console) (.done twin console) :=
  .intro alike console none

theorem fail (alike : machine.Alike twin) (console : Console) (fault : Fault) :
    Outcome.Alike (.fail machine console fault) (.fail twin console fault) :=
  .intro alike console (some fault)

theorem pop (alike : machine.Alike twin) (console : Console) {next : Value → Machine → Outcome}
    (onward : ∀ (value : Value) (machine twin : Machine), machine.Alike twin →
      Outcome.Alike (next value machine) (next value twin)) :
    Outcome.Alike (machine.pop console next) (twin.pop console next) := by
  unfold Machine.pop
  rw [alike.stack]
  cases twin.stack with
  | nil => exact fail alike console .emptyPop
  | cons value rest => exact onward value _ _ { alike with stack := rfl }

theorem push (alike : machine.Alike twin) (console : Console) (value : Value) :
    Outcome.Alike (.done (machine.push value) console) (.done (twin.push value) console) := by
  refine done ?_ console
  exact { alike with stack := congrArg (value :: ·) alike.stack }

theorem deliver (alike : machine.Alike twin) (console : Console) (result : Except Fault Value) :
    Outcome.Alike (machine.deliver console result) (twin.deliver console result) := by
  cases result with
  | error fault => exact fail alike console fault
  | ok value => exact push alike console value

theorem unary (alike : machine.Alike twin) (console : Console) (apply : Value → Except Fault Value) :
    Outcome.Alike
      (machine.pop console fun operand machine => machine.deliver console (apply operand))
      (twin.pop console fun operand machine => machine.deliver console (apply operand)) :=
  pop alike console fun operand _ _ alike => deliver alike console (apply operand)

theorem binary (alike : machine.Alike twin) (console : Console) (apply : Value → Value → Except Fault Value) :
    Outcome.Alike
      (machine.pop console fun first machine =>
        machine.pop console fun second machine => machine.deliver console (apply first second))
      (twin.pop console fun first machine =>
        machine.pop console fun second machine => machine.deliver console (apply first second)) :=
  pop alike console fun first _ _ alike => unary alike console (apply first)

theorem load (alike : machine.Alike twin) (console : Console) (name : Value) :
    Outcome.Alike (machine.load console name) (twin.load console name) := by
  unfold Machine.load
  rw [alike.bindings]
  split
  · cases twin.bindings.get? name with
    | none => exact fail alike console (.undefined name)
    | some value => exact push alike console value
  · exact fail alike console (.unhashable name.kind)

theorem store (alike : machine.Alike twin) (console : Console) (name : Value) :
    Outcome.Alike (machine.store console name) (twin.store console name) := by
  refine pop alike console ?_
  intro value machine twin alike
  split
  · refine done ?_ console
    exact { alike with bindings := congrArg (·.insert name value) alike.bindings }
  · exact fail alike console (.unhashable name.kind)

theorem jump (alike : machine.Alike twin) (console : Console) (labels : Labels) (target : Value) :
    Outcome.Alike (machine.jump console labels target) (twin.jump console labels target) := by
  unfold Machine.jump
  cases labels.get? target with
  | none => exact fail alike console (.missingKey target)
  | some index =>
      refine done ?_ console
      exact { alike with }

theorem branch (alike : machine.Alike twin) (console : Console) (labels : Labels) (target : Value) :
    Outcome.Alike
      (machine.pop console fun flag machine =>
        if flag.isOne then machine.jump console labels target else .done machine console)
      (twin.pop console fun flag machine =>
        if flag.isOne then machine.jump console labels target else .done machine console) := by
  refine pop alike console ?_
  intro flag machine twin alike
  split
  · exact jump alike console labels target
  · exact done alike console

theorem call (alike : machine.Alike twin) (console : Console) :
    Outcome.Alike (machine.call console) (twin.call console) := by
  refine pop alike console ?_
  intro function machine twin alike
  have frames : machine.bindings :: machine.frames = twin.bindings :: twin.frames := by
    rw [alike.bindings, alike.frames]
  have functions : machine.current :: machine.saved.map ReturnPoint.function =
      twin.current :: twin.saved.map ReturnPoint.function := by
    rw [alike.current, alike.functions]
  refine done ?_ console
  exact ⟨alike.stack, rfl, frames, rfl, functions⟩

theorem ret (alike : machine.Alike twin) (console : Console) :
    Outcome.Alike (machine.ret console) (twin.ret console) := by
  have functions := alike.functions
  unfold Machine.ret
  cases places : machine.saved with
  | nil =>
      rw [places] at functions
      rw [List.map_eq_nil_iff.mp functions.symm]
      exact fail alike console .emptyPop
  | cons place saved =>
      cases placesThere : twin.saved with
      | nil => simp [places, placesThere] at functions
      | cons there savedThere =>
          rw [places, placesThere] at functions
          obtain ⟨current, functions⟩ := List.cons.inj functions
          dsimp only
          rw [alike.frames]
          cases framed : twin.frames with
          | nil =>
              refine fail ?_ console .emptyPop
              exact ⟨alike.stack, alike.bindings, rfl, current, functions⟩
          | cons bindings frames =>
              refine done ?_ console
              exact ⟨alike.stack, rfl, rfl, current, functions⟩

theorem readText (alike : machine.Alike twin) (console : Console) :
    Outcome.Alike (machine.readText console) (twin.readText console) := by
  unfold Machine.readText
  obtain ⟨after, answer⟩ := console.input
  cases answer with
  | error fault => exact fail alike after fault
  | ok value =>
      cases value with
      | text content => exact push alike after (.text content)
      | _ => exact fail alike after _

theorem readNumber (alike : machine.Alike twin) (console : Console) :
    Outcome.Alike (machine.readNumber console) (twin.readNumber console) := by
  unfold Machine.readNumber
  obtain ⟨after, answer⟩ := console.input
  cases answer with
  | error fault => exact fail alike after fault
  | ok value =>
      dsimp only
      cases value.number? with
      | none => exact fail alike after (.inputNotNumber value.kind)
      | some number => exact push alike after value

theorem printTop (alike : machine.Alike twin) (console : Console) :
    Outcome.Alike (machine.printTop console) (twin.printTop console) :=
  pop alike console fun value _ _ alike => .intro alike (console.print value).1 (console.print value).2

theorem perform (alike : machine.Alike twin) (labels : Labels) (console : Console) (op : Opcode)
    (args : List Value) :
    Outcome.Alike (machine.perform labels console op args) (twin.perform labels console op args) := by
  unfold Machine.perform
  split
  · exact push alike console _
  · exact load alike console _
  · exact store alike console _
  · exact binary alike console _
  · exact binary alike console _
  · exact unary alike console _
  · exact printTop alike console
  · exact readText alike console
  · exact readNumber alike console
  · split
    · exact branch alike console labels _
    · exact fail alike console _
  · split
    · exact jump alike console labels _
    · exact fail alike console _
  · exact call alike console
  · exact ret alike console
  · exact fail alike _ .breakpoint
  · exact done alike console
  · exact fail alike console _

end Outcome.Alike

theorem Machine.execute_alike {machine twin : Machine} (alike : machine.Alike twin) (labels : Labels)
    (console : Console) (instruction : Instruction) :
    Outcome.Alike (machine.execute labels console instruction) (twin.execute labels console instruction) := by
  unfold Machine.execute
  cases instruction.mnemonic with
  | unknown word => exact .fail alike console (.unknown instruction)
  | known op => exact .perform alike labels console op instruction.args

end StackMachine

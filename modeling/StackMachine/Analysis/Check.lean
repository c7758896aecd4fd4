import StackMachine.Analysis.Wrapper
import StackMachine.Numeral.Binary64

/-!
Checks of the analyses: what a complete analysis would find, against what the present one finds. A marker counts how
often a place in a program is reached.
-/

set_option autoImplicit false

namespace StackMachine

/-- How often a place has been reached since the last reset. -/
structure Marker where
  count : Nat := 0
  deriving Repr, DecidableEq

namespace Marker

def mark (marker : Marker) : Marker :=
  ⟨marker.count + 1⟩

def reset (_ : Marker) : Marker :=
  ⟨0⟩

end Marker

namespace Analysis

/-- What a check writes, and how it fails if it does. -/
structure Verdict where
  written : String := ""
  fault : Option Fault := none

/-! ## Counts of branches and loops -/

/-- The numbers of loops and branches that a function has. -/
structure Counts where
  loops : Int
  branches : Int

def expectCount (expected found : Int) : Except Fault Unit :=
  if found = expected then .ok () else .error (.failedCheck (toString found))

/-- Checks what a counter notes about a function; loops come before branches. -/
def Counts.check (expected : Counts) : Verdict :=
  let result := do
    expectCount expected.loops unknownCount
    expectCount expected.branches unknownCount
  match result with
  | .ok () => {}
  | .error fault => { fault := some fault }

def countChecks : List (String × Counts) := [
  ("test_no_loops_ifs", ⟨0, 0⟩),
  ("test_ifs", ⟨0, 2⟩),
  ("test_loops", ⟨2, 0⟩),
  ("test_if_loops", ⟨2, 1⟩),
  ("test_big", ⟨4, 5⟩)]

/-! ## Recursion -/

/-- A function by name, and whether it is recursive. -/
structure Suspect where
  name : String
  recursive : Bool

/-- Asks the detector about functions in order, up to the first that it is wrong about. -/
def checkSuspects : List Suspect → Verdict
  | [] => {}
  | suspect :: rest =>
    let (answer, written) := detectRecursion suspect.name
    if answer = suspect.recursive then
      let verdict := checkSuspects rest
      { verdict with written := written ++ verdict.written }
    else { written, fault := some (.failedCheck "") }

def recursionChecks : List (String × List Suspect) := [
  ("test_simple", [⟨"func", true⟩, ⟨"func", false⟩, ⟨"factorial", true⟩]),
  ("test_coupled", [⟨"func1", true⟩, ⟨"func2", true⟩, ⟨"func3", false⟩]),
  ("test_big", [⟨"func1", true⟩, ⟨"func2", true⟩, ⟨"func5", false⟩, ⟨"func6", false⟩,
    ⟨"func3", true⟩, ⟨"func4", true⟩]),
  ("test_alias", [⟨"func1", true⟩, ⟨"func2", false⟩])]

/-! ## Evaluation ahead -/

/-- A marked function of two integers. -/
inductive Marked where
  | sum
  | difference
  /-- The whole part of the exponential of the sum. -/
  | exponential
  deriving Repr, DecidableEq

/-- The whole part of the exponential of an integer, zero where it is no finite number. -/
def wholeExp (n : Int) : Int :=
  match Numeral.ofInteger? n with
  | some x => (Numeral.integral? (Float.floor (Float.exp x))).getD 0
  | none => 0

def Marked.apply : Marked → Int → Int → Int
  | .sum, a, b => a + b
  | .difference, a, b => a - b
  | .exponential, a, b => wholeExp (a + b)

/-- The body of a function of one argument. -/
inductive Body where
  | const (value : Int)
  | argument
  | plus (left right : Body)
  | minus (left right : Body)
  | call (function : Marked) (left right : Body)

/-- Evaluates a body, with a mark for every call. Nothing is evaluated ahead. -/
def Body.eval (argument : Int) : Body → Marker → Int × Marker
  | .const value, marker => (value, marker)
  | .argument, marker => (argument, marker)
  | .plus left right, marker =>
    let (a, marker) := left.eval argument marker
    let (b, marker) := right.eval argument marker
    (a + b, marker)
  | .minus left right, marker =>
    let (a, marker) := left.eval argument marker
    let (b, marker) := right.eval argument marker
    (a - b, marker)
  | .call function left right, marker =>
    let (a, marker) := left.eval argument marker
    let (b, marker) := right.eval argument marker
    (function.apply a b, marker.mark)

/-- A body with an argument, the value it has there, and the calls that are left when all calls with
constant arguments are evaluated ahead. `heading` introduces a wrong value. -/
structure Evaluation where
  body : Body
  argument : Int
  value : Int
  calls : Int
  heading : String := ""

def Evaluation.check (expected : Evaluation) : Verdict :=
  let (value, marker) := expected.body.eval expected.argument {}
  if value ≠ expected.value then
    { fault := some (.failedCheck (expected.heading ++ toString value)) }
  else if (marker.count : Int) ≠ expected.calls then
    { fault := some (.failedCheck (toString marker.count)) }
  else {}

def evaluationChecks : List (String × Evaluation) := [
  ("test_simple", {
    body := .plus (.call .sum (.const 3) (.const 6)) (.call .sum .argument (.const 3))
    argument := 8, value := 20, calls := 1, heading := "Res " }),
  ("test_larger", {
    body := .plus
      (.call .difference
        (.plus (.call .exponential (.const (-3)) (.const 3)) (.call .exponential .argument (.const 8)))
        (.const 2))
      (.call .difference (.const 333) (.const 330))
    argument := -8, value := 3, calls := 2 }),
  ("test_multi", {
    body := .plus
      (.call .exponential (.call .difference (.const 0) (.const 3)) (.const 3))
      (.call .difference (.const 3) .argument)
    argument := 3, value := 1, calls := 1 }),
  ("test_advanced", {
    body := .plus
      (.call .exponential (.minus (.const 3) (.const 3)) (.const 0))
      (.call .exponential (.const 3) .argument)
    argument := -3, value := 2, calls := 1 })]

inductive Group where
  | counts
  | recursion
  | evaluation
  deriving Repr, DecidableEq

def Group.run? (name : String) : Group → Option Verdict
  | .counts => (countChecks.lookup name).map Counts.check
  | .recursion => (recursionChecks.lookup name).map checkSuspects
  | .evaluation => (evaluationChecks.lookup name).map Evaluation.check

end Analysis

end StackMachine

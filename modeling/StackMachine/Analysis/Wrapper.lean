import StackMachine.Analysis.Call

/-!
Wrappers around functions. Each is a place for an analysis that has not been made: the wrapped function
answers every call as the function itself does, and a counter of branches and loops notes that it does
not know.
-/

set_option autoImplicit false

namespace StackMachine.Analysis

inductive Wrapper where
  /-- Counts branches and loops. -/
  | counter
  /-- Marks a function as one to be evaluated ahead. -/
  | constant
  /-- Evaluates calls of such functions ahead. -/
  | folder
  deriving Repr, DecidableEq

/-- The count of something that has not been counted. -/
def unknownCount : Int := -1

def Wrapper.notes : Wrapper → List (String × Int)
  | .counter => [("num_ifs", unknownCount), ("num_loops", unknownCount)]
  | .constant | .folder => []

/-- A function in its wrappers, the outermost first. -/
structure Wrapped where
  subject : Subject
  wrappers : List Wrapper := []

namespace Wrapped

def wrap (wrapped : Wrapped) (wrapper : Wrapper) : Wrapped :=
  { wrapped with wrappers := wrapper :: wrapped.wrappers }

def name (wrapped : Wrapped) : String :=
  if wrapped.wrappers.isEmpty then wrapped.subject.name else "modified_function"

/-- The notes on the outermost function; those of inner wrappers do not show. -/
def notes (wrapped : Wrapped) : List (String × Int) :=
  match wrapped.wrappers with
  | [] => []
  | outermost :: _ => outermost.notes

def call (wrapped : Wrapped) (positional : List Value) (named : List (String × Value)) :
    Except Fault Value :=
  wrapped.subject.call positional named

end Wrapped

/-- What a detector of recursion says and writes about the function with a name. It takes every function
for recursive. -/
def detectRecursion (name : String) : Bool × String :=
  (true, name ++ "\n")

end StackMachine.Analysis

import StackMachine.Numeral.Binary64
import StackMachine.Value

/-!
Equality of values, and the keys that dictionaries are searched by. Numbers are equal if their exact
values are, so that 1, 1.0 and the truth value of 1 are one key. The value that is no number equals
nothing, itself included.
-/

set_option autoImplicit false

namespace StackMachine

open Numeral

/-- What a dictionary is searched by. A number that is an integer is that integer, however it is
represented; any other number is known by its bits. -/
inductive Key where
  | null
  | int (n : Int)
  | real (bits : UInt64)
  | text (s : String)
  deriving Repr, DecidableEq

/-- The key of a value. Lists, dictionaries and the value that is no number have none. Values have no identity here: a
dictionary that looks for the same object before it compares would know the value that is no number again. -/
def Value.key? : Value → Option Key
  | .null => some .null
  | .bool b => some (.int (if b then 1 else 0))
  | .int n => some (.int n)
  | .float x =>
    match integral? x with
    | some n => some (.int n)
    | none => if x == x then some (.real x.toBits) else none
  | .text s => some (.text s)
  | .list _ => none
  | .dict _ => none

/-- Whether a value may be a dictionary key at all. -/
def Value.hashable : Value → Bool
  | .list _ => false
  | .dict _ => false
  | _ => true

/-- Whether two keys are there and the same. -/
def sameKey (left right : Option Key) : Bool :=
  match left, right with
  | some l, some r => decide (l = r)
  | _, _ => false

mutual

/-- Whether two values are equal. Lists are compared item by item; dictionaries are equal if they have
equally many entries and each entry of one has its equal in the other. -/
def Value.same : Value → Value → Bool
  | .list xs, .list ys => Value.sameItems xs ys
  | .dict es, .dict fs => es.length == fs.length && Value.sameEntries es fs
  | x, y => sameKey x.key? y.key?

def Value.sameItems : List Value → List Value → Bool
  | [], [] => true
  | x :: xs, y :: ys => x.same y && Value.sameItems xs ys
  | _, _ => false

/-- Whether each entry of the first dictionary has its equal in the second. -/
def Value.sameEntries : List (Value × Value) → List (Value × Value) → Bool
  | [], _ => true
  | (k, v) :: es, fs =>
    fs.any (fun f => sameKey k.key? f.1.key? && v.same f.2) && Value.sameEntries es fs

end

def Value.isOne (value : Value) : Bool :=
  sameKey value.key? (some (.int 1))

end StackMachine

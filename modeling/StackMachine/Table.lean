import StackMachine.Value.Key

/-!
Tables: finite maps with values as keys. The entries stand in the order in which their keys were first
stored. Storing under an equal key replaces what is stored and keeps the key that was there.
-/

set_option autoImplicit false

namespace StackMachine

/-- A finite map from values to entries of a type, in the order of first storing. -/
structure Table (α : Type) where
  entries : List (Value × α)

namespace Table

variable {α : Type}

def empty : Table α := ⟨[]⟩

instance : Inhabited (Table α) := ⟨empty⟩

def find? (key : Option Key) : List (Value × α) → Option α
  | [] => none
  | (name, content) :: rest => if sameKey name.key? key then some content else find? key rest

/-- Stores an entry: in the place of the one with an equal key, else at the end. A name that is no number has no key, so
each store under it adds an entry, also where the name is the very object that was stored before. -/
def store (name : Value) (content : α) : List (Value × α) → List (Value × α)
  | [] => [(name, content)]
  | (other, old) :: rest =>
    if sameKey other.key? name.key? then (other, content) :: rest
    else (other, old) :: store name content rest

def get? (table : Table α) (name : Value) : Option α :=
  find? name.key? table.entries

def contains (table : Table α) (name : Value) : Bool :=
  (table.get? name).isSome

def insert (table : Table α) (name : Value) (content : α) : Table α :=
  ⟨store name content table.entries⟩

def isEmpty (table : Table α) : Bool :=
  table.entries.isEmpty

end Table

abbrev Bindings := Table Value

/-- Where the labels of a code list stand. -/
abbrev Labels := Table Int

end StackMachine

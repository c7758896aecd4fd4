import StackMachine.Machine.Run

/-!
The power program as listings for the machine: a recursive function and the entry that reads base and
exponent, calls it and prints the result. Running the two as one code list cannot work, because
functions are named and not numbered; `Power.attempt` tells how far that gets.
-/

set_option autoImplicit false

namespace StackMachine.Power

/-- The listing of the recursive function. The word for "can not" is part of its refusal of the
exponent zero; a word with an apostrophe ends the quotation around the refusal. -/
def powListing (cannot : String) : String :=
  "STORE_VAR \"x\"\nSTORE_VAR \"n\"\n\n" ++
  "LOAD_CONST 0\nLOAD_VAR \"n\"\nEQ\nCJMP \"Power 0\"\n\n" ++
  "LOAD_CONST 2\nLOAD_VAR \"n\"\nDIV\n\n" ++
  "STORE_VAR \"d\"\nLOAD_VAR \"d\"\n\n" ++
  "LOAD_CONST 2\nMUL\n\n" ++
  "LOAD_VAR \"n\"\nEQ \n\n" ++
  "CJMP \"Even\"\n\n" ++
  "LOAD_CONST 1\nLOAD_VAR \"n\"\nEQ\n\n" ++
  "CJMP \"Stop\"\n\n" ++
  "LOAD_VAR \"d\"\nLOAD_VAR \"x\"\nLOAD_CONST \"pow\"\nCALL\nSTORE_VAR \"xn\"\n\n" ++
  "LOAD_VAR \"xn\"\nLOAD_VAR \"xn\"\nMUL\n\n" ++
  "LOAD_VAR \"x\"\nMUL\nRET\n\n" ++
  "LABEL \"Stop\"\nLOAD_VAR \"x\"\nRET\n\n" ++
  "LABEL \"Even\"\n\n" ++
  "LOAD_VAR \"d\"\nLOAD_VAR \"x\"\nLOAD_CONST \"pow\"\nCALL\nSTORE_VAR \"xn\"\n\n" ++
  "LOAD_VAR \"xn\"\nLOAD_VAR \"xn\"\nMUL\nRET\n\n" ++
  "LABEL \"Power 0\"\nLOAD_CONST \"This func " ++ cannot ++ " take power of 0.\"\nRET\n"

def entryListing : String :=
  "INPUT_NUMBER\nSTORE_VAR \"x\"\nINPUT_NUMBER\nSTORE_VAR \"n\"\n\n" ++
  "LOAD_VAR \"n\"\nLOAD_VAR \"x\"\nLOAD_CONST \"pow\"\nCALL\n\n" ++
  "STORE_VAR \"xn\"\nLOAD_VAR \"xn\"\nPRINT\n"

/-- The first two numbers on a line. -/
def readPair (line : List Char) : Except Fault (Value × Value) := do
  match ← readNumbers line with
  | x :: n :: _ => return (x, n)
  | _ => throw .indexOutOfRange

/-- How far an attempt got: the names it had given, the inputs if they were read, and what stopped it. -/
structure Attempt where
  defined : List String
  inputs : Option (Value × Value)
  fault : Option Fault

/-- Reads the listings, then base and exponent, and runs the two functions as one code list. -/
def attempt (cannot : String) (terminal : Terminal) : Attempt × Terminal :=
  let named := ["POW", "ENTRY"]
  match Listing.read (powListing cannot).toList with
  | .error fault => (⟨named, none, some fault⟩, terminal)
  | .ok _ =>
    let named := named ++ ["code_pow"]
    match Listing.read entryListing.toList with
    | .error fault => (⟨named, none, some fault⟩, terminal)
    | .ok _ =>
      let named := named ++ ["code_entry", "code"]
      let (terminal, line) := terminal.read ""
      match line >>= fun line => readPair line.toList with
      | .error fault => (⟨named, none, some fault⟩, terminal)
      | .ok inputs =>
        let machine : Machine := {}
        match machine.runNamed 2 with
        | some fault =>
          (⟨named ++ ["x", "n", "inp", "io", "vm"], some inputs, some fault⟩, terminal)
        | none => (⟨named ++ ["x", "n", "inp", "io", "vm", "stack"], some inputs, none⟩, terminal)

end StackMachine.Power

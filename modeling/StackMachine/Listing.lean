import StackMachine.Fault
import StackMachine.Numeral.Decimal
import StackMachine.Table

/-!
Listings: programs as text, one instruction a line.

A line is cut into words at spaces outside quotes. Either quote mark opens and closes a quotation and
is itself left out, so a word may be put together from quoted and bare parts. The first word names the
operation code and the others are the arguments, numbers where they read as numbers.
-/

set_option autoImplicit false

namespace StackMachine

/-- The value that a word of a listing denotes: an integer, else a floating-point number, else itself. -/
def Value.ofWord (word : List Char) : Value :=
  match Numeral.integer? word with
  | some n => .int n
  | none =>
    match Numeral.float? word with
    | some x => .float x
    | none => .text (String.ofList word)

namespace Listing

open Text

def isQuote (c : Char) : Bool :=
  c == '\'' || c == '"'

/-- The pieces of a line between spaces outside quotes, without its quote marks. The first argument
tells whether the line starts inside a quotation. -/
def pieces (insideQuotes : Bool) : List Char → List (List Char)
  | [] => [[]]
  | c :: rest =>
    if isQuote c then pieces (!insideQuotes) rest
    else if c == ' ' && !insideQuotes then [] :: pieces insideQuotes rest
    else
      match pieces insideQuotes rest with
      | [] => [[c]]
      | piece :: others => (c :: piece) :: others

/-- The words of a line: its pieces, the empty ones left out. -/
def words (line : List Char) : List (List Char) :=
  (pieces false line).filter fun word => !word.isEmpty

def mostArguments : Nat := 2

def readLine (line : List Char) : Except Fault Instruction :=
  match (words line).map Value.ofWord with
  | [] => .error .indexOutOfRange
  | head :: args =>
    match head.text?.bind Opcode.ofName? with
    | none => .error (.invalidOpcode head)
    | some op =>
      if args.length ≤ mostArguments then .ok ⟨.known op, args⟩
      else .error (.tooManyArguments args.length)

/-- The lines of a text that hold more than blanks. -/
def significantLines (text : List Char) : List (List Char) :=
  (cut (· == '\n') text).filter fun line => line.any fun c => !isBlank c

/-- Reads a listing; the first line that cannot be read decides the fault. -/
def read (text : List Char) : Except Fault (List Instruction) :=
  (significantLines text).mapM readLine

/-- Adds the labels of a code list whose first instruction stands at `index`. -/
def addLabels (labels : Labels) (index : Nat) : List Instruction → Except Fault Labels
  | [] => .ok labels
  | instruction :: rest =>
    if instruction.is .label then
      match instruction.args with
      | [] => .error .argumentOutOfRange
      | name :: _ =>
        if name.hashable then addLabels (labels.insert name index) (index + 1) rest
        else .error (.unhashable name.kind)
    else addLabels labels (index + 1) rest

/-- Where the labels of a code list stand; of two labels with one name the last counts. -/
def labels (code : List Instruction) : Except Fault Labels :=
  addLabels .empty 0 code

end Listing

/-- Reads the numbers on a line, words that read as integers as integers. -/
def readNumbers (line : List Char) : Except Fault (List Value) :=
  (Text.words line).mapM fun word =>
    match Numeral.integer? word with
    | some n => .ok (.int n)
    | none =>
      match Numeral.float? word with
      | some x => .ok (.float x)
      | none => .error (.notAFloat (String.ofList word))

end StackMachine

import StackMachine.Fault
import StackMachine.Numeral.Decimal
import StackMachine.Table

/-!
Reading JSON texts as values. Besides the standard's terms it takes the words for infinity and for the
value that is no number. Of two members with one name the later value counts, in the place of the first.
-/

set_option autoImplicit false

namespace StackMachine.Json

/-- What is left of a text, and how many characters came before. -/
structure Cursor where
  rest : List Char
  position : Nat

/-- Why a text is not read. -/
inductive Problem where
  /-- The text breaks the grammar at a position. -/
  | malformed (reason : String) (position : Nat)
  /-- The text follows the grammar, and a fault of another kind stands in the way. -/
  | fault (fault : Fault)

/-- A step of reading: a result and what is left. -/
abbrev Reading (α : Type) := Except Problem (α × Cursor)

namespace Cursor

def skip (cursor : Cursor) (count : Nat) : Cursor :=
  ⟨cursor.rest.drop count, cursor.position + count⟩

def isSpace (c : Char) : Bool :=
  c == ' ' || c == '\t' || c == '\n' || c == '\r'

def skipSpace (cursor : Cursor) : Cursor :=
  cursor.skip (cursor.rest.takeWhile isSpace).length

def startsWith (cursor : Cursor) (word : String) : Bool :=
  word.toList.isPrefixOf cursor.rest

end Cursor

def hexValue? (c : Char) : Option Nat :=
  let n := c.toNat
  if 48 ≤ n && n ≤ 57 then some (n - 48)
  else if 97 ≤ n && n ≤ 102 then some (n - 87)
  else if 65 ≤ n && n ≤ 70 then some (n - 55)
  else none

def fourHex? (digits : List Char) : Option Nat :=
  if digits.length = 4 then
    digits.foldlM (fun value c => (hexValue? c).map fun digit => 16 * value + digit) 0
  else none

/-- The character that a letter after a backslash stands for. -/
def escaped? : Char → Option Char
  | '"' => some '"'
  | '\\' => some '\\'
  | '/' => some '/'
  | 'b' => some '\x08'
  | 'f' => some '\x0c'
  | 'n' => some '\n'
  | 'r' => some '\r'
  | 't' => some '\t'
  | _ => none

/-- A code unit from 0xD800 on that needs a second one after it. -/
def isHighSurrogate (unit : Nat) : Bool :=
  0xd800 ≤ unit && unit ≤ 0xdbff

/-- A code unit that can only be a second one. -/
def isLowSurrogate (unit : Nat) : Bool :=
  0xdc00 ≤ unit && unit ≤ 0xdfff

/-- The character of a code unit; a surrogate that stands alone is replaced. -/
def ofUnit (unit : Nat) : Char :=
  if 0xd800 ≤ unit && unit ≤ 0xdfff then '\ufffd' else Char.ofNat unit

/-- Reads the escape whose backslash is at `position` and whose letter `u` has been seen; `rest` follows
the letter. Gives the character and the number of characters after the letter that were used. A second
escape is looked at only if something follows it. -/
def unicodeEscape (position : Nat) (rest : List Char) : Except Problem (Char × Nat) :=
  let bad (position : Nat) : Except Problem (Char × Nat) :=
    .error (.malformed "Invalid \\uXXXX escape" position)
  if rest.length ≤ 4 then bad (position + 1)
  else
    match fourHex? (rest.take 4) with
    | none => bad (position + 1)
    | some unit =>
      let second := rest.drop 4
      if isHighSurrogate unit && second.length > 6 && ['\\', 'u'].isPrefixOf second then
        match fourHex? ((second.drop 2).take 4) with
        | none => bad (position + 7)
        | some other =>
          if isLowSurrogate other then
            .ok (Char.ofNat (0x10000 + (unit - 0xd800) * 0x400 + (other - 0xdc00)), 10)
          else .ok (ofUnit unit, 4)
      else .ok (ofUnit unit, 4)

/-- Reads the characters of a string up to its closing quote. `start` is the position of the opening
quote, `position` that of the next character, and `done` holds what was read, last first. -/
def stringFrom (start position : Nat) (rest done : List Char) : Reading (List Char) :=
  match rest with
  | [] => .error (.malformed "Unterminated string starting at" start)
  | '"' :: rest => .ok (done.reverse, ⟨rest, position + 1⟩)
  | ['\\'] => .error (.malformed "Unterminated string starting at" start)
  | '\\' :: 'u' :: rest =>
    match unicodeEscape position rest with
    | .error problem => .error problem
    | .ok (c, used) => stringFrom start (position + 2 + used) (rest.drop used) (c :: done)
  | '\\' :: letter :: rest =>
    match escaped? letter with
    | some c => stringFrom start (position + 2) rest (c :: done)
    | none => .error (.malformed "Invalid \\escape" position)
  | c :: rest =>
    if c.toNat ≤ 0x1f then .error (.malformed "Invalid control character at" position)
    else stringFrom start (position + 1) rest (c :: done)
termination_by rest.length
decreasing_by all_goals simp_wf <;> omega

def string (cursor : Cursor) : Reading (List Char) :=
  stringFrom (cursor.position - 1) cursor.position cursor.rest []

/-- The characters of a number without sign at the start of a text: its whole part, and whether a
fraction or an exponent follows, with all of its characters. -/
def numberLength (text : List Char) : Option (Nat × Bool) :=
  let whole := match text with
    | '0' :: _ => 1
    | text => (text.takeWhile Char.isDigit).length
  if whole = 0 then none
  else
    let fraction := match text.drop whole with
      | '.' :: rest =>
        let digits := (rest.takeWhile Char.isDigit).length
        if digits = 0 then 0 else digits + 1
      | _ => 0
    let exponent := match text.drop (whole + fraction) with
      | mark :: rest =>
        if mark = 'e' ∨ mark = 'E' then
          let sign := match rest with
            | '+' :: _ | '-' :: _ => 1
            | _ => 0
          let digits := ((rest.drop sign).takeWhile Char.isDigit).length
          if digits = 0 then 0 else 1 + sign + digits
        else 0
      | [] => 0
    some (whole + fraction + exponent, fraction + exponent > 0)

def number (cursor : Cursor) : Reading Value :=
  let (negative, body) := match cursor.rest with
    | '-' :: rest => (true, rest)
    | rest => (false, rest)
  match numberLength body with
  | none => .error (.malformed "Expecting value" cursor.position)
  | some (length, isFloat) =>
    let length := if negative then length + 1 else length
    let text := cursor.rest.take length
    if isFloat then
      match Numeral.float? text with
      | some x => .ok (.float x, cursor.skip length)
      | none => .error (.malformed "Expecting value" cursor.position)
    else
      match Numeral.readInteger text with
      | .value n => .ok (.int n, cursor.skip length)
      | .tooLong digits => .error (.fault (.readTooLong digits))
      | .malformed => .error (.malformed "Expecting value" cursor.position)

def words : List (String × Value) := [
  ("null", .null), ("true", .bool true), ("false", .bool false),
  ("NaN", .float Numeral.notANumber), ("Infinity", .float (Numeral.infinity false)),
  ("-Infinity", .float (Numeral.infinity true))]

/-- Reads a term that has no parts: a word or a number. -/
def atom (cursor : Cursor) : Reading Value :=
  match words.find? fun (word, _) => cursor.startsWith word with
  | some (word, value) => .ok (value, cursor.skip word.length)
  | none => number cursor

/-- How deep lists and objects may be nested. This stands for the interpreter's recursion limit of a thousand
calls, less those around the reader. -/
def nestingLimit : Nat := 990

mutual

/-- Reads a term. `depth` counts the lists and objects around it; `fuel` bounds the calls. -/
def term : Nat → Nat → Cursor → Reading Value
  | 0, _, cursor => .error (.malformed "Expecting value" cursor.position)
  | fuel + 1, depth, cursor =>
    match cursor.rest with
    | [] => .error (.malformed "Expecting value" cursor.position)
    | '"' :: _ =>
      match string (cursor.skip 1) with
      | .ok (text, cursor) => .ok (.text (String.ofList text), cursor)
      | .error problem => .error problem
    | '[' :: _ =>
      if nestingLimit ≤ depth then .error (.fault .endlessRecursion)
      else
        let inside := (cursor.skip 1).skipSpace
        match inside.rest with
        | ']' :: _ => .ok (.list [], inside.skip 1)
        | _ => items fuel (depth + 1) inside []
    | c :: _ =>
      if c = '\x7b' then
        if nestingLimit ≤ depth then .error (.fault .endlessRecursion)
        else
          let inside := (cursor.skip 1).skipSpace
          if inside.rest.head? = some '\x7d' then .ok (.dict [], inside.skip 1)
          else members fuel (depth + 1) inside []
      else atom cursor

/-- Reads the items of a list up to its closing bracket; those already read come last first. -/
def items : Nat → Nat → Cursor → List Value → Reading Value
  | 0, _, cursor, _ => .error (.malformed "Expecting value" cursor.position)
  | fuel + 1, depth, cursor, done =>
    match term fuel depth cursor with
    | .error problem => .error problem
    | .ok (value, cursor) =>
      let cursor := cursor.skipSpace
      match cursor.rest with
      | ']' :: _ => .ok (.list (value :: done).reverse, cursor.skip 1)
      | ',' :: _ => items fuel depth (cursor.skip 1).skipSpace (value :: done)
      | _ => .error (.malformed "Expecting ',' delimiter" cursor.position)

/-- Reads the members of an object up to its closing brace. -/
def members : Nat → Nat → Cursor → List (Value × Value) → Reading Value
  | 0, _, cursor, _ => .error (.malformed "Expecting value" cursor.position)
  | fuel + 1, depth, cursor, done =>
    if cursor.rest.head? = some '"' then
      match string (cursor.skip 1) with
      | .error problem => .error problem
      | .ok (name, cursor) =>
        let cursor := cursor.skipSpace
        if cursor.rest.head? = some ':' then
          match term fuel depth (cursor.skip 1).skipSpace with
          | .error problem => .error problem
          | .ok (value, cursor) =>
            let done := Table.store (.text (String.ofList name)) value done
            let cursor := cursor.skipSpace
            if cursor.rest.head? = some '\x7d' then .ok (.dict done, cursor.skip 1)
            else if cursor.rest.head? = some ',' then members fuel depth (cursor.skip 1).skipSpace done
            else .error (.malformed "Expecting ',' delimiter" cursor.position)
        else .error (.malformed "Expecting ':' delimiter" cursor.position)
    else
      .error (.malformed "Expecting property name enclosed in double quotes" cursor.position)

end

/-- The fault of a malformed text, with the line and column of the position. -/
def malformed (text : List Char) (reason : String) (position : Nat) : Fault :=
  let before := text.take position
  let column := (before.reverse.takeWhile (· != '\n')).length + 1
  .json reason (before.count '\n' + 1) column position

def read (text : List Char) : Except Fault Value :=
  if text.head? = some '\ufeff' then
    .error (malformed text "Unexpected UTF-8 BOM (decode using utf-8-sig)" 0)
  else
    match term (2 * text.length + 2) 0 (Cursor.skipSpace ⟨text, 0⟩) with
    | .error (.malformed reason position) => .error (malformed text reason position)
    | .error (.fault fault) => .error fault
    | .ok (value, cursor) =>
      let cursor := cursor.skipSpace
      if cursor.rest.isEmpty then .ok value
      else .error (malformed text "Extra data" cursor.position)

end StackMachine.Json

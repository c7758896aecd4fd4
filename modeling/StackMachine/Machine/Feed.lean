import StackMachine.Table
import StackMachine.Terminal

/-!
Input feeds and the console of a machine. A feed answers reads from a buffer; without one the terminal
answers them.
-/

set_option autoImplicit false

namespace StackMachine

/-- How a feed takes the prompt of a read. -/
inductive FeedStyle where
  /-- The prompt is required and ignored. -/
  | prompted
  /-- A prompt is refused. -/
  | silent
  /-- Any prompt is ignored, and a buffer that is no list answers every read as a whole. -/
  | adaptive
  deriving Repr, DecidableEq

/-- A buffer that reads are answered from. -/
structure Feed where
  style : FeedStyle
  buffer : Value

namespace Feed

/-- Takes the first entry whose key equals a key out of a dictionary. -/
def takeEntry (key : Option Key) : List (Value × Value) → Option (Value × List (Value × Value))
  | [] => none
  | (name, content) :: rest =>
    if sameKey name.key? key then some (content, rest)
    else (takeEntry key rest).map fun (found, others) => (found, (name, content) :: others)

/-- Takes the first item out of a buffer: of a list its head, of a dictionary the entry under zero. -/
def takeFirst : Value → Except Fault (Value × Value)
  | .list [] => .error .emptyPop
  | .list (item :: rest) => .ok (item, .list rest)
  | .dict entries =>
    match takeEntry (some (.int 0)) entries with
    | some (content, rest) => .ok (content, .dict rest)
    | none => .error (.missingKey (.int 0))
  | other => .error (.noMember other.kind "pop")

/-- Answers a read that gives a number of prompts. -/
def take (feed : Feed) (prompts : Nat) : Except Fault (Value × Feed) :=
  let first := (takeFirst feed.buffer).map fun (item, rest) => (item, { feed with buffer := rest })
  match feed.style with
  | .prompted =>
    if prompts = 0 then .error .feedNeedsPrompt
    else if prompts = 1 then first
    else .error (.feedTakesOnePrompt prompts)
  | .silent => if prompts = 0 then first else .error (.feedTakesNoPrompt prompts)
  | .adaptive =>
    match feed.buffer with
    | .list _ => first
    | whole => .ok (whole, feed)

end Feed

/-- The console of a machine: where its reads are answered from, the objects it has printed in order,
and the terminal. -/
structure Console where
  feed : Option Feed := none
  printed : List Value := []
  terminal : Terminal := {}
  deriving Inhabited

namespace Console

/-- The prompt of a read by the machine. -/
def prompt : String := "krya"

def write (console : Console) (text : String) : Console :=
  { console with terminal := console.terminal.write text }

def writeLine (console : Console) (text : String) : Console :=
  { console with terminal := console.terminal.writeLine text }

def readLine (console : Console) (prompt : String) : Console × Except Fault String :=
  let (terminal, result) := console.terminal.read prompt
  ({ console with terminal }, result)

def input (console : Console) : Console × Except Fault Value :=
  match console.feed with
  | some feed =>
    match feed.take 1 with
    | .ok (value, feed) => ({ console with feed := some feed }, .ok value)
    | .error fault => (console, .error fault)
  | none =>
    let (console, result) := console.readLine prompt
    (console, result.map Value.text)

/-- Prints an object on a line of its own and records it. -/
def print (console : Console) (object : Value) : Console × Option Fault :=
  match object.show with
  | .ok text =>
    ({ console.writeLine (String.ofList text) with printed := console.printed ++ [object] }, none)
  | .error fault => (console, some fault)

end Console

end StackMachine

import StackMachine.Fault

/-!
A scripted terminal: lines waiting to be read, and what has been written, cut at the reads.
-/

set_option autoImplicit false

namespace StackMachine

/-- What a read meets: a line, or an interruption. -/
inductive Keystroke where
  | line (text : String)
  | interrupt
  deriving Repr, DecidableEq

/-- A terminal. `finished` holds what was written before each read so far, the latest first, and
`current` what has been written since. -/
structure Terminal where
  script : List Keystroke := []
  finished : List String := []
  current : String := ""
  deriving Repr, Inhabited

namespace Terminal

def write (terminal : Terminal) (text : String) : Terminal :=
  { terminal with current := terminal.current ++ text }

def writeLine (terminal : Terminal) (text : String) : Terminal :=
  terminal.write (text ++ "\n")

def writeLines (terminal : Terminal) (lines : List String) : Terminal :=
  lines.foldl writeLine terminal

/-- Writes a prompt and reads a line. Reading closes what has been written so far, also when there is
no line or the read is interrupted. -/
def read (terminal : Terminal) (prompt : String) : Terminal × Except Fault String :=
  let written := { terminal with
    finished := (terminal.current ++ prompt) :: terminal.finished
    current := "" }
  match terminal.script with
  | [] => (written, .error .endOfInput)
  | .interrupt :: rest => ({ written with script := rest }, .error .interrupted)
  | .line text :: rest => ({ written with script := rest }, .ok text)

/-- What was written before the first read, between reads, and after the last, in order. -/
def segments (terminal : Terminal) : List String :=
  (terminal.current :: terminal.finished).reverse

def transcript (terminal : Terminal) : String :=
  String.join terminal.segments

end Terminal

end StackMachine

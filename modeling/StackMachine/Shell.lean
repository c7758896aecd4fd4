import StackMachine.Terminal
import StackMachine.Text.Blank
import StackMachine.Text.Quoted

/-!
Line shells: a line is a command word and an argument. An empty line repeats the last command, a
question mark asks for help, and a line without a known command goes to a fallback.
-/

set_option autoImplicit false

namespace StackMachine

open Text

/-- What answering a line gives: the state, the terminal, and whether the shell is left, or a fault. -/
structure ShellReply (σ : Type) where
  state : σ
  terminal : Terminal
  result : Except Fault Bool

/-- A command of a shell: its name, its help text, and what it does with its argument. -/
structure ShellCommand (σ : Type) where
  name : String
  help : String
  act : σ → Terminal → List Char → ShellReply σ

/-- A shell: its commands by name, in alphabetical order. -/
structure Shell (σ : Type) where
  commands : List (ShellCommand σ)

/-- A shell at work, with the line that an empty line repeats. -/
structure ShellState (σ : Type) where
  inner : σ
  last : List Char

namespace Shell

variable {σ : Type}

def goOn (state : σ) (terminal : Terminal) : ShellReply σ :=
  ⟨state, terminal, .ok false⟩

/-- What is said of the command that gives help. -/
def helpOnHelp : String := "List available commands with \"help\" or detailed help with \"help cmd\"."

/-- The heading over the list of commands. -/
def helpHeading : String := "Documented commands (type help <topic>):"

/-- The names of the commands, with the one that gives help, in alphabetical order. -/
def names (shell : Shell σ) : List String :=
  let own := shell.commands.map ShellCommand.name
  own.takeWhile (· < "help") ++ "help" :: own.dropWhile (· < "help")

def helpOn? (shell : Shell σ) (name : String) : Option String :=
  if name = "help" then some helpOnHelp
  else (shell.commands.find? fun command => command.name = name).map ShellCommand.help

def giveHelp (shell : Shell σ) (terminal : Terminal) (topic : List Char) : Terminal :=
  if topic.isEmpty then
    let ruler := String.ofList (List.replicate helpHeading.length '=')
    terminal.writeLines ["", helpHeading, ruler, String.intercalate "  " shell.names, ""]
  else
    match shell.helpOn? (String.ofList topic) with
    | some help => terminal.writeLine help
    | none => terminal.writeLine ("*** No help on " ++ String.ofList topic)

def fallback (terminal : Terminal) (line : List Char) : Terminal :=
  terminal.writeLine ("[default handler] You entered: " ++ String.ofList (quoted line))

def isWordCharacter (c : Char) : Bool :=
  c.isAlphanum || c == '_'

/-- Answers a trimmed line that is not empty. The line is remembered before it is acted on; one that
starts with an exclamation mark is not, and the word for the end of input makes nothing remembered. -/
def interpret (shell : Shell σ) (state : ShellState σ) (terminal : Terminal) (line : List Char) :
    ShellReply (ShellState σ) :=
  if line.head? = some '!' then goOn state (fallback terminal line)
  else
    let line := match line with
      | '?' :: rest => "help ".toList ++ rest
      | line => line
    let state := { state with last := if line = "EOF".toList then [] else line }
    let word := String.ofList (line.takeWhile isWordCharacter)
    let argument := trim (line.dropWhile isWordCharacter)
    if word = "help" then goOn state (shell.giveHelp terminal argument)
    else
      match shell.commands.find? fun command => command.name = word with
      | none => goOn state (fallback terminal line)
      | some command =>
        let reply := command.act state.inner terminal argument
        ⟨{ state with inner := reply.state }, reply.terminal, reply.result⟩

def answer (shell : Shell σ) (state : ShellState σ) (terminal : Terminal) (line : List Char) :
    ShellReply (ShellState σ) :=
  let line := trim line
  if !line.isEmpty then shell.interpret state terminal line
  else if !state.last.isEmpty then shell.interpret state terminal (trim state.last)
  else goOn state terminal

/-- What a shell says first. -/
def greeting : String := "Welcome to MyShell. Type help or ? to list commands."

def prompt : String := "myshell> "

inductive Ending where
  | left
  | failed (fault : Fault)
  | exhausted

/-- Reads the next line. When nothing is left to be read, a word for the end of input stands for it. -/
def readLine (terminal : Terminal) : Terminal × Except Fault String :=
  match terminal.read prompt with
  | (terminal, .error .endOfInput) => (terminal, .ok "EOF")
  | other => other

/-- Reads and answers at most `turns` lines. -/
def converse (shell : Shell σ) : Nat → ShellState σ → Terminal → ShellState σ × Terminal × Ending
  | 0, state, terminal => (state, terminal, .exhausted)
  | turns + 1, state, terminal =>
    match readLine terminal with
    | (terminal, .error fault) => (state, terminal, .failed fault)
    | (terminal, .ok line) =>
      let reply := shell.answer state terminal line.toList
      match reply.result with
      | .error fault => (reply.state, reply.terminal, .failed fault)
      | .ok true => (reply.state, reply.terminal, .left)
      | .ok false => shell.converse turns reply.state reply.terminal

/-- A session from the greeting on, for as long as there are lines to read. -/
def session (shell : Shell σ) (start : σ) (terminal : Terminal) : ShellState σ × Terminal × Ending :=
  shell.converse (terminal.script.length + 1) ⟨start, []⟩ (terminal.writeLine greeting)

end Shell

end StackMachine

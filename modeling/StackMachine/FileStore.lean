import StackMachine.Fault
import StackMachine.Text.Blank

/-!
Files that a debugger can load: bytes under paths below one directory, and the texts that bytes hold.
-/

set_option autoImplicit false

namespace StackMachine

open Text

/-- A path: what it starts with if it is absolute, and the names it is made of. -/
structure Path where
  root : String
  names : List String
  deriving Repr, DecidableEq

namespace Path

/-- Reads a path. Empty names and the name of the directory itself mean nothing. Exactly two slashes at
the start are kept apart from one; more than two are as good as one. -/
def read (text : List Char) : Path :=
  let names := ((cut (· == '/') text).map String.ofList).filter fun name => name != "" && name != "."
  match (text.takeWhile (· == '/')).length with
  | 0 => ⟨"", names⟩
  | 2 => ⟨"//", names⟩
  | _ => ⟨"/", names⟩

def text (path : Path) : String :=
  path.root ++ String.intercalate "/" path.names

/-- The longest path, in bytes. -/
def longest : Nat := 4095

/-- The longest name of a file or directory, in bytes. -/
def longestName : Nat := 255

end Path

/-- A place that a path can lead to: one below the top directory by its names from there, or one outside
of it. Outside, nothing but directories above is known. -/
inductive Place where
  | inside (names : List String)
  | outside
  deriving Repr, DecidableEq

namespace Place

def parent : Place → Place
  | .inside [] => .outside
  | .inside names => .inside names.dropLast
  | .outside => .outside

end Place

/-- Where following a path ends. -/
inductive Destination where
  | place (place : Place)
  | nowhere
  | nameTooLong
  deriving Repr, DecidableEq

/-- Files by the names of their directories and their own name. Of two files with one path the later
counts. -/
structure FileStore where
  files : List (List String × List UInt8)

namespace FileStore

def add (store : FileStore) (path : String) (bytes : List UInt8) : FileStore :=
  ⟨((Path.read path.toList).names, bytes) :: store.files⟩

def file? (store : FileStore) (names : List String) : Option (List UInt8) :=
  (store.files.find? fun file => file.1 = names).map Prod.snd

/-- Whether a place is a directory: outside, the top, or one with a file below it. -/
def isDirectory (store : FileStore) : Place → Bool
  | .outside => true
  | .inside names =>
    names.isEmpty || store.files.any fun file => file.1.length > names.length && file.1.take names.length = names

/-- Follows names from a place on, as long as they lead through directories. A name that is too long is
noticed when it is come to. -/
def follow (store : FileStore) (place : Place) : List String → Destination
  | [] => .place place
  | name :: rest =>
    if !store.isDirectory place then .nowhere
    else if name.utf8ByteSize > Path.longestName then .nameTooLong
    else if name = ".." then store.follow place.parent rest
    else
      match place with
      | .inside names => store.follow (.inside (names ++ [name])) rest
      | .outside => .nowhere

/-- Where a path leads to. A path that is too long as a whole is not followed. -/
def destination (store : FileStore) (path : Path) : Destination :=
  if path.text.utf8ByteSize > Path.longest then .nameTooLong
  else store.follow (if path.root = "" then .inside [] else .outside) path.names

/-- The bytes that a path leads to; none if it leads to no file. No file has a null character in its
path. -/
def lookup (store : FileStore) (text : List Char) : Except Fault (Option (List UInt8)) :=
  if text.contains '\x00' then .ok none
  else
    let path := Path.read text
    match store.destination path with
    | .nameTooLong => .error (.nameTooLong path.text)
    | .place (.inside names) => .ok (store.file? names)
    | .place .outside | .nowhere => .ok none

end FileStore

/-- The text with every carriage return, alone or before a newline, written as one newline. -/
def Text.uniformLineEnds : List Char → List Char
  | [] => []
  | '\r' :: '\n' :: rest => '\n' :: uniformLineEnds rest
  | '\r' :: rest => '\n' :: uniformLineEnds rest
  | c :: rest => c :: uniformLineEnds rest

/-- The text that the bytes of a file hold, with uniform line ends. -/
def fileText (bytes : List UInt8) : Except Fault (List Char) :=
  match decodeUtf8 bytes with
  | .ok text => .ok (uniformLineEnds text)
  | .error fault => .error (.encoding fault)

end StackMachine

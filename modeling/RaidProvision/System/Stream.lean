import RaidProvision.FileTree.Change

/-!
# Streams

A `System` has files and streams, where a stream is a pipe or a place in a file. Whoever shares a
stream shares its place. Texts are texts of octets. Programs run one after the other, so a pipe
simply holds what was written to it and not yet read.

* `putPlace_append`: writing at the end appends.
-/
namespace RaidProvision

/-- What can be open. -/
inductive Stream where
  /-- It is empty and forgets what is written to it. -/
  | null
  | pipe (held : String)
  /-- A place in a file, or its end for all that is written. -/
  | file (way : Way) (offset : Nat) (append : Bool)
  deriving DecidableEq, Repr

/-- The files and streams of a system. -/
structure System where
  files : FileTree
  streams : Array Stream
  deriving Repr

namespace System

/-- Opens a stream. Returns its number. -/
def openStream (system : System) (stream : Stream) : Nat × System :=
  (system.streams.size, { system with streams := system.streams.push stream })

def stream (system : System) (number : Nat) : Stream := system.streams[number]?.getD .null

def setStream (system : System) (number : Nat) (stream : Stream) : System :=
  { system with streams := system.streams.setIfInBounds number stream }

/-- The content of the file at a way. -/
def contentAt (system : System) (way : Way) : String :=
  ((system.files.lookup? way).map Entry.content).getD ""

/-- What can be read from a stream. -/
def held (system : System) (number : Nat) : List Char :=
  match system.stream number with
  | .null => []
  | .pipe held => held.toList
  | .file way offset _ => (system.contentAt way).toList.drop offset

/-- Passes over some characters of a stream. -/
def pass (system : System) (number count : Nat) : System :=
  match system.stream number with
  | .null => system
  | .pipe held => system.setStream number (.pipe (String.ofList (held.toList.drop count)))
  | .file way offset append => system.setStream number (.file way (offset + count) append)

/-- Reads all that a stream holds. -/
def readAll (system : System) (number : Nat) : String × System :=
  let held := system.held number
  (String.ofList held, system.pass number held.length)

/-- A content with a text put over it at a place. -/
def putPlace (content : List Char) (offset : Nat) (text : List Char) : List Char :=
  let before := content.take offset
  before ++ List.replicate (offset - before.length) '\x00' ++ text ++
    content.drop (offset + text.length)

theorem putPlace_append (content text : List Char) :
    putPlace content content.length text = content ++ text := by
  simp [putPlace]

/-- Writes to a stream. -/
def write (system : System) (number : Nat) (text : String) : System :=
  match system.stream number with
  | .null => system
  | .pipe held => system.setStream number (.pipe (held ++ text))
  | .file way offset append =>
    let content := (system.contentAt way).toList
    let place := if append then content.length else offset
    let files := system.files.write way (String.ofList (putPlace content place text.toList))
    { system with files := files }.setStream number (.file way (place + text.length) append)

end System
end RaidProvision

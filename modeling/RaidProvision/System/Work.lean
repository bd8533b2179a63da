import RaidProvision.System.Stream

/-!
# What programs do

A program works in a `Process`: it has a directory, descriptors that lead to streams, and variables
that it was given. It ends with a status, which is zero if it succeeded.

* `run_print`: what is printed goes to the stream of descriptor 1.
-/
namespace RaidProvision

/-- What a program has from the one who started it. -/
structure Process where
  /-- What the program calls itself when it complains. -/
  name : String
  directory : Way
  descriptors : List (Nat × Nat)
  environment : List (String × String)
  deriving Repr

/-- What a program does with the system. -/
abbrev Work (α : Type) := ReaderT Process (StateM System) α

/-- A program with its arguments ends with a status. -/
abbrev Utility := List String → Work Nat

namespace Work

/-- The stream that a descriptor leads to. -/
def stream? (descriptor : Nat) : Work (Option Nat) :=
  return (← read).descriptors.lookup descriptor

def files : Work FileTree := return (← getThe System).files

def setFiles (files : FileTree) : Work Unit :=
  modifyThe System fun system => { system with files := files }

/-- Writes to a descriptor, if it is open. -/
def write (descriptor : Nat) (text : String) : Work Unit := do
  match ← stream? descriptor with
  | some number => modifyThe System fun system => system.write number text
  | none => return ()

def print (text : String) : Work Unit := write 1 text

theorem run_print (text : String) (process : Process) (system : System) (number : Nat)
    (h : process.descriptors.lookup 1 = some number) :
    (print text process).run system = ((), system.write number text) := by
  show ((match process.descriptors.lookup 1 with
    | some number => modifyThe System fun system => system.write number text
    | none => return () : Work Unit) process).run system = _
  rw [h]
  rfl

/-- Writes a complaint. -/
def complain (text : String) : Work Unit := do
  write 2 ((← read).name ++ ": " ++ text ++ "\n")

/-- Complains about a path. -/
def complainOf (path : String) (cause : OsError) : Work Unit :=
  complain s!"{path}: {cause.plainMessage}"

/-- Complains and fails. -/
def fail (status : Nat) (text : String) : Work Nat := do
  complain text
  return status

/-- Reads all of a descriptor. -/
def readAll (descriptor : Nat) : Work (Except OsError String) := do
  match ← stream? descriptor with
  | none => return .error .badDescriptor
  | some number => do
    let (text, system) := (← getThe System).readAll number
    set system
    return .ok text

/-- Whether the standard input is a file. -/
def readsFile : Work Bool := do
  match (← stream? 0).map (← getThe System).stream with
  | some (.file ..) => return true
  | _ => return false

/-- Reads a file, or what is open under the descriptor that it stands for. -/
def readFile (path : String) : Work (Except OsError String) := do
  match (← files).find (← read).directory path with
  | .error cause => return .error cause
  | .ok (_, .directory) => return .error .isADirectory
  | .ok (_, .opened descriptor) => readAll descriptor
  | .ok (_, entry) => return .ok entry.content

/-- Reads an operand of a filter, where a dash is the standard input. -/
def readOperand (path : String) : Work (Except OsError String) :=
  if path = "-" then readAll 0 else readFile path

/-- The operands of a filter that can be read, with their texts, and whether all can. Without
operands it is the standard input. -/
def readOperands (paths : List String) : Work (List (String × String) × Bool) := do
  let mut texts := #[]
  let mut complete := true
  for path in if paths.isEmpty then ["-"] else paths do
    match ← readOperand path with
    | .ok text => texts := texts.push (path, text)
    | .error cause =>
      complainOf path cause
      complete := false
  return (texts.toList, complete)

/-- The texts of all operands one after the other, and whether all can be read. -/
def readJoined (paths : List String) : Work (String × Bool) := do
  let (texts, complete) ← readOperands paths
  return (String.join (texts.map Prod.snd), complete)

/-- Writes a file, or what is open under the descriptor that it stands for. -/
def writeFile (path text : String) (append : Bool) : Work (Except OsError Unit) := do
  let tree ← files
  match tree.destination (← read).directory path with
  | .error cause => return .error cause
  | .ok way =>
    match tree.lookup? way with
    | some (.opened descriptor) => write descriptor text
    | some entry => setFiles (tree.write way (if append then entry.content ++ text else text))
    | none => setFiles (tree.write way text)
    return .ok ()

/-- Changes the files, or complains about a path. Returns whether that worked. -/
def change (path : String) (result : FileTree → Way → Except OsError FileTree) : Work Bool := do
  match result (← files) (← read).directory with
  | .ok tree =>
    setFiles tree
    return true
  | .error cause =>
    complainOf path cause
    return false

/-- The status of something that worked or did not. -/
def statusOf (worked : Bool) : Nat := if worked then 0 else 1

end Work

/-- The lines of a text, each without its end, and whether the last one has an end. -/
def splitLines (text : String) : List String × Bool :=
  let pieces := Text.pieces '\n' text
  if pieces.getLast? = some "" then (pieces.dropLast, true) else (pieces, false)

/-- Lines as a text. -/
def joinLines (lines : List String) : String := String.join (lines.map (· ++ "\n"))

end RaidProvision

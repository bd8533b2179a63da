import RaidProvision.Shell.Expansion

/-!
# Redirections

A redirection leads a descriptor to a file, to what another descriptor leads to, or to a text of the
script. Files are made or emptied when they are opened to be written.

* `lookup_connect`: a descriptor leads where it was led to.
-/
namespace RaidProvision.Shell

/-- Leads a descriptor to a stream. -/
def connect (descriptors : List (Nat × Nat)) (descriptor number : Nat) : List (Nat × Nat) :=
  (descriptor, number) :: descriptors.filter (·.1 != descriptor)

theorem lookup_connect (descriptors : List (Nat × Nat)) (descriptor number : Nat) :
    (connect descriptors descriptor number).lookup descriptor = some number := by
  simp [connect]

/-- Why a redirection is not possible. -/
abbrev Redirecting (α : Type) := ExceptT String (StateM State) α

namespace Redirecting

/-- Opens a stream and leads a descriptor to it. -/
def openStream (descriptor : Nat) (stream : Stream) : Redirecting Unit :=
  modify fun state =>
    let (number, system) := state.system.openStream stream
    { state with system := system, descriptors := connect state.descriptors descriptor number }

/-- Leads a descriptor to where another one leads. -/
def copy (descriptor source : Nat) : Redirecting Unit := do
  match (← get).descriptors.lookup source with
  | some number =>
    modify fun state => { state with descriptors := connect state.descriptors descriptor number }
  | none => throw s!"{source}: Bad file descriptor"

def close (descriptor : Nat) : Redirecting Unit :=
  modify fun state =>
    { state with descriptors := state.descriptors.filter (·.1 != descriptor) }

/-- Opens what stands in the files, other than a file itself. -/
def openEntry (descriptor : Nat) (way : Way) : Entry → Redirecting Unit
  | .opened source => copy descriptor source
  | .file .. => openStream descriptor (.file way 0 false)
  | _ => openStream descriptor .null

/-- What is said about a file that cannot be opened. -/
def refusal (task missing path : String) (cause : OsError) : String :=
  let reason := if cause = .notFound then missing else cause.plainMessage
  s!"cannot {task} {path}: {reason}"

def openToRead (descriptor : Nat) (path : String) : Redirecting Unit := do
  let state ← get
  match state.system.files.find state.directory path with
  | .ok (way, entry) => openEntry descriptor way entry
  | .error cause => throw (refusal "open" "No such file" path cause)

/-- Opens a file to be written, which is emptied unless it is to be kept. -/
def openToWrite (descriptor : Nat) (path : String) (keep append : Bool) : Redirecting Unit := do
  let state ← get
  let files := state.system.files
  match files.destination state.directory path with
  | .error cause => throw (refusal "create" "Directory nonexistent" path cause)
  | .ok way =>
    let content := if keep then ((files.lookup? way).map Entry.content).getD "" else ""
    match files.lookup? way with
    | none | some (.file ..) =>
      let system := { state.system with files := files.write way content }
      set { state with system := system }
      openStream descriptor (.file way 0 append)
    | some entry => openEntry descriptor way entry

/-- Does what a redirection asks for, with the text of its word. -/
def perform (descriptor : Nat) (transfer : Transfer) (text : String) : Redirecting Unit :=
  match transfer with
  | .read => openToRead descriptor text
  | .write => openToWrite descriptor text false false
  | .append => openToWrite descriptor text true true
  | .update => openToWrite descriptor text true false
  | .document => openStream descriptor (.pipe text)
  | .copy =>
    if text = "-" then close descriptor
    else
      match text.toNat? with
      | some source => copy descriptor source
      | none => throw s!"{text}: bad file descriptor"

end Redirecting

/-- Performs redirections. Complains and returns false if one is not possible. -/
def redirectAll (capture : Statement → Action String) : List Redirection → Action Bool
  | [] => return true
  | .mk descriptor transfer word :: rest => do
    let text ← expandText capture word
    let (result, state) := (Redirecting.perform descriptor transfer text).run (← get)
    set state
    match result with
    | .ok () => redirectAll capture rest
    | .error fault => do
      Action.complain fault
      return false

end RaidProvision.Shell

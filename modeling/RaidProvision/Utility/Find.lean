import RaidProvision.Shell.Pattern
import RaidProvision.Utility.Files
import RaidProvision.Utility.Launch

/-!
# Finding files

Directories are gone through from the top down. What passes the tests is printed, or given to a
program.

* `passes_nothing`: without tests everything passes.
-/
namespace RaidProvision.Finding

open RaidProvision.Shell

/-- What is asked of a file. -/
inductive Test where
  | name (pattern : String) (fold : Bool)
  | path (pattern : String)
  | directory
  | file
  | empty
  | never
  | not (test : Test)
  deriving Repr

/-- What is done with a file that passes. -/
inductive Deed where
  | print
  | printClosed
  | delete
  /-- Runs a program, for all files at once or for each of them. -/
  | run (words : List String) (together : Bool)
  deriving Repr

structure Request where
  paths : List String
  tests : List Test
  deeds : List Deed
  least : Nat
  most : Option Nat

/-- A file that was come across. -/
structure Found where
  path : String
  depth : Nat
  way : Way
  entry : Entry

/-- The name that tests are about. -/
def Found.name (found : Found) : String := Utility.baseName found.path

def matchesName (pattern s : String) : Bool :=
  Wildcard.matchAll (patternOf (pattern.toList.map (·, false))) s.toList

def passes (files : FileTree) (found : Found) : Test → Bool
  | .name pattern false => matchesName pattern found.name
  | .name pattern true => matchesName (pattern.map Char.toLower) (found.name.map Char.toLower)
  | .path pattern => matchesName pattern found.path
  | .directory => found.entry = .directory
  | .file =>
    match found.entry with
    | .file .. | .program _ => true
    | _ => false
  | .empty =>
    match found.entry with
    | .directory => (files.names found.way).isEmpty
    | .file content _ => content.isEmpty
    | _ => false
  | .never => false
  | .not test => !passes files found test

theorem passes_nothing (files : FileTree) (found : Found) :
    ([] : List Test).all (passes files found) := rfl

/-- Reads tests and deeds. `fuel` bounds the number of arguments. -/
def readRequest : (fuel : Nat) → Request → List String → Except String Request
  | 0, request, _ => .ok request
  | _, request, [] => .ok request
  | fuel + 1, request, arg :: rest =>
    let test (test : Test) := { request with tests := request.tests ++ [test] }
    let deed (deed : Deed) := { request with deeds := request.deeds ++ [deed] }
    match arg, rest with
    | "-name", pattern :: rest => readRequest fuel (test (.name pattern false)) rest
    | "-iname", pattern :: rest => readRequest fuel (test (.name pattern true)) rest
    | "-path", pattern :: rest => readRequest fuel (test (.path pattern)) rest
    | "-type", "d" :: rest => readRequest fuel (test .directory) rest
    | "-type", "f" :: rest => readRequest fuel (test .file) rest
    | "-type", _ :: rest => readRequest fuel (test .never) rest
    | "-empty", rest => readRequest fuel (test .empty) rest
    | "-maxdepth", n :: rest => readRequest fuel { request with most := n.toNat? } rest
    | "-mindepth", n :: rest => readRequest fuel { request with least := n.toNat?.getD 0 } rest
    | "-print", rest => readRequest fuel (deed .print) rest
    | "-print0", rest => readRequest fuel (deed .printClosed) rest
    | "-delete", rest => readRequest fuel (deed .delete) rest
    | "-exec", rest =>
      let words := rest.takeWhile fun word => word != ";" && word != "+"
      match rest.drop words.length with
      | finish :: rest => readRequest fuel (deed (.run words (finish == "+"))) rest
      | [] => .error "missing argument to '-exec'"
    | "!", rest | "-not", rest =>
      match readRequest fuel { request with tests := [] } rest with
      | .error fault => .error fault
      | .ok later =>
        let negated := later.tests.zipIdx.map fun (test, i) => if i = 0 then .not test else test
        .ok { later with tests := request.tests ++ negated }
    | "-a", rest => readRequest fuel request rest
    | arg, _ => .error s!"unknown predicate '{arg}'"

/-- What arguments ask for. -/
def requestOf (args : List String) : Except String Request :=
  let paths := args.takeWhile fun arg => !arg.startsWith "-" && arg != "!"
  let base : Request := ⟨if paths.isEmpty then ["."] else paths, [], [], 0, none⟩
  readRequest args.length base (args.drop paths.length)

/-- A file and all below it, from the top down. `fuel` bounds the depth. -/
def descend (files : FileTree) : (fuel : Nat) → Found → List Found
  | 0, found => [found]
  | fuel + 1, found =>
    if found.entry != .directory then [found]
    else
      found :: (files.names found.way).flatMap fun name =>
        let way := found.way ++ [name]
        let path := found.path ++ (if found.path.endsWith "/" then "" else "/") ++ name
        descend files fuel ⟨path, found.depth + 1, way, (files.lookup? way).getD .directory⟩

/-- A word with a path put in for braces. -/
def putPath (path word : String) : String := path.intercalate (word.splitOn "\x7b\x7d")

end RaidProvision.Finding

namespace RaidProvision.Utility

open RaidProvision.Finding

/-- Does something with a file that passes. -/
def performDeed (launch : Launch) (found : Found) (deed : Deed) : Work Unit := do
  match deed with
  | .print => Work.print (found.path ++ "\n")
  | .printClosed => Work.print (found.path ++ "\x00")
  | .delete => Work.setFiles ((← Work.files).erase found.way)
  | .run words false => discard (launchOrFail launch (words.map (putPath found.path)))
  | .run _ true => return ()

/-- Finds files. -/
def find (launch : Launch) : Utility := fun args => do
  match requestOf args with
  | .error fault => Work.fail 1 fault
  | .ok request =>
    let deeds := if request.deeds.isEmpty then [.print] else request.deeds
    let mut complete := true
    let mut passed := #[]
    for path in request.paths do
      let files ← Work.files
      match files.find (← read).directory path with
      | .error cause =>
        Work.complain s!"'{path}': {cause.plainMessage}"
        complete := false
      | .ok (way, entry) =>
        for found in descend files (files.entries.length + 1) ⟨path, 0, way, entry⟩ do
          let near := request.least ≤ found.depth && request.most.all (found.depth ≤ ·)
          if near && request.tests.all (passes files found) then
            deeds.forM (performDeed launch found)
            passed := passed.push found.path
    for deed in deeds do
      if let .run words true := deed then
        if !passed.isEmpty then
          discard (launchOrFail launch (words.filter (· != "\x7b\x7d") ++ passed.toList))
    return Work.statusOf complete

end RaidProvision.Utility

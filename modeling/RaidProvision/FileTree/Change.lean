import RaidProvision.FileTree.Path

/-!
# Changing files

Files are made, written and removed, and so are directories. What fails changes nothing.

* `lookup?_write`: what is found after a file was written.
-/
namespace RaidProvision

/-- An entry after a content was written to it; nothing becomes a file. -/
def Entry.written (content : String) : Option Entry → Entry
  | none => .file content false
  | some (.file _ executable) => .file content executable
  | some entry => entry

namespace FileTree

/-- Writes the content of what stands at the end of a way. -/
def write (tree : FileTree) (way : Way) (content : String) : FileTree :=
  tree.set way (Entry.written content (tree.lookup? way))

theorem lookup?_write (tree : FileTree) (way : Way) (content : String) (h : way ≠ []) :
    (tree.write way content).lookup? way = some (Entry.written content (tree.lookup? way)) := by
  simp [write, lookup?_set tree way way _ h]

/-- Makes a file unless there is one. -/
def touch (tree : FileTree) (base : Way) (path : String) : Except OsError FileTree :=
  match tree.destination base path with
  | .error cause => .error cause
  | .ok way => .ok (if (tree.lookup? way).isSome then tree else tree.write way "")

/-- Makes a directory. -/
def makeDirectory (tree : FileTree) (base : Way) (path : String) : Except OsError FileTree :=
  match tree.locate base path with
  | .error cause => .error cause
  | .ok location =>
    if (tree.lookup? location.way).isSome then .error .alreadyThere
    else .ok (tree.set location.way .directory)

/-- Makes the directories that are missing on the way down from a directory. -/
def makeWay (tree : FileTree) : Way → List String → Except OsError FileTree
  | _, [] => .ok tree
  | way, part :: rest =>
    match step way part with
    | .error cause => .error cause
    | .ok next =>
      match tree.lookup? next with
      | none => makeWay (tree.set next .directory) next rest
      | some .directory => tree.makeWay next rest
      | some _ => .error .alreadyThere

/-- Makes a directory and those that lead to it. -/
def makeDirectories (tree : FileTree) (base : Way) (path : String) : Except OsError FileTree :=
  tree.makeWay (start base path) (parts path)

/-- Replaces a file and makes the directories that lead to it. -/
def replace (tree : FileTree) (base : Way) (path content : String) : Except OsError FileTree :=
  match tree.makeWay (start base path) (parts path).dropLast with
  | .error cause => .error cause
  | .ok tree => (tree.destination base path).map fun way => tree.write way content

/-- Takes away a file. -/
def removeFile (tree : FileTree) (base : Way) (path : String) : Except OsError FileTree :=
  match tree.find base path with
  | .error cause => .error cause
  | .ok (_, .directory) => .error .isADirectory
  | .ok (way, _) => .ok (tree.erase way)

/-- Takes away an empty directory. -/
def removeDirectory (tree : FileTree) (base : Way) (path : String) : Except OsError FileTree :=
  match tree.find base path with
  | .error cause => .error cause
  | .ok (way, .directory) =>
    if (tree.names way).isEmpty then .ok (tree.erase way) else .error .notEmpty
  | .ok _ => .error .notADirectory

/-- Takes away all that a way leads to or through. -/
def eraseAll (tree : FileTree) (way : Way) : FileTree :=
  ⟨tree.entries.filter fun (other, _) => !way.isPrefixOf other⟩

/-- What a directory holds, by the ways from there on. -/
def below (tree : FileTree) (way : Way) : List (Way × Entry) :=
  tree.entries.filterMap fun (other, entry) =>
    if way.isPrefixOf other then some (other.drop way.length, entry) else none

/-- Puts a copy of what a way leads to or through at another way. -/
def copyAll (tree : FileTree) (source target : Way) : FileTree :=
  (tree.below source).foldl (fun tree (rest, entry) => tree.set (target ++ rest) entry) tree

/-- Says whether a file can be run. -/
def setExecutable (tree : FileTree) (way : Way) (executable : Bool) : FileTree :=
  match tree.lookup? way with
  | some (.file content _) => tree.set way (.file content executable)
  | _ => tree

/-- The directories and devices that every system has, and its programs. -/
def standard (programs : List String) : FileTree :=
  let directories : List Way :=
    [["bin"], ["dev"], ["etc"], ["home"], ["lib"], ["opt"], ["proc"], ["root"], ["run"], ["sbin"],
      ["sys"], ["tmp"], ["usr"], ["usr", "bin"], ["usr", "lib"], ["usr", "sbin"], ["var"]]
  let devices : List (Way × Entry) :=
    [(["dev", "null"], .null), (["dev", "stdin"], .opened 0), (["dev", "stdout"], .opened 1),
      (["dev", "stderr"], .opened 2), (["dev", "fd"], .directory)] ++
      (List.range 10).map fun n => (["dev", "fd", Nat.repr n], .opened n)
  let places : List Way := [["bin"], ["usr", "bin"]]
  ⟨directories.map (·, .directory) ++ devices ++
    places.flatMap fun place => programs.map fun name => (place ++ [name], .program name)⟩

end FileTree
end RaidProvision

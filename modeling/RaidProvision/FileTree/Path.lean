import RaidProvision.FileTree.Basic
import RaidProvision.Session.OsError
import RaidProvision.Text.Split

/-!
# Paths

A path is names with slashes between them. It is followed from the root if it starts with a slash,
else from some directory: `.` stays, `..` goes up, a name goes down. All that is gone through has to
be a directory; the end may be missing. A slash or a dot at the end asks for a directory.

* `follow_append`: a path in two parts is followed one part after the other.
* `locate_empty`: the empty path leads nowhere.
-/
namespace RaidProvision.FileTree

open RaidProvision.Text

/-- The length that a name may have. -/
def maxName : Nat := 255

/-- The length that a path may have. -/
def maxPath : Nat := 4095

/-- The names in a path. -/
def parts (path : String) : List String := (pieces '/' path).filter (!·.isEmpty)

/-- Where a path starts. -/
def start (base : Way) (path : String) : Way := if path.startsWith "/" then [] else base

/-- Goes on from a directory. -/
def step (way : Way) (part : String) : Except OsError Way :=
  if part = "." then .ok way
  else if part = ".." then .ok way.dropLast
  else if maxName < part.length then .error .nameTooLong
  else .ok (way ++ [part])

/-- Follows names. -/
def follow (tree : FileTree) : Way → List String → Except OsError Way
  | way, [] => .ok way
  | way, part :: rest =>
    match tree.lookup? way with
    | none => .error .notFound
    | some .directory =>
      match step way part with
      | .ok next => tree.follow next rest
      | .error cause => .error cause
    | some _ => .error .notADirectory

theorem follow_append (tree : FileTree) (way : Way) (first second : List String) :
    tree.follow way (first ++ second) =
      (tree.follow way first).bind fun next => tree.follow next second := by
  induction first generalizing way with
  | nil => rfl
  | cons part rest ih =>
    simp only [List.cons_append, follow]
    split
    · rfl
    · split
      · exact ih _
      · rfl
    · rfl

/-- Where a path leads. -/
structure Location where
  way : Way
  /-- Whether the path asks for a directory. -/
  asksDirectory : Bool
  deriving DecidableEq, Repr

/-- Whether a path ends in a slash or a dot. -/
def asksDirectory (path : String) : Bool :=
  path.endsWith "/" || (parts path).getLast?.all fun part => part = "." || part = ".."

/-- Follows a path from a directory. -/
def locate (tree : FileTree) (base : Way) (path : String) : Except OsError Location :=
  if path.toList.contains '\x00' then .error .nulInPath
  else if path.isEmpty then .error .notFound
  else if maxPath < path.length then .error .nameTooLong
  else
    (tree.follow (start base path) (parts path)).map fun way =>
      ⟨way, asksDirectory path⟩

theorem locate_empty (tree : FileTree) (base : Way) : tree.locate base "" = .error .notFound := by
  simp [locate]

/-- What stands where a path leads. -/
def find (tree : FileTree) (base : Way) (path : String) : Except OsError (Way × Entry) :=
  match tree.locate base path with
  | .error cause => .error cause
  | .ok location =>
    match tree.lookup? location.way with
    | none => .error .notFound
    | some .directory => .ok (location.way, .directory)
    | some entry =>
      if location.asksDirectory then .error .notADirectory else .ok (location.way, entry)

/-- The content of a file. -/
def read (tree : FileTree) (base : Way) (path : String) : Except OsError String :=
  match tree.find base path with
  | .error cause => .error cause
  | .ok (_, .directory) => .error .isADirectory
  | .ok (_, entry) => .ok entry.content

/-- Where a file can be written, which need not be there. -/
def destination (tree : FileTree) (base : Way) (path : String) : Except OsError Way :=
  match tree.locate base path with
  | .error cause => .error cause
  | .ok location =>
    if location.asksDirectory || tree.isDirectory location.way then .error .isADirectory
    else .ok location.way

end RaidProvision.FileTree

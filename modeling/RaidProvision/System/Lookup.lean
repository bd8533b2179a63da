import RaidProvision.FileTree.Path

/-!
# Looking for programs

A program is named by its path, or by its name alone, which is looked for in some directories one
after the other.

* `lookUp_nowhere`: without directories nothing is found.
-/
namespace RaidProvision.FileTree

open RaidProvision.Text

/-- The program that a path leads to. -/
def programAt (files : FileTree) (base : Way) (path : String) : Except OsError Entry :=
  match files.find base path with
  | .error cause => .error cause
  | .ok (_, entry) => if entry.isExecutable then .ok entry else .error .permissionDenied

/-- The path of a program in the first of some directories that has it. What cannot be run is passed
over, but told if nothing else is found. -/
def lookUp (files : FileTree) (base : Way) (name : String) : List String → Except OsError String
  | [] => .error .notFound
  | place :: rest =>
    let path := if place.isEmpty then name else place ++ "/" ++ name
    match files.programAt base path with
    | .ok _ => .ok path
    | .error .permissionDenied =>
      match lookUp files base name rest with
      | .ok path => .ok path
      | .error _ => .error .permissionDenied
    | .error _ => lookUp files base name rest

theorem lookUp_nowhere (files : FileTree) (base : Way) (name : String) :
    files.lookUp base name [] = .error .notFound := rfl

/-- The path of a program and what stands there. -/
def program (files : FileTree) (base : Way) (places : List String) (name : String) :
    Except OsError (String × Entry) := do
  let path ← if name.toList.contains '/' then pure name else files.lookUp base name places
  return (path, ← files.programAt base path)

/-- Where programs are looked for if nothing else is said, with colons between the directories. -/
def standardPlaces : String :=
  "/usr/local/sbin:/usr/local/bin:/usr/sbin:/usr/bin:/sbin:/bin"

/-- Where the variables of a program say that others are looked for. -/
def placesOf (environment : List (String × String)) : List String :=
  pieces ':' ((environment.lookup "PATH").getD standardPlaces)

end RaidProvision.FileTree

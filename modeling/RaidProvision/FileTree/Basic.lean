/-!
# Files in memory

A `FileTree` holds what stands at the end of each way, where a way is the names that lead there from
the root. Names and contents are texts of octets. The root is always a directory.

* `lookup?_set`: what is found after something was put at a way.
* `lookup?_erase`: what is found after something was taken away.
-/
namespace RaidProvision

/-- What stands at the end of a way. -/
inductive Entry where
  | directory
  | file (content : String) (executable : Bool)
  /-- A program of the system. -/
  | program (name : String)
  /-- A file that is empty and forgets what is written to it. -/
  | null
  /-- What the one who opens it has open under a number. -/
  | opened (descriptor : Nat)
  deriving DecidableEq, Repr

namespace Entry

/-- What is read from an entry that is no directory. -/
def content : Entry → String
  | file content _ => content
  | _ => ""

def isExecutable : Entry → Bool
  | file _ executable => executable
  | program _ => true
  | _ => false

end Entry

/-- The names that lead to a place from the root. -/
abbrev Way := List String

/-- What stands where. -/
structure FileTree where
  entries : List (Way × Entry)
  deriving DecidableEq, Repr

namespace FileTree

def empty : FileTree := ⟨[]⟩

/-- What stands at the end of a way. -/
def lookup? (tree : FileTree) (way : Way) : Option Entry :=
  if way.isEmpty then some .directory else tree.entries.lookup way

def isDirectory (tree : FileTree) (way : Way) : Bool := tree.lookup? way = some .directory

/-- Puts something at the end of a way. -/
def set (tree : FileTree) (way : Way) (entry : Entry) : FileTree :=
  ⟨(way, entry) :: tree.entries.filter (·.1 != way)⟩

/-- Takes away what stands at the end of a way. -/
def erase (tree : FileTree) (way : Way) : FileTree := ⟨tree.entries.filter (·.1 != way)⟩

/-- The names in a directory, in order. -/
def names (tree : FileTree) (way : Way) : List String :=
  let inside := tree.entries.filterMap fun (other, _) =>
    if other.dropLast = way then other.getLast? else none
  inside.mergeSort fun a b => !decide (b < a)

theorem lookup_filter (entries : List (Way × Entry)) (way other : Way) :
    (entries.filter (·.1 != way)).lookup other =
      if other = way then none else entries.lookup other := by
  induction entries with
  | nil => simp
  | cons e es ih =>
    obtain ⟨name, entry⟩ := e
    simp only [List.filter_cons]
    split
    · rename_i hname
      have hname : name ≠ way := by simpa using hname
      simp only [List.lookup_cons, ih]
      by_cases ho : other = way
      · have hb : (way == name) = false := by simpa using Ne.symm hname
        simp [ho, hb]
      · simp [ho]
    · rename_i hname
      have hname : name = way := by simpa using hname
      simp only [ih, List.lookup_cons, hname]
      by_cases ho : other = way
      · simp [ho]
      · have hb : (other == way) = false := by simpa using ho
        simp [ho, hb]

theorem lookup?_erase (tree : FileTree) (way other : Way) (h : other ≠ []) :
    (tree.erase way).lookup? other = if other = way then none else tree.lookup? other := by
  simp [lookup?, erase, h, lookup_filter]

theorem lookup?_set (tree : FileTree) (way other : Way) (entry : Entry) (h : other ≠ []) :
    (tree.set way entry).lookup? other =
      if other = way then some entry else tree.lookup? other := by
  simp only [lookup?, set, List.isEmpty_iff, h, if_false, List.lookup_cons, lookup_filter]
  by_cases ho : other = way
  · simp [ho]
  · have hb : (other == way) = false := by simpa using ho
    simp [ho, hb]

end FileTree
end RaidProvision

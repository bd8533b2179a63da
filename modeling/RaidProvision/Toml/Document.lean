import RaidProvision.Binary64.Basic

/-!
# TOML documents

A document is a table of items by key. A table remembers how it came to be, because that decides how
it may be added to: by a header of its own, on the way to the header of a table below it, or by
dotted keys. A table gets one header at most, a key one value. A header in double brackets begins
one more table of an array; where a way leads through such an array, it goes on in the last of its
tables. A value is closed once it is read, also a table that is written as one.

* `get?_set`: what is found after something was set.
-/
namespace RaidProvision.Toml

/-! ## What stands under keys -/

/-- What stands under some keys. -/
abbrev Keyed (α : Type) := List (String × α)

namespace Keyed

variable {α : Type}

/-- What stands under a key. -/
def get? (held : Keyed α) (key : String) : Option α := held.lookup key

/-- Puts something under a key in the place of what stands there. -/
def set : Keyed α → String → α → Keyed α
  | [], key, x => [(key, x)]
  | (other, y) :: rest, key, x =>
    if other = key then (key, x) :: rest else (other, y) :: set rest key x

theorem get?_set (held : Keyed α) (key other : String) (x : α) :
    (held.set key x).get? other = if other = key then some x else held.get? other := by
  induction held with
  | nil => simp only [set, get?, List.lookup_cons, List.lookup_nil]; grind
  | cons e rest ih =>
    obtain ⟨name, y⟩ := e
    simp only [get?] at ih
    simp only [set, get?]
    split
    · simp only [List.lookup_cons]; grind
    · simp only [List.lookup_cons, ih]; grind

/-- Puts something under a key that has nothing yet. -/
def define (held : Keyed α) (key : String) (x : α) : Option (Keyed α) :=
  match held.get? key with
  | some _ => none
  | none => some (held.set key x)

end Keyed

/-! ## Values -/

/-- What may be written behind a key. -/
inductive Value where
  | text (s : String)
  | integer (n : Int)
  | float (x : Binary64)
  | boolean (b : Bool)
  /-- A date, a time or both, as it is written. -/
  | moment (written : String)
  | array (elements : List Value)
  /-- A table between braces, or a table in one that came to be by dotted keys. -/
  | table (dotted : Bool) (members : List (String × Value))
  deriving Repr, Inhabited

/-- Puts a value under a dotted key of a table between braces, given as the keys on the way and the
last one. The tables on the way have to be of dotted keys, or new. -/
def Value.defineAt : Keyed Value → List String → String → Value → Option (Keyed Value)
  | members, [], key, value => members.define key value
  | members, step :: way, key, value =>
    match members.get? step with
    | none => do return members.set step (.table true (← defineAt [] way key value))
    | some (.table true inner) => do
      return members.set step (.table true (← defineAt inner way key value))
    | some _ => none

/-! ## Documents -/

/-- How a table came to be. -/
inductive Origin where
  /-- By a header of its own. -/
  | header
  /-- On the way to the header of a table below it. -/
  | passing
  /-- By a dotted key. -/
  | dotted
  deriving DecidableEq, Repr

/-- What stands under a key. -/
inductive Item where
  | value (v : Value)
  | table (origin : Origin) (entries : List (String × Item))
  /-- An array of tables that were begun by headers, the last one apart. -/
  | tables (earlier : List (List (String × Item))) (last : List (String × Item))
  deriving Repr, Inhabited

/-- The items of a table by key. -/
abbrev Entries := Keyed Item

namespace Entries

/-- Puts a value under a dotted key, given as the keys on the way and the last one. The tables on
the way have to be of dotted keys, or new; one that has none itself may be passed on the way to one
that has. -/
def defineAt : Entries → List String → String → Value → Option Entries
  | entries, [], key, value => entries.define key (.value value)
  | entries, step :: way, key, value =>
    match entries.get? step with
    | none => do return entries.set step (.table .dotted (← defineAt [] way key value))
    | some (.table .dotted inner) => do
      return entries.set step (.table .dotted (← defineAt inner way key value))
    | some (.table .passing inner) => do
      if way.isEmpty then none
      else return entries.set step (.table .passing (← defineAt inner way key value))
    | some (.tables earlier last) => do
      if way.isEmpty then none
      else return entries.set step (.tables earlier (← defineAt last way key value))
    | some _ => none

/-- Opens a table by a header with its last key. -/
def openTable (entries : Entries) (key : String) : Option Entries :=
  match entries.get? key with
  | none => some (entries.set key (.table .header []))
  | some (.table .passing inner) => some (entries.set key (.table .header inner))
  | some _ => none

/-- Begins one more table of an array by a header with its last key. -/
def extendTables (entries : Entries) (key : String) : Option Entries :=
  match entries.get? key with
  | none => some (entries.set key (.tables [] []))
  | some (.tables earlier last) => some (entries.set key (.tables (earlier ++ [last]) []))
  | some _ => none

/-- Changes the table at the end of a way. Tables that are missing on the way are made. -/
def changeAt (change : Entries → Option Entries) : Entries → List String → Option Entries
  | entries, [] => change entries
  | entries, step :: way =>
    match entries.get? step with
    | none => do return entries.set step (.table .passing (← changeAt change [] way))
    | some (.table origin inner) => do
      return entries.set step (.table origin (← changeAt change inner way))
    | some (.tables earlier last) => do
      return entries.set step (.tables earlier (← changeAt change last way))
    | some (.value _) => none

end Entries

/-- What a document says at one place. The keys of a dotted key are given as a list, which is not
empty. -/
inductive Statement where
  | header (keys : List String)
  | arrayHeader (keys : List String)
  | assignment (keys : List String) (value : Value)
  deriving Repr, Inhabited

/-- A document that is being put together: all of it so far, and the way to the table of the last
header. -/
structure Draft where
  entries : Entries
  current : List String

/-- The last of some keys. The others are on the way to it. -/
def lastKey (keys : List String) : String := keys.getLast?.getD ""

/-- Follows a statement. -/
def Draft.follow (draft : Draft) : Statement → Option Draft
  | .header keys => do
    let entries ← draft.entries.changeAt (·.openTable (lastKey keys)) keys.dropLast
    return ⟨entries, keys⟩
  | .arrayHeader keys => do
    let entries ← draft.entries.changeAt (·.extendTables (lastKey keys)) keys.dropLast
    return ⟨entries, keys⟩
  | .assignment keys value => do
    let entries ← draft.entries.changeAt
      (·.defineAt keys.dropLast (lastKey keys) value) draft.current
    return { draft with entries := entries }

/-- The document of some statements. -/
def ofStatements (statements : List Statement) : Option Entries :=
  (statements.foldlM Draft.follow ⟨[], []⟩).map Draft.entries

end RaidProvision.Toml

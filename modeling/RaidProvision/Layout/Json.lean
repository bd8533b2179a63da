import RaidProvision.Json.Printer
import RaidProvision.Layout.Basic

/-!
# Layouts as JSON (raidmgr specification §3 and §4.4, step 2)

A layout is read from a text in one go, and the first thing that is wrong is reported. A size is a
number of gigabytes, the same as text, or `MAX`; a level and a controller may be given as text or as
number. A known key that is null counts as absent, one that stands twice is refused.

Written, the known keys come first, in a fixed order and without those that are absent, and then the
others sorted.

* `SizeRequest.ofValue_text_max`: `MAX` is read in any letter case.
-/
namespace RaidProvision

open RaidProvision.Text RaidProvision.Json

/-- What is wrong with the data of a layout. -/
inductive Layout.Defect where
  | mismatch (cause : Mismatch)
  | sizeTooLarge (gb : Nat)
  | sizeUnreadable (text : String)
  /-- A level or controller that is neither text nor number. -/
  | badName (value : Value)

namespace Layout.Defect

def message : Layout.Defect → String
  | mismatch cause => cause.message
  | sizeTooLarge gb => s!"size_gb {gb} exceeds {SizeRequest.maxGb}"
  | sizeUnreadable text => s!"size_gb must be \"MAX\" or whole GB, got '{text}'"
  | badName value => "expected string or number, got " ++ value.write

end Layout.Defect

namespace Layout

/-- A reader of parts of layouts. -/
abbrev PartReader (α : Type) := Reader Defect α

variable {α : Type}

/-- Refuses the value that stands in the place of something else. -/
def refuse (expected : String) : PartReader α := fun cs => do
  let (found, _) ← readFound cs
  throw (.refused (.mismatch (.kind found expected)))

/-- Reads a text. -/
def textPart : PartReader String := fun cs =>
  match skipSpace cs with
  | '"' :: rest => readText rest
  | _ => refuse "a string" cs

/-- Reads an array. `depth` is what may still be opened, this array included. -/
def arrayPart (depth : Nat) (element : Nat → PartReader α) : PartReader (List α) := fun cs =>
  match skipSpace cs with
  | '[' :: rest =>
    match depth with
    | 0 => .error .malformed
    | depth + 1 => readArray (element depth) rest
  | _ => refuse "a sequence" cs

/-- Reads an object with the name of a structure. `depth` is what may still be opened, this object
included. -/
def objectPart {σ : Type} (depth : Nat) (structureName : String)
    (member : Nat → String → σ → Except Defect (PartReader σ)) (start : σ) :
    PartReader σ := fun cs =>
  match skipSpace cs with
  | '{' :: rest =>
    match depth with
    | 0 => .error .malformed
    | depth + 1 => readObject (member depth) start rest
  | _ => refuse structureName cs

/-- Reads null as nothing and anything else with a reader. -/
def optionalPart (part : PartReader α) : PartReader (Option α) := fun cs =>
  match skipSpace cs with
  | 'n' :: _ => keyword "null" none (skipSpace cs)
  | _ => Reader.map some part cs

/-- Goes on with what was read, or refuses it. -/
def checkedPart {β : Type} (part : PartReader α) (check : α → Except Defect β) : PartReader β :=
  fun cs => do
    let (x, rest) ← part cs
    match check x with
    | .ok y => return (y, rest)
    | .error cause => throw (.refused cause)

/-- Sets a member that must not have been there before. -/
def once {σ : Type} (name : String) (before : Option α) (part : PartReader α) (set : α → σ) :
    Except Defect (PartReader σ) :=
  match before with
  | some _ => .error (.mismatch (.duplicateField name))
  | none => .ok (Reader.map set part)

/-- Adds a member that is not known. -/
def other {σ : Type} (depth : Nat) (name : String) (extra : Members) (set : Members → σ) :
    Except Defect (PartReader σ) :=
  .ok (Reader.map (fun value => set (extra.insert name value)) (Value.read depth))

end Layout

namespace SizeRequest

open Layout (Defect)

/-- A number of gigabytes as a size (§4.4, step 2). -/
def ofGb (count : UInt64) : Except Defect SizeRequest :=
  if count.toNat ≤ maxGb then .ok (.gb count) else .error (.sizeTooLarge count.toNat)

/-- The size that a value stands for (§3). -/
def ofValue : Value → Except Defect SizeRequest
  | .text s =>
    if sameFold s "max" then .ok .max
    else
      match readUInt64 s with
      | .ok count => ofGb count
      | .error _ => .error (.sizeUnreadable s)
  | value =>
    match value.word? with
    | some count => ofGb count
    | none => .error (.mismatch .noAlternative)

def toValue : SizeRequest → Value
  | max => .text "MAX"
  | gb n => .nat n.toNat

/-- `MAX` is read in any letter case. -/
theorem ofValue_text_max {s : String} (h : sameFold s "max") : ofValue (.text s) = .ok .max := by
  simp [ofValue, h]

/-- Reads a size. -/
def part (depth : Nat) : Layout.PartReader SizeRequest :=
  Layout.checkedPart (Value.read depth) ofValue

/-- Reads the size that a text holds. -/
def ofText (s : String) : Except (Fault Defect) SizeRequest := wholeText (part maxDepth) s

end SizeRequest

namespace LogicalDisk

open Layout

/-- A level or controller, as text. -/
def nameOf : Value → Except Defect (Option String)
  | .null => .ok none
  | .text s => .ok (some s)
  | .number n => .ok (some n.write)
  | value => .error (.badName value)

/-- The members of an entry that were read so far. -/
structure Draft where
  size : Option (Option SizeRequest)
  level : Option (Option String)
  members : Option (Option (List String))
  controller : Option (Option String)
  extra : Members

def Draft.empty : Draft := ⟨none, none, none, none, []⟩

/-- What is read under a name. -/
def member (depth : Nat) (name : String) (draft : Draft) : Except Defect (PartReader Draft) :=
  if name = "size_gb" then
    once name draft.size (optionalPart (SizeRequest.part depth)) fun x =>
      { draft with size := some x }
  else if name = "raid_level" then
    once name draft.level (checkedPart (Value.read depth) nameOf) fun x =>
      { draft with level := some x }
  else if name = "physical_disks" then
    once name draft.members (optionalPart (arrayPart depth fun _ => textPart)) fun x =>
      { draft with members := some x }
  else if name = "controller" then
    once name draft.controller (checkedPart (Value.read depth) nameOf) fun x =>
      { draft with controller := some x }
  else other depth name draft.extra fun extra => { draft with extra := extra }

/-- The entry of what was read. -/
def ofDraft (draft : Draft) : LogicalDisk :=
  ⟨draft.size.join, draft.level.join, draft.members.join, draft.controller.join, draft.extra⟩

/-- Reads an entry. -/
def part (depth : Nat) : PartReader LogicalDisk :=
  Reader.map ofDraft (objectPart depth "struct LogicalDiskSpec" member .empty)

/-- Reads the entry that a text holds. -/
def ofText (s : String) : Except (Fault Defect) LogicalDisk := wholeText (part maxDepth) s

/-- A member that is there or not. -/
def given {α : Type} (name : String) (write : α → Value) : Option α → Members
  | some x => [(name, write x)]
  | none => []

def toValue (disk : LogicalDisk) : Value :=
  .object (given "size_gb" SizeRequest.toValue disk.size ++ given "raid_level" .text disk.level ++
    given "physical_disks" (fun names => .array (names.map .text)) disk.members ++
    given "controller" .text disk.controller ++ disk.extra)

end LogicalDisk

namespace Layout

/-- The members of a layout that were read so far. -/
structure Draft where
  disks : Option (List LogicalDisk)
  extra : Members

def Draft.empty : Draft := ⟨none, []⟩

/-- What is read under a name. -/
def member (depth : Nat) (name : String) (draft : Draft) : Except Defect (PartReader Draft) :=
  if name = "logical_disks" then
    once name draft.disks (arrayPart depth LogicalDisk.part) fun x => { draft with disks := some x }
  else other depth name draft.extra fun extra => { draft with extra := extra }

/-- Reads a layout. -/
def part (depth : Nat) : PartReader Layout :=
  Reader.map (fun draft : Draft => ⟨draft.disks.getD [], draft.extra⟩)
    (objectPart depth "struct TargetRaidConfig" member .empty)

/-- Reads the layout that a text holds. -/
def ofText (s : String) : Except (Fault Defect) Layout := wholeText (part maxDepth) s

def toValue (layout : Layout) : Value :=
  .object (("logical_disks", .array (layout.disks.map LogicalDisk.toValue)) :: layout.extra)

end Layout

namespace Node

open Layout

/-- The members of a record that were read so far. -/
structure Draft where
  uuid : Option (Option String)
  layout : Option (Option Layout)
  extra : Members

def Draft.empty : Draft := ⟨none, none, []⟩

/-- What is read under a name. -/
def member (depth : Nat) (name : String) (draft : Draft) : Except Defect (PartReader Draft) :=
  if name = "uuid" then
    once name draft.uuid (optionalPart textPart) fun x => { draft with uuid := some x }
  else if name = "target_raid_config" then
    once name draft.layout (optionalPart (Layout.part depth)) fun x =>
      { draft with layout := some x }
  else other depth name draft.extra fun extra => { draft with extra := extra }

/-- Reads a record. -/
def part (depth : Nat) : PartReader Node :=
  Reader.map (fun draft : Draft => ⟨draft.uuid.join, draft.layout.join, draft.extra⟩)
    (objectPart depth "struct Node" member .empty)

/-- Reads the record that a text holds. -/
def ofText (s : String) : Except (Fault Defect) Node := wholeText (part maxDepth) s

def toValue (node : Node) : Value :=
  .object (LogicalDisk.given "uuid" .text node.uuid ++
    LogicalDisk.given "target_raid_config" Layout.toValue node.layout ++ node.extra)

end Node
end RaidProvision

import RaidProvision.Json.Value
import RaidProvision.Layout.SizeRequest

/-!
# Layouts (raidmgr specification §3 and §4.4)

A `Layout` is a list of logical drives to build. An entry is complete if it names its level, members
and controller; the size may be left out and then is all the space there is. Keys that are not known
are carried along.

`Layout.realize` builds the complete entries in order and puts the size of what was built into each.

* `length_realizeEach`: with a builder that never fails the entries keep their number.
-/
namespace RaidProvision

/-- One logical drive of a layout (§3). -/
structure LogicalDisk where
  size : Option SizeRequest
  level : Option String
  members : Option (List String)
  controller : Option String
  /-- The keys that are not known, sorted. -/
  extra : Json.Members
  deriving Repr, Inhabited

/-- What a logical drive is built from. -/
structure Blueprint where
  controller : String
  size : SizeRequest
  level : String
  members : List String
  deriving DecidableEq, Repr

namespace LogicalDisk

/-- The requested size. -/
def requestedSize (disk : LogicalDisk) : SizeRequest := disk.size.getD .max

/-- What to build, or the first key that is missing (§4.4, step 1). -/
def blueprint (disk : LogicalDisk) : Except String Blueprint :=
  match disk.level, disk.members, disk.controller with
  | none, _, _ => .error "raid_level"
  | _, none, _ => .error "physical_disks"
  | _, _, none => .error "controller"
  | some level, some members, some controller =>
    .ok ⟨controller, disk.requestedSize, level, members⟩

end LogicalDisk

/-- Logical drives to build (§3). -/
structure Layout where
  disks : List LogicalDisk
  /-- The keys that are not known, sorted. -/
  extra : Json.Members
  deriving Repr, Inhabited

/-- The record of a machine. -/
structure Node where
  uuid : Option String
  layout : Option Layout
  /-- The keys that are not known, sorted. -/
  extra : Json.Members
  deriving Repr, Inhabited

namespace Layout

def empty : Layout := ⟨[], []⟩

variable {m : Type → Type} [Monad m]

/-- Builds the complete entries in order (§4.4). -/
def realizeEach (build : Blueprint → m UInt64) : List LogicalDisk → m (List LogicalDisk)
  | [] => pure []
  | disk :: rest =>
    match disk.blueprint with
    | .error _ => do
      let rest ← realizeEach build rest
      return disk :: rest
    | .ok blueprint => do
      let gb ← build blueprint
      let rest ← realizeEach build rest
      return { disk with size := some (.gb gb) } :: rest

/-- Builds the complete entries in order and returns the layout with their sizes (§4.4). -/
def realize (build : Blueprint → m UInt64) (layout : Layout) : m Layout := do
  let disks ← realizeEach build layout.disks
  return { layout with disks := disks }

theorem length_realizeEach (build : Blueprint → Id UInt64) (disks : List LogicalDisk) :
    (realizeEach build disks).run.length = disks.length := by
  induction disks with
  | nil => rfl
  | cons disk rest ih =>
    cases h : disk.blueprint <;> simp [realizeEach, h, ih]

end Layout

namespace Node

def empty : Node := ⟨none, none, []⟩

/-- The layout to build: a record without one builds nothing (§4.6). -/
def target (node : Node) : Layout := node.layout.getD .empty

end Node
end RaidProvision

import RaidProvision.Arcconf.Tool
import RaidProvision.Layout.Basic
import RaidProvision.Machine.Facts
import RaidProvision.Manager.Support
import RaidProvision.MegaCli.Tool

/-!
# Managers (raidmgr specification §4.6)

A manager serves one family of controllers: it says whether there is one, takes inventory, builds a
layout, and deletes all logical drives.

* `commands_support`: saying how well a machine is supported runs one command.
-/
namespace RaidProvision

open RaidProvision.Json

/-- A family of controllers. -/
inductive Family where
  | arcconf
  | megacli
  deriving DecidableEq, Repr, Inhabited

/-- The families in the order in which they are tried. -/
def Family.all : List Family := [.arcconf, .megacli]

/-- A manager of a family with its tools. -/
structure Manager where
  family : Family
  tools : ToolPaths
  deriving DecidableEq, Repr

/-- A step that cleans a machine before its next use. -/
structure CleanStep where
  step : String
  priority : Nat
  abortable : Bool
  deriving DecidableEq, Repr

namespace CleanStep

/-- The steps that every manager offers (§4.6). -/
def all : List CleanStep :=
  [⟨"erase_devices", 0, true⟩, ⟨"erase_devices_metadata", 99, true⟩,
    ⟨"delete_configuration", 20, false⟩, ⟨"create_configuration", 15, false⟩]

/-- Every step is of the deployment and needs no restart. -/
def toValue (s : CleanStep) : Value :=
  .object [("step", .text s.step), ("priority", .nat s.priority), ("interface", .text "deploy"),
    ("reboot_requested", .boolean false), ("abortable", .boolean s.abortable)]

end CleanStep

namespace Manager

variable (manager : Manager)

def name : String :=
  match manager.family with
  | .arcconf => "ArcconfHardwareManager"
  | .megacli => "MegaHardwareManager"

/-- The version of every manager. -/
def version : String := "1.0"

def arcconf : Arcconf := ⟨manager.tools.arcconf⟩

def megacli : MegaCli := ⟨manager.tools.megacli⟩

/-- Whether there is a controller of the family. -/
def detect : Script Bool :=
  match manager.family with
  | .arcconf => manager.arcconf.detect
  | .megacli => manager.megacli.detect

/-- How well the machine is supported: fully if there is a controller, else not at all (§4.6). -/
def support : Script Support :=
  manager.detect.bind fun found => .done (if found then .mainline else .none)

theorem commands_support (host : Host) :
    (manager.support.run host).commands.length = 1 := by
  obtain ⟨family, tools⟩ := manager
  cases family <;> rfl

/-- The ids of the controllers. -/
def controllers : ToolTask (List String) :=
  match manager.family with
  | .arcconf => manager.arcconf.controllers
  | .megacli => manager.megacli.controllers

/-- The physical drives of all controllers (§4.6). -/
def physicalDrives : ToolTask (List PhysicalDrive) :=
  match manager.family with
  | .arcconf => do
    let drives ← manager.arcconf.physicalDrives
    return drives.map .sheet
  | .megacli => do
    let drives ← manager.megacli.physicalDrives
    return drives.map .summary

/-- The inventory of the machine (§4.6). -/
def inventory : ToolTask Inventory := do
  let drives ← manager.physicalDrives
  (manager.tools.inventory drives : Script Inventory)

/-- Builds one logical drive and returns its size in whole gigabytes (§4.4). -/
def build (b : Blueprint) : ToolTask UInt64 :=
  match manager.family with
  | .arcconf => manager.arcconf.createDrive b.controller b.size b.level b.members
  | .megacli => manager.megacli.createDrive b.controller b.size b.level b.members

/-- Builds the layout of a machine and returns it with the sizes of what was built (§4.6). -/
def create (node : Node) : ToolTask Layout := node.target.realize manager.build

/-- Deletes the logical drives on some controllers. Returns on how many it did (§4.4). -/
def destroyAll (controllers : List String) : ToolTask Nat :=
  match manager.family with
  | .arcconf => manager.arcconf.destroyAll controllers
  | .megacli => manager.megacli.destroyAll controllers

/-- Deletes the logical drives on all controllers (§4.6). -/
def delete : ToolTask Unit := do
  let ids ← manager.controllers
  let _ ← manager.destroyAll ids
  return ()

end Manager
end RaidProvision

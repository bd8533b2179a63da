import RaidProvision.Inventory.Basic
import RaidProvision.Size.Bytes
import RaidProvision.Text.Column

/-!
# Inventories for people (raidmgr specification §10)

The inventory as a table: the machine, its physical drives, its block devices. What is not known is
a dash, a drive whose size cannot be read has a line that says why.
-/
namespace RaidProvision.Inventory

open RaidProvision.Text

/-- A text of one character. -/
def rule (width : Nat) (c : Char) : String := String.ofList (List.replicate width c)

/-- A heading with a rule behind it. -/
def heading (title : String) (width : Nat) : String :=
  "── " ++ title ++ " " ++ rule width '─' ++ "\n"

/-- What stands for something unknown. -/
def unknown : String := "—"

/-- One line of the table of drives. -/
def driveLine (id controller medium size serial : String) : String :=
  "  " ++ padRight 10 id ++ " " ++ padRight 6 controller ++ " " ++ padRight 6 medium ++ " " ++
    padLeft 12 size ++ "  " ++ serial ++ "\n"

def driveText (drive : PhysicalDrive) : String :=
  match drive.summarize with
  | .ok s => driveLine s.id s.controller s.medium s.size (drive.serialNumber?.getD unknown)
  | .error e => s!"  (unreadable record: {e.message})\n"

def deviceText (device : BlockDevice) : String :=
  let kind := if device.rotational then "HDD" else "SSD"
  "  " ++ padRight 8 device.name ++ "  " ++ padRight 4 kind ++ "  " ++
    padRight 5 (device.transport.getD unknown) ++ "  Cap:" ++
    padRight 10 (Size.ofBytes device.size.toNat) ++ "  " ++ device.model.getD "Unknown" ++ "\n"

def identityText : Option Identity → String
  | some v => s!"  {v.manufacturer} {v.product}  Serial: {v.serial}\n"
  | none => "  (system vendor unavailable)\n"

/-- The whole table (§10). -/
def report (manager time : String) (inventory : Inventory) : String :=
  let drives := inventory.drives
  let devices := inventory.blockDevices
  rule 47 '═' ++ "\n" ++ s!"  raidmgr inventory ({manager}) {time}\n" ++ rule 47 '═' ++ "\n\n" ++
    heading "System" 37 ++ identityText inventory.identity ++
    "  BMC: " ++ inventory.bmcAddress.getD unknown ++ "\n\n" ++
    heading s!"Physical Disks ({drives.length})" 25 ++
    driveLine "ID" "Ctl" "Type" "Size" "Serial" ++ "  " ++ rule 60 '─' ++ "\n" ++
    String.join (drives.map driveText) ++ "\n" ++
    heading s!"Block Devices ({devices.length})" 25 ++ String.join (devices.map deviceText)

end RaidProvision.Inventory

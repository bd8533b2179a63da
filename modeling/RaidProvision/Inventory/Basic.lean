import RaidProvision.Drive.Basic
import RaidProvision.Json.Value
import RaidProvision.Machine.BlockDevice
import RaidProvision.Machine.Identity

/-!
# Inventories (raidmgr specification §3)

What is known about the storage of a machine, and how it is written as JSON. What is not known is
null.
-/
namespace RaidProvision

open RaidProvision.Json

def DriveSheet.toValue (drive : DriveSheet) : Value :=
  .object (("controller_id", .text drive.controller) ::
    Attribute.all.map fun a => (a.name, .text (drive.text a)))

def DriveSummary.toValue (drive : DriveSummary) : Value :=
  .object [("id", .text drive.id), ("controller_id", .text drive.controller),
    ("type", .text drive.medium), ("size", .text drive.size)]

def PhysicalDrive.toValue : PhysicalDrive → Value
  | sheet drive => drive.toValue
  | summary drive => drive.toValue

def BlockDevice.toValue (device : BlockDevice) : Value :=
  .object [("name", .text device.name), ("size", .nat device.size.toNat),
    ("model", .ofText? device.model), ("serial", .ofText? device.serial),
    ("vendor", .ofText? device.vendor), ("rotational", .boolean device.rotational),
    ("transport", .ofText? device.transport)]

def Identity.toValue (identity : Identity) : Value :=
  .object [("product_name", .text identity.product), ("serial_number", .text identity.serial),
    ("manufacturer", .text identity.manufacturer)]

/-- What is known about the storage of a machine (§3). -/
structure Inventory where
  blockDevices : List BlockDevice
  drives : List PhysicalDrive
  bmcAddress : Option String
  identity : Option Identity

def Inventory.toValue (inventory : Inventory) : Value :=
  .object [("disks", .array (inventory.blockDevices.map BlockDevice.toValue)),
    ("physical_disks", .array (inventory.drives.map PhysicalDrive.toValue)),
    ("bmc_address", .ofText? inventory.bmcAddress),
    ("system_vendor", (inventory.identity.map Identity.toValue).getD .null)]

end RaidProvision

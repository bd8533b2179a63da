import RaidProvision.Inventory.Basic
import RaidProvision.Machine.Bmc
import RaidProvision.Session.ToolTask
import RaidProvision.Settings.Basic

/-!
# Asking the machine (raidmgr specification §4.6 and §4.7)

Three facts come from the machine and not from a RAID controller: its block devices, the address of
its management controller, and its identity. Each is asked for with one command.

* `commands_inventory`: an inventory asks for the three facts in a fixed order, whatever the
  answers.
-/
namespace RaidProvision.ToolPaths

variable (tools : ToolPaths)

/-- The columns that are asked of `lsblk`. -/
def deviceColumns : String := "NAME,TYPE,SIZE,MODEL,SERIAL,ROTA,TRAN,VENDOR"

/-- The command that lists block devices (§4.7). -/
def listDevices : Command := ⟨tools.lsblk, ["--json", "--bytes", "-o", deviceColumns]⟩

/-- The command that prints the network settings of the management controller (§4.7). -/
def printLan : Command := ⟨tools.ipmitool, ["lan", "print"]⟩

/-- The command that prints who made the machine (§4.7). -/
def printSystem : Command := ⟨tools.dmidecode, ["--type", "system"]⟩

/-- The block devices. -/
def blockDevices : ToolTask (List BlockDevice) := do
  let listing ← ToolTask.execute tools.listDevices
  ToolTask.read (BlockDevice.ofText listing)

/-- The address of the management controller. -/
def bmcAddress : ToolTask String := do
  let report ← ToolTask.execute tools.printLan
  ToolTask.read (Machine.bmcAddress report)

/-- Who made the machine. -/
def identity : ToolTask Identity := do
  let report ← ToolTask.execute tools.printSystem
  ToolTask.read (Identity.ofReport report)

/-- An inventory with some drives. A fact that cannot be had is left out (§4.6). -/
def inventory (drives : List PhysicalDrive) : Script Inventory :=
  tools.blockDevices.script.bind fun devices =>
    tools.bmcAddress.script.bind fun address =>
      tools.identity.script.bind fun identity =>
        Script.done {
          blockDevices := devices.toOption.getD []
          drives := drives
          bmcAddress := address.toOption
          identity := identity.toOption }

/-- A task that runs a command and reads its output asks for that command alone. -/
theorem transcript_executeRead {α : Type} (command : Command)
    (read : String → Except ReportError α) (host : Host) :
    (Procedure.run (do let text ← ToolTask.execute command; ToolTask.read (read text) : ToolTask α)
      host).transcript = [.run command] := by
  rw [Procedure.run_bind]
  simp only [ToolTask.run_execute]
  cases (host.reply command).read command <;> rfl

theorem commands_inventory (drives : List PhysicalDrive) (host : Host) :
    ((tools.inventory drives).run host).commands =
      [tools.listDevices, tools.printLan, tools.printSystem] := by
  simp only [inventory, Script.run_bind, Script.run_done, Outcome.commands, List.filterMap_append]
  have h1 := transcript_executeRead tools.listDevices BlockDevice.ofText host
  have h2 := transcript_executeRead tools.printLan Machine.bmcAddress
    (tools.blockDevices.script.run host).host
  have h3 := transcript_executeRead tools.printSystem Identity.ofReport
    (tools.bmcAddress.script.run (tools.blockDevices.script.run host).host).host
  simp only [Procedure.run] at h1 h2 h3
  simp only [blockDevices, bmcAddress, identity] at *
  rw [h1, h2, h3]
  rfl

end RaidProvision.ToolPaths

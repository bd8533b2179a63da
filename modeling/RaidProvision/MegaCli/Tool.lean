import RaidProvision.Layout.SizeRequest
import RaidProvision.MegaCli.Adapters
import RaidProvision.MegaCli.Drives
import RaidProvision.MegaCli.Volume
import RaidProvision.Session.ToolTask

/-!
# Working with MegaCLI (raidmgr specification §4.1, §4.2, §4.4 and §4.6)

Every step is a line for the shell that starts with the path of the tool.

* `run_detect`: detection runs one command and never fails.
-/
namespace RaidProvision

open RaidProvision.Text

/-- The tool for LSI and Broadcom controllers, at a path. -/
structure MegaCli where
  path : String
  deriving DecidableEq, Repr

namespace MegaCli

variable (tool : MegaCli)

/-- The command with some arguments. -/
def command (arguments : String) : Command := .line (tool.path ++ " " ++ arguments)

/-- Runs the tool for its output. -/
def execute (arguments : String) : ToolTask String := ToolTask.execute (tool.command arguments)

/-- The arguments that count the adapters. -/
def countArguments : String := "-adpCount | grep Controller"

/-- The lines that are kept from the drive list (§4.2). -/
def driveFilter : String := "adapter|Enclosure Device ID|slot number|Raw size|PD Type|Inquiry Data"

/-- Whether there is an adapter. A count that cannot be had or read counts as none (§4.1). -/
def detect : Script Bool :=
  (Script.execute (tool.command countArguments)).bind fun result =>
    Script.done <| match result with
      | .error _ => false
      | .ok report =>
        match adapterCount report with
        | .ok n => n != 0
        | .error _ => false

theorem run_detect (host : Host) :
    (tool.detect.run host).commands = [tool.command countArguments] := rfl

/-- The ids of the adapters (§4.1). -/
def controllers : ToolTask (List String) := do
  let report ← tool.execute countArguments
  let count ← ToolTask.read (adapterCount report)
  return adapterIds count

/-- The drives of all adapters (§4.2). -/
def physicalDrives : ToolTask (List DriveSummary) := do
  let report ← tool.execute s!"-PDList -aALL | grep -iE \"{driveFilter}\""
  ToolTask.read (drives report)

/-- Creates a virtual drive and returns its size in whole gigabytes. The drive takes the whole of
its members, whatever size was asked for (§4.4, steps 2 to 5). -/
def createDrive (controller : String) (_size : SizeRequest) (level : String)
    (members : List String) : ToolTask UInt64 := do
  let report ← tool.execute (createArguments controller level members)
  let drive ← ToolTask.read (createdDrive report)
  let sizes ← tool.execute s!"-LDInfo -L{drive} -aAll | grep -i size"
  let size ← ToolTask.read (driveSize sizes)
  return size.wholeGb

/-- Deletes the virtual drives of each adapter that has any. Returns on how many it did (§4.4). -/
def deleteAll : List String → ToolTask Nat
  | [] => pure 0
  | controller :: rest => do
    let report ← tool.execute s!"-LDInfo -LAll -a{controller}"
    if contains noDrivesMark report then deleteAll rest
    else
      let _ ← tool.execute s!"-CfgLdDel -LAll -a{controller}"
      let count ← deleteAll rest
      return count + 1

/-- Deletes the virtual drives of each adapter that has any, and then what drives from elsewhere
have brought along, on all adapters at once. Returns on how many adapters it deleted (§4.4). -/
def destroyAll (controllers : List String) : ToolTask Nat := do
  let count ← tool.deleteAll controllers
  let _ ← tool.execute "-CfgForeign -Clear -aAll"
  return count

/-- Switches whether drives outside of any virtual drive are passed through, on adapter 0 (§4.6). -/
def setPassthrough (on : Bool) : ToolTask Unit := do
  let mode := if on then "1" else "0"
  let _ ← tool.execute s!"-AdpSetProp EnableJBOD {mode} -a0"
  return ()

end MegaCli
end RaidProvision

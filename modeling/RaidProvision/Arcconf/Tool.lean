import RaidProvision.Arcconf.Controllers
import RaidProvision.Arcconf.Drives
import RaidProvision.Arcconf.Volume
import RaidProvision.Session.ToolTask

/-!
# Working with arcconf (raidmgr specification §4.1, §4.2 and §4.4)

Every step is a line for the shell that starts with the path of the tool.

* `run_detect`: detection runs one command and never fails.
-/
namespace RaidProvision

open RaidProvision.Text

/-- The tool for Adaptec and Microsemi controllers, at a path. -/
structure Arcconf where
  path : String
  deriving DecidableEq, Repr

namespace Arcconf

variable (tool : Arcconf)

/-- The command with some arguments. -/
def command (arguments : String) : Command := .line (tool.path ++ " " ++ arguments)

/-- Runs the tool for its output. -/
def execute (arguments : String) : ToolTask String := ToolTask.execute (tool.command arguments)

/-- The arguments that list the controllers. -/
def listArguments : String := "list | grep Controller"

/-- Whether there is a controller. A list that cannot be had or read counts as none (§4.1). -/
def detect : Script Bool :=
  (Script.execute (tool.command listArguments)).bind fun result =>
    Script.done <| match result with
      | .error _ => false
      | .ok report =>
        match controllerCount report with
        | .ok n => n != 0
        | .error _ => false

theorem run_detect (host : Host) :
    (tool.detect.run host).commands = [tool.command listArguments] := rfl

/-- The ids of the controllers (§4.1). -/
def controllers : ToolTask (List String) := do
  let report ← tool.execute listArguments
  ToolTask.read (controllerIds report)

/-- The drives of one controller (§4.2). -/
def drivesOf (controller : String) : ToolTask (List DriveSheet) := do
  let report ← tool.execute s!"getconfig {controller} pd"
  ToolTask.read (drives controller report)

/-- The drives of some controllers, one controller after the other. -/
def drivesOfAll : List String → ToolTask (List DriveSheet)
  | [] => pure []
  | controller :: rest => do
    let found ← tool.drivesOf controller
    let more ← drivesOfAll rest
    return found ++ more

/-- The drives of all controllers (§4.2). -/
def physicalDrives : ToolTask (List DriveSheet) := do
  let ids ← tool.controllers
  tool.drivesOfAll ids

/-- Creates a logical drive and returns its size in whole gigabytes (§4.4, steps 2 to 5). -/
def createDrive (controller : String) (size : SizeRequest) (level : String)
    (members : List String) : ToolTask UInt64 := do
  let arguments ← ToolTask.read (createArguments controller size level members)
  let report ← tool.execute arguments
  let drive ← ToolTask.read (createdDrive report)
  let sizes ← tool.execute s!"getconfig {controller} ld {drive}|grep -i size"
  let size ← ToolTask.read (driveSize sizes)
  return size.wholeGb

/-- Deletes the logical drives of each controller that has any. Returns on how many it did
(§4.4). -/
def destroyAll : List String → ToolTask Nat
  | [] => pure 0
  | controller :: rest => do
    let report ← tool.execute s!"getconfig {controller} ld"
    if contains noDrivesMark report then destroyAll rest
    else
      let _ ← tool.execute s!"delete {controller} LOGICALDRIVE ALL noprompt"
      let count ← destroyAll rest
      return count + 1

end Arcconf
end RaidProvision

import RaidProvision.Bmc.Setter
import RaidProvision.CommandLine.Completion
import RaidProvision.CommandLine.Failure
import RaidProvision.Inventory.Report
import RaidProvision.Settings.Source

/-!
# Performing an action (raidmgr specification §9 and §10)

An action is a procedure: it reads the settings, opens the log, and then asks the machine for what
it needs and prints. The record of a layout is read before any tool runs.

* `withManager_only`: a manager that is asked for is used without asking the machine.
-/
namespace RaidProvision.CommandLine

open RaidProvision.Text RaidProvision.Json

/-- A procedure of the program. -/
abbrev Job (α : Type) := Procedure Failure α

variable {α : Type}

/-- Prints a text with a line end behind it. -/
def printLine (text : String) : Script Unit := Script.print (text ++ "\n")

/-- Prints a value over several lines. -/
def printValue (value : Value) : Script Unit := printLine value.writeLines

/-- All managers. -/
def managers (tools : ToolPaths) : List Manager := Family.all.map fun family => ⟨family, tools⟩

/-- The manager to use (§4.6 and §10). -/
def managerFor (tools : ToolPaths) : Vendor → Job Manager
  | .only family => pure ⟨family, tools⟩
  | .auto => do
    match ← (Manager.dispatch Manager.support (managers tools) : Script (Option Manager)) with
    | some manager => return manager
    | none => throw .noController

/-- Goes on with the manager to use. -/
def withManager (tools : ToolPaths) (vendor : Vendor) (job : Manager → Job α) : Job α :=
  managerFor tools vendor >>= job

theorem withManager_only (tools : ToolPaths) (family : Family) (job : Manager → Job α) :
    withManager tools (.only family) job = job ⟨family, tools⟩ := rfl

/-- How well a manager supports the machine, as a line. -/
def supportLine (manager : Manager) (level : Support) : String :=
  padRight 24 manager.name ++ " " ++ padRight 5 Manager.version ++ " " ++ level.toText

/-- Prints how well each manager supports the machine (§10). -/
def printSupport : List Manager → Script Unit
  | [] => .done ()
  | manager :: rest =>
    manager.support.bind fun level =>
      (printLine (supportLine manager level)).bind fun _ => printSupport rest

/-- The version of the program. -/
def programVersion : String := "0.1"

/-- An inventory with what it was made by and when. -/
def snapshot (manager : Manager) (time : Moment) (inventory : Inventory) : Value :=
  Value.sorted <| .object [
    ("raidmgr_version", .text programVersion), ("timestamp", .text time.stamp),
    ("manager", .text manager.name), ("manager_version", .text Manager.version),
    ("inventory", inventory.toValue)]

/-- Prints the inventory (§10). -/
def printInventory (json : Bool) (manager : Manager) : Job Unit := do
  let inventory ← Procedure.mapFailure (.inventory manager.name) manager.inventory
  let time ← (Script.request .clock : Script Moment)
  if json then printValue (snapshot manager time inventory)
  else Script.print (inventory.report manager.name time.plain)

/-- Reads the record in a file. -/
def readRecord (path : String) : Job Node := do
  match ← (Script.request (.readFile path) : Script (Except OsError String)) with
  | .error cause => throw (.recordNotRead path cause)
  | .ok text =>
    match Node.ofText text with
    | .error cause => throw (.recordRefused path cause)
    | .ok node => return node

/-- Builds the layout of a record and prints what was built (§10). -/
def createLayout (node : Node) (manager : Manager) : Job Unit := do
  let layout ← Procedure.mapFailure .creation (manager.create node)
  printValue layout.toValue

/-- Deletes all logical drives (§10). -/
def deleteDrives (manager : Manager) : Job Unit := do
  Procedure.mapFailure .deletion manager.delete
  printLine (manager.name ++ ": raid configuration deleted")

/-- Switches whether drives outside of any logical drive are passed through (§10). -/
def switchPassthrough (tools : ToolPaths) (on : Bool) : Job Unit := do
  Procedure.mapFailure .passthrough ((MegaCli.mk tools.megacli).setPassthrough on)
  printLine ("JBOD mode " ++ if on then "enabled" else "disabled")

/-- Sets up the management controller and prints the outcome (§10). -/
def setUpBmc (settings : Settings) : Job Unit := do
  if settings.inspection.callbackUrl.isEmpty then throw .noService
  let setter : BmcSetter := ⟨settings.tools, settings.inspection⟩
  let (data, failures) ← (setter.update [] .empty : Script (Members × Failures))
  printValue (.object data)
  match failures.verdict? with
  | some verdict => throw (.inspection verdict)
  | none => return ()

/-- The settings for people, with the file that holds them (§10). -/
def settingsText (place : Option String) (s : Settings) : String :=
  let url := s.inspection.callbackUrl
  let line (name value : String) := s!"  {name} = {value}\n"
  "Config: " ++ place.getD "(unknown)" ++ "\n\n" ++
    "[tools]\n" ++ line "arcconf  " s.tools.arcconf ++ line "megacli  " s.tools.megacli ++
    line "ipmitool " s.tools.ipmitool ++ line "dmidecode" s.tools.dmidecode ++
    line "lsblk    " s.tools.lsblk ++ line "curl     " s.tools.curl ++
    "\n[inspection]\n" ++
    line "callback_url          " (if url.isEmpty then "(not set)" else url) ++
    line "bmc_retries           " (Nat.repr s.inspection.retries.toNat) ++
    line "bmc_retry_interval_sec" (Nat.repr s.inspection.retryInterval.toNat) ++
    "\n[log]\n" ++ line "level" s.log.level ++ line "path " (s.log.path.getD "(terminal)")

/-- The names of the levels of the log. -/
def levelNames : List String :=
  ["critical", "crit", "error", "erro", "warning", "warn", "info", "debug", "debg", "trace", "trce"]

/-- Opens the log: its level has to have a name that is known, and its file has to be there or to be
made (§9). -/
def openLog (log : Logging) (level : Option String) : Job Unit := do
  let name := level.getD log.level
  if levelNames.any (sameFold name) then
    match log.path with
    | none => return ()
    | some path =>
      match ← (Script.request (.appendFile path) : Script (Except OsError Unit)) with
      | .ok () => return ()
      | .error cause => throw (.logNotOpened path cause)
  else throw (.unknownLevel name)

/-- Reads the settings: those in the file that is named, or those in the standard place (§10). -/
def readSettings (named place : Option String) : Job Settings :=
  match named with
  | none => (Settings.load place : Script Settings)
  | some path => do
    match ← (Settings.fromFile path : Script (Except Settings.SourceError Settings)) with
    | .ok settings => return settings
    | .error (.notRead cause) => throw (.settingsNotRead path cause)
    | .error .refused => throw (.settingsRefused path)

/-- Performs an action with settings when the log is open. -/
def Action.perform (settings : Settings) (vendor : Vendor) : Action → Job Unit
  | .detect => printSupport (managers settings.tools)
  | .inventory json => withManager settings.tools vendor (printInventory json)
  | .create record => do
    let node ← readRecord record
    withManager settings.tools vendor (createLayout node)
  | .delete => withManager settings.tools vendor deleteDrives
  | .cleanSteps =>
    withManager settings.tools vendor fun _ =>
      printValue (.array (CleanStep.all.map CleanStep.toValue))
  | .jbod on => switchPassthrough settings.tools on
  | .setBmc => setUpBmc settings
  | .config | .completions _ => pure ()

/-- Does what was asked for. `directory` is where a user's settings are, if there is such a place
(§10). -/
def Invocation.perform (directory : Option String) (invocation : Invocation) : Job Unit :=
  let place := directory.map Settings.standardPlace
  match invocation.action with
  | .completions shell => Script.print shell.completion
  | .config => do
    let settings ← readSettings invocation.config place
    Script.print (settingsText (invocation.config <|> place) settings)
  | action => do
    let settings ← readSettings invocation.config place
    openLog settings.log invocation.logLevel
    action.perform settings invocation.vendor

end RaidProvision.CommandLine

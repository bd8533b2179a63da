import RaidProvision.Bmc.Assignment
import RaidProvision.Bmc.Failures
import RaidProvision.Json.Printer
import RaidProvision.Machine.Facts
import RaidProvision.Text.Split

/-!
# Setting up the management controller (raidmgr specification §4.8)

The inspection service assigns network settings to a machine by its serial number. An attempt reads
the serial number and the present address, asks the service, writes the settings if the address
differs, and tells the service. An attempt that fails is made again as often as the settings allow;
the outcome goes into the data of the run, and a failure of the last attempt is noted.

* `serviceOf_of_not_contains`: an address without the suffix is the service itself.
-/
namespace RaidProvision

open RaidProvision.Text RaidProvision.Json

/-- What one attempt comes to if nothing fails. -/
inductive BmcOutcome where
  /-- The service has no settings for this machine. -/
  | unassigned
  | alreadySet
  | updated
  deriving DecidableEq, Repr

/-- Why an attempt failed. -/
inductive BmcError where
  | facts (cause : ToolError)
  | execution (cause : ExecutionError)
  | response (cause : Assignment.Fault)

def BmcError.message : BmcError → String
  | .facts cause => "reading host facts: " ++ cause.message
  | .execution cause => "failed to run ipmitool or curl: " ++ cause.message
  | .response cause => "unexpected response from inspection service: " ++ cause.message

/-- What is needed to set up the management controller. -/
structure BmcSetter where
  tools : ToolPaths
  inspection : Inspection
  deriving DecidableEq, Repr

namespace BmcSetter

variable (setter : BmcSetter)

/-- What a callback address ends in. -/
def callbackSuffix : String := "/v1/continue"

/-- The address of the service: what stands before the first suffix of a callback address (§4.8,
step 3). -/
def serviceOf (callbackUrl : String) : String :=
  match splitFirst callbackSuffix callbackUrl with
  | some (service, _) => service
  | none => callbackUrl

theorem serviceOf_of_not_contains {url : String} (h : contains callbackSuffix url = false) :
    serviceOf url = url := by
  have hs : splitFirst callbackSuffix url = none := by
    simp only [contains, Option.isSome_eq_false_iff, Option.isNone_iff_eq_none] at h
    simp [splitFirst, h]
  simp [serviceOf, hs]

/-- Where the settings of a machine are found (§4.8, step 4). -/
def settingsUrl (serial : String) : String :=
  serviceOf setter.inspection.callbackUrl ++ "/v1/bmc/" ++ serial

/-- The command that writes one of the network settings. -/
def setLan (arguments : List String) : Command :=
  ⟨setter.tools.ipmitool, ["lan", "set", "1"] ++ arguments⟩

/-- The command that asks the service (§4.8). -/
def getSettings (url : String) : Command :=
  ⟨setter.tools.curl, ["-sSf", "--max-time", "10", url]⟩

/-- What the service is told when the settings are in place. -/
def notice : String := (Value.object [("has_set", .boolean true)]).write

/-- The command that tells the service (§4.8). -/
def postNotice (url : String) : Command :=
  ⟨setter.tools.curl, ["-sSf", "--max-time", "10", "-X", "POST", "-H",
    "Content-Type: application/json", "-d", notice, url]⟩

/-- The commands that write an assignment (§4.8, step 6). -/
def writeCommands (a : Assignment) : List Command :=
  [setter.setLan ["ipsrc", "static"], setter.setLan ["ipaddr", a.address],
    setter.setLan ["netmask", a.netmask], setter.setLan ["defgw", "ipaddr", a.gateway]]

/-- Runs commands one after the other, up to the first that fails. -/
def executeAll : List Command → Procedure ExecutionError Unit
  | [] => pure ()
  | command :: rest => do
    let _ ← Procedure.execute command
    executeAll rest

/-- One attempt (§4.8, steps 2 to 6). -/
def attempt : Procedure BmcError BmcOutcome := do
  let identity ← Procedure.mapFailure .facts setter.tools.identity
  let current ← Procedure.mapFailure .facts setter.tools.bmcAddress
  let url := setter.settingsUrl identity.serial
  let body ← Procedure.mapFailure .execution (Procedure.execute (setter.getSettings url))
  match Assignment.ofBody body with
  | .error cause => throw (.response cause)
  | .ok none => return .unassigned
  | .ok (some assignment) =>
    if assignment.address = current then return .alreadySet
    else
      Procedure.mapFailure .execution
        (executeAll (setter.writeCommands assignment ++ [setter.postNotice url]))
      return .updated

/-- How many attempts a call may make: one more than the further ones (§4.8, step 7). They are
counted in a word that wraps around, so the largest number of further attempts leaves none at
all. -/
def allowed : UInt32 := setter.inspection.retries + 1

theorem toNat_allowed (h : setter.inspection.retries.toNat < UInt32.size - 1) :
    setter.allowed.toNat = setter.inspection.retries.toNat + 1 := by
  rw [allowed, UInt32.toNat_add, UInt32.toNat_one]
  simp only [UInt32.size] at h
  omega

/-- Attempts until one does not fail, with so many more after the first. The last one counts (§4.8,
step 7). -/
def attempts : Nat → Script (Except BmcError BmcOutcome)
  | 0 => setter.attempt.script
  | more + 1 =>
    setter.attempt.script.bind fun result =>
      match result with
      | .ok outcome => .done (.ok outcome)
      | .error _ => .ask (.pause setter.inspection.retryInterval.toNat) fun _ => attempts more

/-- The key under which the outcome stands in the data of a run. -/
def resultKey : String := "set_ipmi"

/-- Notes whether the settings are in place (§4.8, step 1). -/
def record (data : Members) (inPlace : Bool) : Members :=
  data.insert resultKey (.object [("result", .boolean inPlace)])

/-- What the last attempt leaves in the data of the run and the failures so far. -/
def conclude (data : Members) (failures : Failures) :
    Except BmcError BmcOutcome → Members × Failures
  | .ok outcome => (record data (outcome ≠ .unassigned), failures)
  | .error cause =>
    (record data false, failures.add ("failed to set bmc address: " ++ cause.message))

/-- Sets up the management controller. Takes and returns the data of the run and the failures so
far. Before the first attempt the settings are not in place, so that is what stands there if there
is none (§4.8). -/
def update (data : Members) (failures : Failures) : Script (Members × Failures) :=
  match setter.allowed.toNat with
  | 0 => .done (record data false, failures)
  | more + 1 => (setter.attempts more).bind fun result => .done (conclude data failures result)

end BmcSetter
end RaidProvision

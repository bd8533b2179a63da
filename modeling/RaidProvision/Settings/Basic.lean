/-!
# Settings (raidmgr specification §10)

What the program is told about its surroundings: where the tools are, which inspection service to
ask, and where to log.
-/
namespace RaidProvision

/-- The programs to run. Bare names are looked up by the system (§10). -/
structure ToolPaths where
  arcconf : String
  megacli : String
  ipmitool : String
  dmidecode : String
  lsblk : String
  curl : String
  deriving DecidableEq, Repr

def ToolPaths.standard : ToolPaths where
  arcconf := "/opt/arcconf/cmdline/arcconf"
  megacli := "/opt/MegaRAID/MegaCli/MegaCli64"
  ipmitool := "ipmitool"
  dmidecode := "dmidecode"
  lsblk := "lsblk"
  curl := "curl"

/-- How the management controller is set up by the inspection service (§10). -/
structure Inspection where
  /-- The callback address of the service; empty for none. -/
  callbackUrl : String
  /-- Further attempts after the first one that fails. -/
  retries : UInt32
  /-- The pause between two attempts in seconds. -/
  retryInterval : UInt64
  deriving DecidableEq, Repr

def Inspection.standard : Inspection := ⟨"", 0, 60⟩

/-- What is logged, and where to (§10 and §9). -/
structure Logging where
  level : String
  /-- A file to write behind its end, or none for the terminal. -/
  path : Option String
  deriving DecidableEq, Repr

def Logging.standard : Logging := ⟨"info", none⟩

/-- All settings (§10). -/
structure Settings where
  tools : ToolPaths
  inspection : Inspection
  log : Logging
  deriving DecidableEq, Repr

def Settings.standard : Settings := ⟨.standard, .standard, .standard⟩

end RaidProvision

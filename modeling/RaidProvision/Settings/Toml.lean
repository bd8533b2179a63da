import RaidProvision.Settings.Basic
import RaidProvision.Toml.Printer
import RaidProvision.Toml.Reader

/-!
# Settings as TOML (raidmgr specification §10)

A document holds the settings in three groups. A group is a table, and what it leaves out keeps its
standard value; it may as well be an array, which gives the first settings of the group in their
order. What is not known is passed over, and a setting of the wrong kind makes the document
unreadable.

* `ofDocument_nil`: the empty document holds the standard settings.
-/
namespace RaidProvision

open RaidProvision.Toml

namespace Toml

/-- What gives the settings of a group. -/
inductive Fields where
  | byKey (entries : Entries)
  | byPosition (items : List Item)

namespace Item

def text? : Item → Option String
  | value (.text s) => some s
  | _ => none

/-- A number that fits a word of 32 bits without sign. -/
def word32? : Item → Option UInt32
  | value (.integer n) => if 0 ≤ n && n < UInt32.size then some (UInt32.ofNat n.toNat) else none
  | _ => none

/-- A number that fits a word of 64 bits without sign. -/
def word64? : Item → Option UInt64
  | value (.integer n) => if 0 ≤ n && n < UInt64.size then some (UInt64.ofNat n.toNat) else none
  | _ => none

/-- What an item gives as a group of settings. A date or a time is taken for a table with one key
that is not known. -/
def fields? : Item → Option Fields
  | table _ entries => some (.byKey entries)
  | tables earlier last => some (.byPosition ((earlier ++ [last]).map (table .header)))
  | value (.table _ members) => some (.byKey (members.map fun (key, v) => (key, value v)))
  | value (.array elements) => some (.byPosition (elements.map value))
  | value (.moment _) => some (.byKey [])
  | value _ => none

end Item

namespace Fields

variable {α : Type}

/-- What is given for a setting by its position in the group and its key. -/
def get? (position : Nat) (key : String) : Fields → Option Item
  | byKey entries => entries.get? key
  | byPosition items => items[position]?

/-- What is given for a setting, or a standard value if nothing is. It is an error for something
else to stand there. -/
def getOr (fields : Fields) (position : Nat) (key : String) (read : Item → Option α)
    (standard : α) : Option α :=
  match fields.get? position key with
  | some item => read item
  | none => some standard

end Fields

end Toml

def ToolPaths.ofFields (fields : Fields) : Option ToolPaths := do
  return {
    arcconf := ← fields.getOr 0 "arcconf" Item.text? ToolPaths.standard.arcconf
    megacli := ← fields.getOr 1 "megacli" Item.text? ToolPaths.standard.megacli
    ipmitool := ← fields.getOr 2 "ipmitool" Item.text? ToolPaths.standard.ipmitool
    dmidecode := ← fields.getOr 3 "dmidecode" Item.text? ToolPaths.standard.dmidecode
    lsblk := ← fields.getOr 4 "lsblk" Item.text? ToolPaths.standard.lsblk
    curl := ← fields.getOr 5 "curl" Item.text? ToolPaths.standard.curl }

def Inspection.ofFields (fields : Fields) : Option Inspection := do
  return {
    callbackUrl := ← fields.getOr 0 "callback_url" Item.text? Inspection.standard.callbackUrl
    retries := ← fields.getOr 1 "bmc_retries" Item.word32? Inspection.standard.retries
    retryInterval :=
      ← fields.getOr 2 "bmc_retry_interval_sec" Item.word64? Inspection.standard.retryInterval }

def Logging.ofFields (fields : Fields) : Option Logging := do
  return {
    level := ← fields.getOr 0 "level" Item.text? Logging.standard.level
    path := ← fields.getOr 1 "path" (fun item => item.text?.map some) Logging.standard.path }

def ToolPaths.toToml (t : ToolPaths) : List Char :=
  assignment "arcconf" (quote t.arcconf.toList) ++ assignment "megacli" (quote t.megacli.toList) ++
    assignment "ipmitool" (quote t.ipmitool.toList) ++
    assignment "dmidecode" (quote t.dmidecode.toList) ++
    assignment "lsblk" (quote t.lsblk.toList) ++ assignment "curl" (quote t.curl.toList)

def Inspection.toToml (i : Inspection) : List Char :=
  assignment "callback_url" (quote i.callbackUrl.toList) ++
    assignment "bmc_retries" (Nat.repr i.retries.toNat).toList ++
    assignment "bmc_retry_interval_sec" (Nat.repr i.retryInterval.toNat).toList

def Logging.toToml (l : Logging) : List Char :=
  assignment "level" (quote l.level.toList) ++
    match l.path with
    | some path => assignment "path" (quote path.toList)
    | none => []

namespace Settings

/-- What a document gives as a group of settings. -/
def group? (document : Entries) (name : String) : Option Fields :=
  match document.get? name with
  | some item => item.fields?
  | none => some (.byKey [])

/-- The settings that a document holds (§10). -/
def ofDocument (document : Entries) : Option Settings := do
  return {
    tools := ← ToolPaths.ofFields (← group? document "tools")
    inspection := ← Inspection.ofFields (← group? document "inspection")
    log := ← Logging.ofFields (← group? document "log") }

/-- The settings that a text holds (§10). -/
def ofText (text : String) : Option Settings := (readDocument text).bind ofDocument

/-- The settings as a document (§10). -/
def toText (s : Settings) : String :=
  String.ofList (header "tools" ++ s.tools.toToml ++ '\n' :: header "inspection" ++
    s.inspection.toToml ++ '\n' :: header "log" ++ s.log.toToml)

theorem ofDocument_nil : ofDocument [] = some standard := rfl

end Settings
end RaidProvision

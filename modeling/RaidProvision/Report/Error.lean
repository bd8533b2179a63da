import RaidProvision.Text.Unsigned

/-!
# What can be wrong with a report (raidmgr specification §7)

The tools print reports for people. `ReportError` names each way in which one can fail to be what a
reader expects; `ReportError.message` is the wording.
-/
namespace RaidProvision

open RaidProvision.Text

/-- Why the output of a tool could not be read (§7). -/
inductive ReportError where
  /-- A line that should be `key: value` has no colon. -/
  | notKeyValue (line : String)
  | endedBeforeLine (index : Nat) (what : String)
  | emptyLine (what : String)
  | missingField (name : String)
  /-- A line for a record that has all its values. -/
  | extraLine (line : String)
  /-- A line for a record that has no colon. -/
  | notLabelled (label line : String)
  | wrongLabel (label : String) (position : Nat) (found : String)
  | unknownUnit (text : String)
  | emptySize
  | badSizeValue (token : String)
  | sizeWithoutUnit (text : String)
  | sizeOutOfRange (gb : UInt64)
  | noControllerCount
  | emptyControllerCount
  | badControllerCount (token : String) (cause : IntegerError)
  | badAdapterCount (token : String) (cause : IntegerError)
  | badControllerLine (line : String)
  | noLogicalDriveNumber (line : String)
  | noVirtualDriveNumber (line : String)
  | recordCutShort (line : String)
  | adapterWithoutNumber (line : String)
  | driveBeforeAdapter
  | endedInsideRecord
  | noBmcAddress
  | blockDevicesMalformed
  | noBlockDevices
  deriving DecidableEq, Repr

namespace ReportError

/-- What is wrong, without the words that introduce it. -/
def detail : ReportError → String
  | notKeyValue line => s!"expected 'key: value', got '{line}'"
  | endedBeforeLine index what => s!"report ended before line {index} ({what})"
  | emptyLine what => s!"empty line where {what} was expected"
  | missingField name => s!"missing field '{name}'"
  | extraLine line => s!"record already complete, extra line '{line}'"
  | notLabelled label line => s!"expected '{label}: ...', got '{line}'"
  | wrongLabel label position found =>
    s!"expected '{label}' at position {position}, got '{found}'"
  | unknownUnit text => s!"unrecognized size unit '{text}'"
  | emptySize => "empty size"
  | badSizeValue token => s!"bad size value '{token}': invalid float literal"
  | sizeWithoutUnit text => s!"size '{text}' has no unit"
  | sizeOutOfRange gb => s!"size_gb {gb} is out of range"
  | noControllerCount => "no controller count in arcconf list output"
  | emptyControllerCount => "empty controller count"
  | badControllerCount token cause => s!"bad controller count '{token}': {cause.message}"
  | badAdapterCount token cause => s!"bad adapter count '{token}': {cause.message}"
  | badControllerLine line => s!"unexpected controller line '{line}'"
  | noLogicalDriveNumber line => s!"no logical drive number in '{line}'"
  | noVirtualDriveNumber line => s!"no virtual drive number in '{line}'"
  | recordCutShort line => s!"drive record cut short by '{line}'"
  | adapterWithoutNumber line => s!"adapter line without a number: '{line}'"
  | driveBeforeAdapter => "drive listed before any adapter"
  | endedInsideRecord => "report ended inside a drive record"
  | noBmcAddress => "no 'IP Address' in lan print"
  | blockDevicesMalformed => "lsblk output is not JSON: malformed text"
  | noBlockDevices => "lsblk output has no 'blockdevices'"

/-- The whole wording. -/
def message (e : ReportError) : String := "Failed to parse output: " ++ e.detail

end ReportError
end RaidProvision

import RaidProvision.Size.Basic
import RaidProvision.Report.Line

/-!
# Physical drives (raidmgr specification §3)

The two controller families report drives in different detail. An arcconf report gives each drive 25
texts, kept as they stand in a `DriveSheet`; a MegaCLI report gives a `DriveSummary`: position,
controller, medium and size in gigabytes. A sheet has a summary if its size can be read.

* `Attribute.mem_all`: the table of attributes is complete.
-/
namespace RaidProvision

open RaidProvision.Text RaidProvision.Report

/-- What an arcconf report says about a drive, in the order in which a sheet lists it (§3). -/
inductive Attribute where
  | state | blockSize | supported | programmedMaxSpeed | transferSpeed | channelAndDevice | location
  | enclosureAndSlot | vendor | model | firmware | serialNumber | worldWideName | reservedSize
  | usedSize | unusedSize | totalSize | writeCache | fru | smart | smartWarnings | powerState
  | supportedPowerStates | ssd | temperature
  deriving DecidableEq, Repr

namespace Attribute

/-- All attributes in order. -/
def all : List Attribute :=
  [state, blockSize, supported, programmedMaxSpeed, transferSpeed, channelAndDevice, location,
    enclosureAndSlot, vendor, model, firmware, serialNumber, worldWideName, reservedSize, usedSize,
    unusedSize, totalSize, writeCache, fru, smart, smartWarnings, powerState, supportedPowerStates,
    ssd, temperature]

/-- The key in the report. -/
def label : Attribute → String
  | state => "State"
  | blockSize => "Block Size"
  | supported => "Supported"
  | programmedMaxSpeed => "Programmed Max Speed"
  | transferSpeed => "Transfer Speed"
  | channelAndDevice => "Reported Channel,Device(T:L)"
  | location => "Reported Location"
  | enclosureAndSlot => "Reported ESD(T:L)"
  | vendor => "Vendor"
  | model => "Model"
  | firmware => "Firmware"
  | serialNumber => "Serial number"
  | worldWideName => "World-wide name"
  | reservedSize => "Reserved Size"
  | usedSize => "Used Size"
  | unusedSize => "Unused Size"
  | totalSize => "Total Size"
  | writeCache => "Write Cache"
  | fru => "FRU"
  | smart => "S.M.A.R.T."
  | smartWarnings => "S.M.A.R.T. warnings"
  | powerState => "Power State"
  | supportedPowerStates => "Supported Power States"
  | ssd => "SSD"
  | temperature => "Temperature"

/-- The name in an inventory. -/
def name : Attribute → String
  | state => "state"
  | blockSize => "block_size"
  | supported => "supported"
  | programmedMaxSpeed => "programmed_max_speed"
  | transferSpeed => "transfer_speed"
  | channelAndDevice => "reported_channel_and_device"
  | location => "reported_location"
  | enclosureAndSlot => "reported_esd"
  | vendor => "vendor"
  | model => "model"
  | firmware => "firmware"
  | serialNumber => "serial_number"
  | worldWideName => "world_wide_name"
  | reservedSize => "reserved_size"
  | usedSize => "used_size"
  | unusedSize => "unused_size"
  | totalSize => "total_size"
  | writeCache => "write_cache"
  | fru => "fru"
  | smart => "s_m_a_r_t"
  | smartWarnings => "s_m_a_r_t_warnings"
  | powerState => "power_state"
  | supportedPowerStates => "supported_power_states"
  | ssd => "ssd"
  | temperature => "temperature"

theorem mem_all (a : Attribute) : a ∈ all := by cases a <;> decide

end Attribute

/-- A drive as an arcconf report describes it: a text for every attribute (§3). -/
structure DriveSheet where
  controller : String
  text : Attribute → String

/-- A drive in short (§3). -/
structure DriveSummary where
  /-- `enclosure:slot`, or channel and device. -/
  id : String
  controller : String
  medium : String
  size : String
  deriving DecidableEq, Repr

/-- A drive in an inventory. -/
inductive PhysicalDrive where
  | sheet (drive : DriveSheet)
  | summary (drive : DriveSummary)

namespace DriveSheet

/-- Channel and device as a create command takes them: `0,1(1:0)` is `0 1`. -/
def position (drive : DriveSheet) : String :=
  " ".intercalate ((pieces ',' (before '(' (drive.text .channelAndDevice))).map trim)

/-- The kind of drive: flash, or the first word of its transfer speed. -/
def medium (drive : DriveSheet) : String :=
  if sameFold (drive.text .ssd) "yes" then "SSD"
  else (words (drive.text .transferSpeed)).head?.getD "Unknown"

/-- The drive in short (§3). -/
def summarize (drive : DriveSheet) : Except ReportError DriveSummary :=
  (Size.normalizeText (drive.text .totalSize)).map fun size =>
    ⟨drive.position, drive.controller, drive.medium, size⟩

end DriveSheet

namespace PhysicalDrive

/-- The drive in short (§3). -/
def summarize : PhysicalDrive → Except ReportError DriveSummary
  | sheet drive => drive.summarize
  | summary drive => .ok drive

/-- The serial number, if it is known. -/
def serialNumber? : PhysicalDrive → Option String
  | sheet drive => some (drive.text .serialNumber)
  | summary _ => none

end PhysicalDrive
end RaidProvision

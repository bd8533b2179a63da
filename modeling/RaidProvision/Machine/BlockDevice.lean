import RaidProvision.Json.Reader
import RaidProvision.Report.Error
import RaidProvision.Text.Blank

/-!
# Block devices (raidmgr specification §4.7)

`lsblk` prints a JSON object whose `blockdevices` are an array. The devices that have a name and are
of type `disk` count; nested devices do not. Older versions print numbers and flags as text, and
texts may be padded or empty.

* `ofValues_append`: devices of two arrays are the devices of the one and then those of the other.
-/
namespace RaidProvision

open RaidProvision.Text RaidProvision.Json

/-- A disk that the system sees. -/
structure BlockDevice where
  name : String
  size : UInt64
  model : Option String
  serial : Option String
  vendor : Option String
  rotational : Bool
  transport : Option String
  deriving DecidableEq, Repr

namespace BlockDevice

/-- A text that is not blank, trimmed. -/
def textOf (value : Value) : Option String :=
  match value.text? with
  | some s => if (trim s).isEmpty then none else some (trim s)
  | none => none

/-- A number, or one in text; anything else is zero. -/
def sizeOf (value : Value) : UInt64 :=
  match value.word?, value.text? with
  | some n, _ => n
  | none, some s => (readUInt64 (trim s)).toOption.getD 0
  | none, none => 0

/-- A flag, or `1` for one that is set; anything else is not set. -/
def flagOf (value : Value) : Bool :=
  match value.boolean?, value.text? with
  | some b, _ => b
  | none, some s => trim s == "1"
  | none, none => false

/-- The device that an element stands for (§4.7). -/
def ofValue (element : Value) : Option BlockDevice :=
  let member (name : String) := (element.member? name).getD .null
  let name := ((member "name").text?).getD ""
  if name.isEmpty || (member "type").text? != some "disk" then none
  else some {
    name
    size := sizeOf (member "size")
    model := textOf (member "model")
    serial := textOf (member "serial")
    vendor := textOf (member "vendor")
    rotational := flagOf (member "rota")
    transport := textOf (member "tran") }

/-- The devices of an array. -/
def ofValues (elements : List Value) : List BlockDevice := elements.filterMap ofValue

theorem ofValues_append (xs ys : List Value) :
    ofValues (xs ++ ys) = ofValues xs ++ ofValues ys := by
  simp [ofValues]

/-- The devices of a listing that was read. -/
def ofListing (value : Value) : Except ReportError (List BlockDevice) :=
  match value.member? "blockdevices" with
  | some (.array elements) => .ok (ofValues elements)
  | _ => .error .noBlockDevices

/-- Reads the devices from a listing (§4.7). -/
def ofText (listing : String) : Except ReportError (List BlockDevice) :=
  match Value.parse? listing with
  | some value => ofListing value
  | none => .error .blockDevicesMalformed

end BlockDevice
end RaidProvision

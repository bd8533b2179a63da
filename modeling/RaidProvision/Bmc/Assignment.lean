import RaidProvision.Json.Reader
import RaidProvision.Text.Blank

/-!
# Assigned network settings (raidmgr specification §4.8, step 4)

The inspection service answers with the network settings of a management controller: an object with
three texts, or an array of the three in order. Nothing is assigned if the answer is blank, null or
an empty object.

* `ofBody_blank`: a blank answer assigns nothing.
-/
namespace RaidProvision

open RaidProvision.Text RaidProvision.Json

/-- The network settings of a management controller (§4.8, step 4). -/
structure Assignment where
  address : String
  netmask : String
  gateway : String
  deriving DecidableEq, Repr

namespace Assignment

/-- Why an answer could not be read. -/
inductive Fault where
  | malformed
  | mismatch (cause : Mismatch)

def Fault.message : Fault → String
  | malformed => "not JSON: malformed text"
  | mismatch cause => cause.message

/-- The keys, in the order in which they are asked for. -/
def keys : List String := ["ip_address", "netmask", "gateway"]

/-- What an answer is expected to be. -/
def structureName : String := "struct BmcSettings"

/-- A text, or what stands in its place. -/
def textOf (value : Value) : Except Mismatch String :=
  match value with
  | .text s => .ok s
  | value => .error (.kind (.ofValue value) "a string")

/-- The text under a key that has to be there. -/
def fieldOf (members : Members) (key : String) : Except Mismatch String :=
  match members.lookup key with
  | some value => textOf value
  | none => .error (.missingField key)

/-- Refuses the first member under one of the keys that is no text. -/
def checkKinds : Members → Except Mismatch Unit
  | [] => .ok ()
  | (name, value) :: rest => do
    if keys.contains name then
      let _ ← textOf value
    checkKinds rest

/-- The element at an index. -/
def elementOf (elements : List Value) (index : Nat) : Except Mismatch String :=
  match elements[index]? with
  | some value => textOf value
  | none => .error (.tooFew index (structureName ++ " with 3 elements"))

/-- The settings that a value stands for. -/
def ofValue : Value → Except Mismatch Assignment
  | .object members => do
    checkKinds members
    let address ← fieldOf members "ip_address"
    let netmask ← fieldOf members "netmask"
    let gateway ← fieldOf members "gateway"
    return { address, netmask, gateway }
  | .array elements => do
    let address ← elementOf elements 0
    let netmask ← elementOf elements 1
    let gateway ← elementOf elements 2
    if 3 < elements.length then throw (.tooMany elements.length)
    return { address, netmask, gateway }
  | value => .error (.kind (.ofValue value) structureName)

/-- Reads the answer of the service (§4.8, step 4). -/
def ofBody (body : String) : Except Fault (Option Assignment) :=
  let body := trim body
  if body.isEmpty then .ok none
  else
    match Value.parse? body with
    | none => .error .malformed
    | some .null => .ok none
    | some (.object []) => .ok none
    | some value =>
      match ofValue value with
      | .ok assignment => .ok (some assignment)
      | .error cause => .error (.mismatch cause)

theorem ofBody_blank {body : String} (h : trim body = "") : ofBody body = .ok none := by
  simp [ofBody, h]

end Assignment
end RaidProvision

import RaidProvision.Report.Line

/-!
# The address of the management controller (raidmgr specification §4.7)

`ipmitool lan print` prints `key : value` lines. The address is the value of the first key that is
`IP Address` and nothing more; `IP Address Source` is a different key.

* `addressOf_cons_of_ne`: a line with another key does not count.
-/
namespace RaidProvision.Machine

open RaidProvision.Text RaidProvision.Report

/-- The key of the address (§4.7). -/
def addressKey : String := "IP Address"

/-- The value of the first line with the key of the address. -/
def addressOf : List String → Option String
  | [] => none
  | line :: rest =>
    match keyValue ":" line with
    | some (key, value) => if key = addressKey then some value else addressOf rest
    | none => addressOf rest

theorem addressOf_cons_of_ne {line : String} (rest : List String)
    (h : ∀ key value, keyValue ":" line = some (key, value) → key ≠ addressKey) :
    addressOf (line :: rest) = addressOf rest := by
  cases hk : keyValue ":" line with
  | none => simp [addressOf, hk]
  | some kv =>
    obtain ⟨key, value⟩ := kv
    simp [addressOf, hk, h key value hk]

/-- Reads the address from a report (§4.7). -/
def bmcAddress (report : String) : Except ReportError String :=
  match addressOf (lines report) with
  | some address => .ok address
  | none => .error .noBmcAddress

end RaidProvision.Machine

import RaidProvision.Report.Line

/-!
# The adapter count of MegaCLI (raidmgr specification §4.1)

The report is `Controller Count: n.`; adapters are numbered from 0.

* `length_adapterIds`: there are as many ids as adapters.
-/
namespace RaidProvision.MegaCli

open RaidProvision.Text RaidProvision.Report

/-- The number of adapters: the text between the first colon and the next full stop (§4.1). -/
def adapterCount (report : String) : Except ReportError UInt32 := do
  let value ← valueAfterColon report
  let token := trim (before '.' value)
  (readUInt32 token).mapError (.badAdapterCount token)

/-- The ids of some adapters (§4.1). -/
def adapterIds (count : UInt32) : List String := (List.range count.toNat).map Nat.repr

theorem length_adapterIds (count : UInt32) : (adapterIds count).length = count.toNat := by
  simp [adapterIds]

end RaidProvision.MegaCli

import RaidProvision.Report.Fields
import RaidProvision.Report.Line

/-!
# Who made the machine (raidmgr specification §4.7)

`dmidecode` prints blocks of `key: value` lines. Of each key the first value counts.

* `fieldsOf_nil`: an empty report has no fields.
-/
namespace RaidProvision

open RaidProvision.Text RaidProvision.Report

/-- Product, serial number and manufacturer of a machine. -/
structure Identity where
  product : String
  serial : String
  manufacturer : String
  deriving DecidableEq, Repr

namespace Identity

/-- The first value of each key, before which some were found. -/
def fieldsOf (found : Fields) : List String → Fields
  | [] => found
  | line :: rest =>
    match keyValue ":" line with
    | some (key, value) => fieldsOf (found.insertNew key value) rest
    | none => fieldsOf found rest

@[simp]
theorem fieldsOf_nil (found : Fields) : fieldsOf found [] = found := rfl

/-- Reads the identity from a report (§4.7). -/
def ofReport (report : String) : Except ReportError Identity := do
  let fields := fieldsOf .empty (lines report)
  let product ← fields.get "Product Name"
  let serial ← fields.get "Serial Number"
  let manufacturer ← fields.get "Manufacturer"
  return { product, serial, manufacturer }

end Identity
end RaidProvision

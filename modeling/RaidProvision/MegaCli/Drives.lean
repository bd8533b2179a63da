import RaidProvision.Drive.Basic
import RaidProvision.Report.Record

/-!
# The drive list of MegaCLI (raidmgr specification §4.2)

The list is filtered to a banner line for each adapter, which holds `Adapter` and its number after a
`#`, and five labelled lines for each drive. Blank lines do not count. A drive is of the last
adapter before it.

* `drivesFrom_blank`: a blank line does not count.
-/
namespace RaidProvision.MegaCli

open RaidProvision.Text RaidProvision.Report

/-- The labels of the lines of a drive, in order (§4.2). -/
def driveLabels : List String :=
  ["Enclosure Device ID", "Slot Number", "PD Type", "Raw Size", "Inquiry Data"]

/-- What a banner line holds. -/
def adapterMark : String := "Adapter"

/-- The models that are flash even where the type names only the bus (§4.2). -/
def flashModels : List String := ["SSD", "Micron_5200"]

/-- The drive of a complete record (§4.2). -/
def summaryOf (adapter : String) (record : Record) : Except ReportError DriveSummary := do
  let enclosure ← record.get "Enclosure Device ID"
  let slot ← record.get "Slot Number"
  let model ← record.get "Inquiry Data"
  let rawSize ← record.get "Raw Size"
  let kind ← record.get "PD Type"
  let size ← Size.normalizeText (trim (before '[' rawSize))
  return {
    id := enclosure ++ ":" ++ slot
    controller := adapter
    medium := if flashModels.any (contains · model) then "SSD" else kind
    size }

/-- The number that a banner line gives to its adapter (§4.2). -/
def adapterOf (line : String) : Except ReportError String :=
  match splitFirst "#" line with
  | some (_, id) => .ok (String.ofList (dropTrailing (· == ':') (trim id).toList))
  | none => .error (.adapterWithoutNumber (trim line))

/-- The drives of some lines, after the banner of an adapter and with the first lines of a drive in
a record. -/
def drivesFrom : (adapter : Option String) → Record → List String →
    Except ReportError (List DriveSummary)
  | _, record, [] => if record.isEmpty then .ok [] else .error .endedInsideRecord
  | adapter, record, line :: rest =>
    if isBlankText line then drivesFrom adapter record rest
    else if contains adapterMark line then
      if record.isEmpty then do
        let id ← adapterOf line
        drivesFrom (some id) record rest
      else .error (.recordCutShort (trim line))
    else do
      let record ← record.push line
      if record.isComplete then
        match adapter with
        | none => throw .driveBeforeAdapter
        | some id =>
          let drive ← summaryOf id record
          let drives ← drivesFrom adapter (.new driveLabels) rest
          return drive :: drives
      else drivesFrom adapter record rest

/-- The drives of a list (§4.2). -/
def drives (report : String) : Except ReportError (List DriveSummary) :=
  drivesFrom none (.new driveLabels) (lines report)

theorem drivesFrom_blank (adapter : Option String) (record : Record) {line : String}
    (rest : List String) (h : isBlankText line) :
    drivesFrom adapter record (line :: rest) = drivesFrom adapter record rest := by
  simp [drivesFrom, h]

end RaidProvision.MegaCli

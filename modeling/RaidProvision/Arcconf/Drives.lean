import RaidProvision.Drive.Basic
import RaidProvision.Report.Fields

/-!
# The drive report of arcconf (raidmgr specification §4.2)

A line with `Hard drive` opens a drive, and the lines with ` : ` that follow it without a gap are
its fields. Whatever else the report holds does not count. A drive needs all attributes; of a key
that stands twice the last value counts.

* `blocksFrom_append_of_outside`: lines before the first drive do not count.
-/
namespace RaidProvision.Arcconf

open RaidProvision.Text RaidProvision.Report

/-- What a line that opens a drive holds (§4.2). -/
def driveMark : String := "Hard drive"

/-- What stands between a key and its value. -/
def fieldMark : String := " : "

/-- The fields of each drive. `opened` are the fields so far of a drive that may go on. -/
def blocksFrom : (opened : Option Fields) → List String → List Fields
  | none, [] => []
  | some fields, [] => [fields]
  | none, line :: rest =>
    if contains driveMark line then blocksFrom (some .empty) rest else blocksFrom none rest
  | some fields, line :: rest =>
    match keyValue fieldMark line with
    | some (key, value) => blocksFrom (some (fields.insert key value)) rest
    | none =>
      fields :: if contains driveMark line then blocksFrom (some .empty) rest
        else blocksFrom none rest

/-- The fields of the drives of a report (§4.2). -/
def driveBlocks (report : String) : List Fields := blocksFrom none (lines report)

/-- The drive with some fields, or the first attribute that is missing (§4.2). -/
def sheetOf (controller : String) (fields : Fields) : Except ReportError DriveSheet :=
  match Attribute.all.find? fun a => (fields.get? a.label).isNone with
  | some a => .error (.missingField a.label)
  | none => .ok ⟨controller, fun a => (fields.get? a.label).getD ""⟩

/-- The drives of a report (§4.2). -/
def drives (controller report : String) : Except ReportError (List DriveSheet) :=
  (driveBlocks report).mapM (sheetOf controller)

theorem blocksFrom_append_of_outside (before rest : List String)
    (h : ∀ line ∈ before, contains driveMark line = false) :
    blocksFrom none (before ++ rest) = blocksFrom none rest := by
  induction before with
  | nil => rfl
  | cons line before ih =>
    simp [blocksFrom, h line (by simp), ih fun l hl => h l (by simp [hl])]

end RaidProvision.Arcconf

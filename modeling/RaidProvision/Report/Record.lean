import RaidProvision.Report.Line
import RaidProvision.Text.Ascii

/-!
# Records of labelled lines (raidmgr specification §4.5)

A `Record` is filled line by line. Each line must carry the label that is due at its position, so a
report that drops, repeats or exchanges lines is refused instead of shifting every value.

* `push_eq_ok`: a line is taken iff it carries the label that is due, and then its value is
  appended.
-/
namespace RaidProvision.Report

open RaidProvision.Text

/-- Values for the first of some labels (§4.5). -/
structure Record where
  labels : List String
  values : List String
  deriving DecidableEq, Repr

namespace Record

/-- A record without values. -/
def new (labels : List String) : Record := ⟨labels, []⟩

/-- Takes the next line (§4.5). -/
def push (record : Record) (line : String) : Except ReportError Record :=
  let position := record.values.length
  match record.labels[position]? with
  | none => .error (.extraLine (trim line))
  | some label =>
    match splitFirst ":" line with
    | none => .error (.notLabelled label (trim line))
    | some (found, value) =>
      if sameFold (trim found) label then
        .ok { record with values := record.values ++ [trim value] }
      else .error (.wrongLabel label position (trim found))

def isEmpty (record : Record) : Bool := record.values.isEmpty

def isComplete (record : Record) : Bool := record.values.length == record.labels.length

/-- The value at the first position of a label. -/
def get? (record : Record) (label : String) : Option String :=
  (record.labels.idxOf? label).bind fun i => record.values[i]?

/-- The value of a label that has to be there. -/
def get (record : Record) (label : String) : Except ReportError String :=
  match record.get? label with
  | some value => .ok value
  | none => .error (.missingField label)

theorem push_eq_ok {record next : Record} {line : String} :
    record.push line = .ok next ↔
      ∃ label found value, record.labels[record.values.length]? = some label ∧
        splitFirst ":" line = some (found, value) ∧ sameFold (trim found) label ∧
        next = { record with values := record.values ++ [trim value] } := by
  constructor
  · intro h
    simp only [push] at h
    split at h
    · cases h
    · rename_i label hl
      split at h
      · cases h
      · rename_i found value hs
        split at h
        · rename_i hf
          simp only [Except.ok.injEq] at h
          exact ⟨label, found, value, hl, hs, hf, h.symm⟩
        · cases h
  · rintro ⟨label, found, value, hl, hs, hf, rfl⟩
    simp [push, hl, hs, hf]

end Record
end RaidProvision.Report

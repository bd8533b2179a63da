import RaidProvision.Report.Error
import RaidProvision.Text.Blank
import RaidProvision.Text.Split

/-!
# Reading lines of reports (raidmgr specification §4.5)

A line of a report is often `key : value`. The separator is found at its first occurrence, so a
value may hold it again, and blanks around both parts do not count.

* `keyValue_isSome_iff`: a line is `key : value` iff the separator occurs in it.
-/
namespace RaidProvision.Report

open RaidProvision.Text

/-- The trimmed parts before and after the first `sep` (§4.5). -/
def keyValue (sep line : String) : Option (String × String) :=
  (splitFirst sep line).map fun (key, value) => (trim key, trim value)

theorem keyValue_isSome_iff (sep line : String) :
    (keyValue sep line).isSome ↔ contains sep line := by
  simp [keyValue, splitFirst, contains]

/-- The trimmed text after the first colon (§4.1). -/
def valueAfterColon (line : String) : Except ReportError String :=
  match keyValue ":" line with
  | some (_, value) => .ok value
  | none => .error (.notKeyValue (trim line))

/-- The line at an index, counted from 0. `what` says what is expected there (§4.4, steps 4 and
5). -/
def lineAt (index : Nat) (what report : String) : Except ReportError String :=
  match (pieces '\n' report)[index]? with
  | some line => .ok line
  | none => .error (.endedBeforeLine index what)

/-- The last word of a line. `what` says what is expected there (§4.4, step 4). -/
def lastWord (what line : String) : Except ReportError String :=
  match (words line).getLast? with
  | some word => .ok word
  | none => .error (.emptyLine what)

end RaidProvision.Report

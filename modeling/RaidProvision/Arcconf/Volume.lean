import RaidProvision.Layout.SizeRequest
import RaidProvision.Report.Line
import RaidProvision.Size.Basic

/-!
# Logical drives of arcconf (raidmgr specification §4.4)

The command line that creates a logical drive, and what is read from the reports that follow: the
number of the new drive on line 2 and its size on line 1, counted from 0.

* `createdDrive_word`: a number that is read is the last word of its line.
-/
namespace RaidProvision.Arcconf

open RaidProvision.Text RaidProvision.Report

/-- The report of a controller without logical drives says so (§4.4). -/
def noDrivesMark : String := "No logical devices configured"

/-- The arguments that create a logical drive from members (§4.4, step 3). -/
def createArguments (controller : String) (size : SizeRequest) (level : String)
    (members : List String) : Except ReportError String :=
  size.megabytes.map fun megabytes =>
    let disks := " ".intercalate members
    s!"create {controller} LOGICALDRIVE {megabytes} {level} {disks} noprompt"

/-- The number of a drive that was just created (§4.4, step 4). -/
def createdDrive (report : String) : Except ReportError String := do
  let line ← lineAt 2 "created logical drive" report
  let id ← lastWord "logical drive number" line
  match readUInt32 id with
  | .ok _ => return id
  | .error _ => throw (.noLogicalDriveNumber (trim line))

/-- The size of a logical drive (§4.4, step 5). -/
def driveSize (report : String) : Except ReportError Size := do
  let line ← lineAt 1 "logical drive size" report
  let value ← valueAfterColon line
  Size.ofText value

theorem createdDrive_word {report id : String} (h : createdDrive report = .ok id) :
    ∃ line, (pieces '\n' report)[2]? = some line ∧ (words line).getLast? = some id := by
  simp only [createdDrive, lineAt, bind, Except.bind] at h
  cases hl : (pieces '\n' report)[2]? with
  | none => simp [hl] at h
  | some line =>
    refine ⟨line, rfl, ?_⟩
    simp only [hl, lastWord] at h
    cases hw : (words line).getLast? with
    | none => simp [hw] at h
    | some word =>
      simp only [hw] at h
      cases hr : readUInt32 word with
      | error e => simp [hr, throw, throwThe, MonadExceptOf.throw] at h
      | ok n => simp only [hr, pure, Except.pure, Except.ok.injEq] at h; rw [h]

end RaidProvision.Arcconf

import RaidProvision.Report.Line
import RaidProvision.Size.Basic

/-!
# Virtual drives of MegaCLI (raidmgr specification §4.4)

The command line that creates a virtual drive, and what is read from the reports that follow: the
number of the new drive on line 1 and its size on line 0, counted from 0.

* `createdDrive_word`: a number that is read is the last word of its line.
-/
namespace RaidProvision.MegaCli

open RaidProvision.Text RaidProvision.Report

/-- The report of an adapter without virtual drives says so (§4.4). -/
def noDrivesMark : String := "No Virtual Drive Configured"

/-- The arguments that create a virtual drive over the whole of its members (§4.4, step 3). -/
def createArguments (controller level : String) (members : List String) : String :=
  let disks := ",".intercalate members
  s!"-CfgLdAdd -r{level}[{disks}] -a{controller}"

/-- The number of a drive that was just created (§4.4, step 4). -/
def createdDrive (report : String) : Except ReportError String := do
  let line ← lineAt 1 "created virtual drive" report
  let id ← lastWord "virtual drive number" line
  match readUInt32 id with
  | .ok _ => return id
  | .error _ => throw (.noVirtualDriveNumber (trim line))

/-- The size of a virtual drive (§4.4, step 5). -/
def driveSize (report : String) : Except ReportError Size := do
  let line ← lineAt 0 "virtual drive size" report
  let value ← valueAfterColon line
  Size.ofText value

theorem createdDrive_word {report id : String} (h : createdDrive report = .ok id) :
    ∃ line, (pieces '\n' report)[1]? = some line ∧ (words line).getLast? = some id := by
  simp only [createdDrive, lineAt, bind, Except.bind] at h
  cases hl : (pieces '\n' report)[1]? with
  | none => simp [hl] at h
  | some line =>
    refine ⟨line, rfl, ?_⟩
    simp only [hl, lastWord] at h
    cases hw : (words line).getLast? with
    | none => simp [hw] at h
    | some word =>
      simp only [hw] at h
      cases hr : readUInt32 word with
      | error e => simp [hr, throw, throwThe, MonadExceptOf.throw] at h
      | ok n => simp only [hr, pure, Except.pure, Except.ok.injEq] at h; rw [h]

end RaidProvision.MegaCli

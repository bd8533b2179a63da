import RaidProvision.Proofs.CommandLine.Preparation
import RaidProvision.Proofs.FileTree.Keep
import RaidProvision.Proofs.Layout.Meaning
import RaidProvision.Proofs.Manager.InRange
import RaidProvision.Proofs.Settings.FirstRun

/-!
# Creating what a record says

The record of a layout is read before any tool runs. If it is refused, no command has been run, not
even to find out which controllers there are; a record that was accepted has no size that is refused
later.

Until then the program may have written the standard settings and made a file for the log, which may
be the file of the record itself. That does not matter: what is refused stays refused, because the
settings that are written are no record.

* `Host.Refused.of_keeps`: what is refused stays refused.
* `refused_kept`, `quiet_readRecord`: the steps before a tool runs.
* `run_create_of_refused`: the whole program.
* `create_refused_or_exact`: refused records and accepted ones.
-/
namespace RaidProvision

open RaidProvision.Text RaidProvision.Json

/-! ## A record that stays refused -/

/-- A file holds a text that is no record. -/
def Host.Refused (record : String) (host : Host) : Prop :=
  ∃ text cause, host.readText record = .ok text ∧ Node.ofText text = .error cause

/-- No record starts with a comment. -/
theorem Node.ofText_of_hash {s : String} {cs : List Char} (h : s.toList = '#' :: cs) :
    ofText s = .error .malformed := by
  have hskip : skipSpace ('#' :: cs) = '#' :: cs := rfl
  have hvalue : Value.read (ε := Layout.Defect) 0 ('#' :: cs) = .error .malformed := by
    unfold Value.read
    simp only [hskip]
    rfl
  have hfound : readFound (ε := Layout.Defect) ('#' :: cs) = .error .malformed := by
    simp only [readFound, hskip, Reader.map, hvalue]
    rfl
  have hpart : part maxDepth ('#' :: cs) = .error .malformed := by
    simp only [part, Reader.map, Layout.objectPart, hskip, Layout.refuse, hfound]
    rfl
  rw [ofText, wholeText, h, hpart]

/-- The settings that the program writes are no record. -/
theorem Settings.ofText_standardFile_malformed : Node.ofText standardFile = .error .malformed := by
  have hheader : fileHeader.toList = '#' :: fileHeader.toList.tail := by decide
  have hfile : standardFile.toList =
      '#' :: (fileHeader.toList.tail ++ standard.toText.toList) := by
    rw [standardFile, String.toList_append, hheader, List.cons_append, List.tail_cons]
  exact Node.ofText_of_hash hfile

namespace Host

variable {record : String} {host : Host}

theorem readText_of_read {path text : String}
    (h : host.files.read host.directory (octets path) = .ok (octets text)) :
    host.readText path = .ok text := by
  simp only [readText, h, ofOctets?_octets]

theorem Refused.of_keeps (h : host.Refused record) {files : FileTree}
    (hkeeps : FileTree.Keeps (octets Settings.standardFile) host.files files) :
    Refused record { host with files := files } := by
  obtain ⟨text, cause, hread, hrefused⟩ := h
  unfold readText at hread
  split at hread
  case h_1 => cases hread
  case h_2 content hcontent =>
    rcases hkeeps.read hcontent with hsame | hwritten
    · refine ⟨text, cause, ?_, hrefused⟩
      simp only [readText, hsame]
      exact hread
    · exact ⟨_, _, readText_of_read hwritten, Settings.ofText_standardFile_malformed⟩

theorem Refused.withFiles (h : host.Refused record) {result : Except OsError FileTree}
    (hkeeps : ∀ files, result = .ok files →
      FileTree.Keeps (octets Settings.standardFile) host.files files) :
    Refused record (host.withFiles result).2 := by
  cases result with
  | error cause => exact h
  | ok files => exact h.of_keeps (hkeeps files rfl)

end Host

/-! ## Before a tool runs -/

namespace CommandLine

variable {record : String}

/-- What is refused stays refused while settings are written and the log is opened. -/
theorem refused_kept : Kept (Host.Refused record) where
  settings := fun _ _ h => h.withFiles fun _ => FileTree.keeps_replace
  log := fun _ _ h => h.withFiles fun _ => FileTree.keeps_touch

/-- A procedure failed. -/
def Failed {α : Type} (result : Except Failure α) : Prop := ∃ cause, result = .error cause

theorem quiet_readRecord :
    Procedure.Quiet (Host.Refused record) Failed (readRecord record) := by
  let Told : Except OsError String → Prop := fun answer =>
    ∃ text cause, answer = .ok text ∧ Node.ofText text = .error cause
  have hread : Script.Quiet (Host.Refused record) Told (Script.request (.readFile record)) :=
    Script.quiet_request (by simp) fun _ h => ⟨h, h⟩
  refine Procedure.quiet_lift_bind hread fun answer htold => ?_
  obtain ⟨text, cause, rfl, hrefused⟩ := htold
  simp only [hrefused]
  exact Procedure.quiet_throw ⟨_, rfl⟩

/-- The rest of the program is not reached. -/
theorem quiet_perform (directory : Option String) {invocation : Invocation}
    (haction : invocation.action = .create record) :
    Procedure.Quiet (Host.Refused record) Failed (invocation.perform directory) := by
  unfold Invocation.perform
  rw [haction]
  refine (quiet_readSettings refused_kept _ _).bind (fun _ _ => ?_) fun cause _ => ⟨cause, rfl⟩
  refine (quiet_openLog refused_kept _ _).bind (fun _ _ => ?_) fun cause _ => ⟨cause, rfl⟩
  refine quiet_readRecord.bind (fun node hnode => ?_) fun cause _ => ⟨cause, rfl⟩
  obtain ⟨cause, hcause⟩ := hnode
  cases hcause

theorem run_create_of_refused (directory : Option String) {arguments : List String}
    {invocation : Invocation} (harguments : Invocation.ofArguments arguments = .ok invocation)
    (haction : invocation.action = .create record) {host : Host} (hrefused : host.Refused record) :
    ((program directory arguments).run host).commands = [] ∧
      ∃ failure, ((program directory arguments).run host).value = endingOf (.error failure) := by
  have hprogram : Script.Quiet (Host.Refused record)
      (fun ending => ∃ failure, ending = endingOf (.error failure))
      (program directory arguments) := by
    unfold program
    rw [harguments]
    refine Script.Quiet.bind (quiet_perform directory haction) fun result hresult => ?_
    obtain ⟨failure, rfl⟩ := hresult
    exact Script.quiet_done ⟨failure, rfl⟩
  obtain ⟨hcommands, -, hending⟩ := hprogram host hrefused
  exact ⟨hcommands, hending⟩

/-- A text is refused as a record if it is no JSON, if its value says no record, or if an entry asks
for more gigabytes than can be told, whatever else it says. Then the program fails and has not run a
command, with whatever manager and settings. A text that is accepted is said by its value; arcconf
is sent each size as its exact megabytes, and no size is out of range then. -/
theorem create_refused_or_exact (text : String) :
    ((Value.parse? text = none ∨ ∃ value, Value.parse? text = some value ∧
        ((∀ node : Node, ¬ node.SaidBy value) ∨ value.AsksTooMuch)) →
      ∃ cause, Node.ofText text = .error cause) ∧
    (∀ cause, Node.ofText text = .error cause →
      ∀ (directory : Option String) (arguments : List String) (invocation : Invocation)
        (record : String) (host : Host), Invocation.ofArguments arguments = .ok invocation →
        invocation.action = .create record → host.readText record = .ok text →
        ((program directory arguments).run host).commands = [] ∧
          ∃ failure, ((program directory arguments).run host).value = endingOf (.error failure)) ∧
    ∀ node, Node.ofText text = .ok node →
      (∃ value, Value.parse? text = some value ∧ node.SaidBy value) ∧
      ∀ (tools : ToolPaths) (host : Host), ∃ steps,
        (Manager.mk .arcconf tools).Creates node steps
          ((Manager.create ⟨.arcconf, tools⟩ node).exchanges host)
          ((Manager.create ⟨.arcconf, tools⟩ node).run host).value ∧
        (∀ step ∈ steps, Manager.TellsExactly tools step) ∧
        ∀ n, ((Manager.create ⟨.arcconf, tools⟩ node).run host).value ≠
          .error (.report (.sizeOutOfRange n)) := by
  refine ⟨fun hunsaid => ?_, fun cause hrefused => ?_, fun node haccepted => ?_⟩
  · cases h : Node.ofText text with
    | error cause => exact ⟨cause, rfl⟩
    | ok node =>
      obtain ⟨value, hvalue, hsaid⟩ := Node.saidBy_of_ofText h
      rcases hunsaid with hnone | ⟨other, hother, hunsaid⟩
      · simp [hvalue] at hnone
      · obtain rfl := Option.some.inj (hvalue.symm.trans hother)
        rcases hunsaid with hno | hmuch
        · exact absurd hsaid (hno node)
        · exact absurd hmuch hsaid.not_asksTooMuch
  · intro directory arguments invocation record host harguments haction hread
    exact run_create_of_refused directory harguments haction ⟨text, cause, hread, hrefused⟩
  · refine ⟨Node.saidBy_of_ofText haccepted, fun tools host => ?_⟩
    exact Manager.create_inRange tools (Node.inRange_of_ofText haccepted) host

/-- A record with two entries, of which only the first one has a size that can be told. -/
def overLimit : String :=
  "\x7b\"target_raid_config\": \x7b\"logical_disks\": [" ++
    "\x7b\"size_gb\": 18014398509481983, \"raid_level\": \"1\", \"controller\": 1, " ++
      "\"physical_disks\": [\"0 0\", \"0 1\"]\x7d, " ++
    "\x7b\"size_gb\": 18014398509481984\x7d]\x7d\x7d"

/-- The same record without its second entry. -/
def atLimit : String :=
  "\x7b\"target_raid_config\": \x7b\"logical_disks\": [" ++
    "\x7b\"size_gb\": 18014398509481983, \"raid_level\": \"1\", \"controller\": 1, " ++
      "\"physical_disks\": [\"0 0\", \"0 1\"]\x7d]\x7d\x7d"

/-- A machine with a file that a record was written to. -/
def holding (record : String) : Host where
  replies := []
  files := FileTree.write ⟨[(["node"], .file "" false)]⟩ ["node"] (octets record)
  directory := []
  now := default

theorem readText_holding (record : String) : (holding record).readText "node" = .ok record := by
  have hempty : FileTree.find ⟨[(["node"], .file "" false)]⟩ [] (octets "node") =
      .ok (["node"], .file "" false) := by decide +kernel
  have hentry : (holding record).entryAt "node" = .ok (["node"], .file (octets record) false) :=
    FileTree.find_write hempty (by simp) _
  rw [Host.readText_of_entryAt hentry, ofOctets?_octets]
  rfl

theorem create_refused_or_exact_limit :
    ((program none ["create", "node"]).run (holding overLimit)).commands = [] ∧
      ∃ node, Node.ofText atLimit = .ok node ∧ ∀ n,
        ((Manager.create ⟨.arcconf, .standard⟩ node).run (holding atLimit)).value ≠
          .error (.report (.sizeOutOfRange n)) := by
  constructor
  · have hrefused : (Node.ofText overLimit).toOption.isNone = true := by decide +kernel
    cases h : Node.ofText overLimit with
    | ok node => simp [h, Except.toOption] at hrefused
    | error cause =>
      have hall := (create_refused_or_exact overLimit).2.1 cause h none ["create", "node"]
        ⟨none, .auto, none, .create "node"⟩ "node" (holding overLimit) (by decide +kernel) rfl
        (readText_holding overLimit)
      exact hall.1
  · have haccepted : (Node.ofText atLimit).toOption.isSome = true := by decide +kernel
    cases h : Node.ofText atLimit with
    | error cause => simp [h, Except.toOption] at haccepted
    | ok node =>
      obtain ⟨-, hall⟩ := (create_refused_or_exact atLimit).2.2 node h
      obtain ⟨steps, -, -, hexact⟩ := hall .standard (holding atLimit)
      exact ⟨node, rfl, hexact⟩

end CommandLine
end RaidProvision

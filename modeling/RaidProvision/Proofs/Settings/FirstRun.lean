import RaidProvision.Proofs.FileTree.Replace
import RaidProvision.Settings.Source

/-!
# Settings that are already there

The standard settings are put where none can be read. A file that is there and does not hold
settings counts as none: it is replaced as well, whatever is wrong with it.

* `run_load_of_some`, `run_load_of_none`: what loading does to a host that has a file in the
  standard place.
* `load_keeps_file_iff`: the file is left as it is exactly if it holds settings.
* `load_replaces_file`: one bracket that is missing is enough to lose it.
-/
namespace RaidProvision

open RaidProvision.Text

/-- What stands where a path leads. -/
def Host.entryAt (host : Host) (path : String) : Except OsError (Way × Entry) :=
  host.files.find host.directory (octets path)

theorem Host.readText_of_entryAt {host : Host} {path content : String} {way : Way}
    {executable : Bool} (h : host.entryAt path = .ok (way, .file content executable)) :
    host.readText path = ((ofOctets? content).elim (.error .notText) .ok) := by
  simp only [Host.entryAt] at h
  simp only [Host.readText, FileTree.read, h, Entry.content]
  cases ofOctets? content <;> rfl

namespace Settings

/-- The settings that the content of a file holds, if it is text and can be read. -/
def inContent? (content : String) : Option Settings := (ofOctets? content).bind ofText

/-! ## The file that the program writes -/

theorem toList_standardFile :
    standardFile.toList = fileHeader.toList ++ (Toml.header "tools" ++ ToolPaths.standard.toToml ++
      '\n' :: Toml.header "inspection" ++ Inspection.standard.toToml ++ '\n' :: Toml.header "log" ++
      Logging.standard.toToml) := by
  rw [standardFile, String.toList_append, toText, String.toList_ofList]
  rfl

theorem ofText_standardFile : ofText standardFile = some standard := by
  rw [ofText, Toml.readDocument, Toml.statements?, toList_standardFile]
  decide +kernel

theorem inContent?_standardFile : inContent? (octets standardFile) = some standard := by
  rw [inContent?, ofOctets?_octets, Option.bind_some, ofText_standardFile]

/-! ## Loading -/

variable {host : Host} {path content : String} {way : Way} {executable : Bool}

theorem run_load_of_some (h : host.entryAt path = .ok (way, .file content executable))
    {settings : Settings} (hs : inContent? content = some settings) :
    (load (some path)).run host = ⟨settings, [.readFile path], host⟩ := by
  obtain ⟨text, ht, hs⟩ := Option.bind_eq_some_iff.1 hs
  have hread := Host.readText_of_entryAt h
  rw [ht] at hread
  exact run_fromPlace hread hs

theorem run_load_of_none (h : host.entryAt path = .ok (way, .file content executable))
    (hs : inContent? content = none) :
    (load (some path)).run host = ⟨standard, [.readFile path, .replaceFile path standardFile],
      { host with files := host.files.write way (octets standardFile) }⟩ := by
  have hread := Host.readText_of_entryAt h
  have hreplace := FileTree.replace_of_find h (by simp) (octets standardFile)
  cases ht : ofOctets? content with
  | none =>
    rw [ht] at hread
    simp [load, fromPlace, fromFile, Script.bind, Script.run, Host.answer, hread, hreplace,
      Host.withFiles]
  | some text =>
    rw [ht] at hread
    have hs : ofText text = none := by simpa [inContent?, ht] using hs
    simp [load, fromPlace, fromFile, Script.bind, Script.run, Host.answer, hread, hs, hreplace,
      Host.withFiles]

/-- What is where the settings were loaded from. -/
theorem entryAt_load (h : host.entryAt path = .ok (way, .file content executable)) :
    ((load (some path)).run host).host.entryAt path =
      .ok (way, .file (if (inContent? content).isSome then content else octets standardFile)
        executable) := by
  cases hs : inContent? content with
  | some settings => rw [run_load_of_some h hs, h]; rfl
  | none =>
    rw [run_load_of_none h hs]
    exact FileTree.find_write h (by simp) _

/-- If there is a file where settings are loaded from, loading leaves it as it is exactly if it
holds settings. Otherwise, whether it is no text, no document or a document with a setting of the
wrong kind, the standard settings take its place. Nothing else changes. -/
theorem load_keeps_file_iff (h : host.entryAt path = .ok (way, .file content executable)) :
    (((load (some path)).run host).host.entryAt path = .ok (way, .file content executable) ↔
      (inContent? content).isSome) ∧
    (inContent? content = none →
      ((load (some path)).run host).host.entryAt path =
        .ok (way, .file (octets standardFile) executable)) ∧
    ∀ other, other ≠ way →
      ((load (some path)).run host).host.files.lookup? other = host.files.lookup? other := by
  refine ⟨⟨fun hkept => ?_, fun hs => ?_⟩, fun hs => ?_, fun other hother => ?_⟩
  · cases hs : inContent? content with
    | some settings => rfl
    | none =>
      rw [entryAt_load h, hs] at hkept
      simp only [Option.isSome_none, Bool.false_eq_true, if_false, Except.ok.injEq, Prod.mk.injEq,
        Entry.file.injEq, true_and, and_true] at hkept
      rw [← hkept, inContent?_standardFile] at hs
      exact absurd hs (by simp)
  · rw [entryAt_load h, if_pos hs]
  · rw [entryAt_load h, hs]
    rfl
  · cases hs : inContent? content with
    | some settings => rw [run_load_of_some h hs]
    | none =>
      rw [run_load_of_none h hs]
      by_cases hroot : other = []
      · simp [FileTree.lookup?, hroot]
      · simp only [FileTree.write, FileTree.lookup?_set _ _ _ _ hroot, if_neg hother]

/-- A host whose settings miss a bracket. -/
def missingBracket : Host where
  replies := []
  files := ⟨[(["conf"], .directory), (["conf", "raidmgr"], .directory),
    (["conf", "raidmgr", "raidmgr.toml"], .file "[tools\n" false)]⟩
  directory := []
  now := default

theorem entryAt_missingBracket :
    missingBracket.entryAt (standardPlace "conf") =
      .ok (["conf", "raidmgr", "raidmgr.toml"], .file "[tools\n" false) := by
  have hfound : (missingBracket.entryAt (standardPlace "conf")).toOption =
      some (["conf", "raidmgr", "raidmgr.toml"], .file "[tools\n" false) := by
    decide +kernel
  cases h : missingBracket.entryAt (standardPlace "conf") with
  | error cause => simp [h, Except.toOption] at hfound
  | ok found => simpa [h, Except.toOption] using hfound

theorem inContent?_missingBracket : inContent? "[tools\n" = none := by
  decide +kernel

theorem load_keeps_file_iff_missingBracket :
    missingBracket.entryAt (standardPlace "conf") =
      .ok (["conf", "raidmgr", "raidmgr.toml"], .file "[tools\n" false) ∧
    ((load (some (standardPlace "conf"))).run missingBracket).host.entryAt (standardPlace "conf") ≠
      .ok (["conf", "raidmgr", "raidmgr.toml"], .file "[tools\n" false) ∧
    ((load (some (standardPlace "conf"))).run missingBracket).host.entryAt (standardPlace "conf") =
      .ok (["conf", "raidmgr", "raidmgr.toml"], .file (octets standardFile) false) := by
  obtain ⟨hkept, hreplaced, _⟩ := load_keeps_file_iff entryAt_missingBracket
  rw [inContent?_missingBracket] at hkept
  exact ⟨entryAt_missingBracket, fun h => absurd (hkept.1 h) (by simp),
    hreplaced inContent?_missingBracket⟩

/-- Not every file that is there is left as it is. -/
theorem load_replaces_file :
    ¬ ∀ (host : Host) (path content : String) (way : Way) (executable : Bool),
      host.entryAt path = .ok (way, .file content executable) →
      ((load (some path)).run host).host.entryAt path = .ok (way, .file content executable) := by
  intro hkept
  have hfile := hkept _ _ _ _ _ entryAt_missingBracket
  rw [entryAt_load entryAt_missingBracket, inContent?_missingBracket] at hfile
  simp only [Option.isSome_none, Bool.false_eq_true, if_false, Except.ok.injEq, Prod.mk.injEq,
    Entry.file.injEq, true_and, and_true] at hfile
  have hs := inContent?_standardFile
  rw [hfile, inContent?_missingBracket] at hs
  exact absurd hs (by simp)

end Settings
end RaidProvision

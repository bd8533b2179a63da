import RaidProvision.Proofs.MegaCli.Listing
import RaidProvision.Proofs.Report.KeyValue

/-!
# Damaged drive lists

The five labels of a drive differ, so a line fits at one place of the five only. What can be read
goes round these places line by line (`place?`), and the lines behind a damage tell at which place
they start. A list that lost a line of a drive, holds one twice or has two of them exchanged would
have to be at two places at once.

* `drivesFrom_lines`: how the lines of a report end does not count.
* `place?_of_drivesFrom`: what can be read ends where a drive ends.
* `due_unique`, `start_unique`: a line, and what follows a place, tell the place.
* `damaged_refused`: a damaged list cannot be read.
-/
namespace RaidProvision.MegaCli

open RaidProvision.Text RaidProvision.Report

/-! ## Damage -/

/-- A line about a drive: it is not blank and names no adapter. -/
structure IsDriveLine (line : String) : Prop where
  not_blank : isBlankText line = false
  unmarked : ¬ adapterMark.toList <:+: line.toList

/-- What can happen to the lines of a report: a line of a drive is lost, stands twice, or changes
places with the next one, where blank lines do not count. -/
inductive Damaged : List String → List String → Prop where
  | lost {line : String} (front back : List String) (h : IsDriveLine line) :
    Damaged (front ++ line :: back) (front ++ back)
  | twice {line : String} (front back : List String) (h : IsDriveLine line) :
    Damaged (front ++ line :: back) (front ++ line :: line :: back)
  | exchanged {line other : String} (front between back : List String) (h : IsDriveLine line)
    (hother : IsDriveLine other) (hbetween : ∀ l ∈ between, isBlankText l) :
    Damaged (front ++ line :: (between ++ other :: back))
      (front ++ other :: (between ++ line :: back))

/-! ## Ends of lines -/

theorem push_eq_keyValue (record : Record) (line : String) :
    record.push line =
      match record.labels[record.values.length]? with
      | none => .error (.extraLine (trim line))
      | some label =>
        match keyValue ":" line with
        | none => .error (.notLabelled label (trim line))
        | some (found, value) =>
          if sameFold found label then .ok { record with values := record.values ++ [value] }
          else .error (.wrongLabel label record.values.length found) := by
  simp only [Record.push, keyValue]
  cases record.labels[record.values.length]? with
  | none => rfl
  | some label => cases splitFirst ":" line <;> simp only [Option.map_none, Option.map_some]

theorem push_dropReturn (record : Record) (cs : List Char) :
    record.push (String.ofList (dropReturn cs)) = record.push (String.ofList cs) := by
  rw [push_eq_keyValue, push_eq_keyValue, trim_dropReturn, keyValue_dropReturn (by decide)]

theorem adapterOf_eq_keyValue (line : String) :
    adapterOf line =
      match keyValue "#" line with
      | some (_, id) => .ok (String.ofList (dropTrailing (· == ':') id.toList))
      | none => .error (.adapterWithoutNumber (trim line)) := by
  unfold adapterOf keyValue
  cases splitFirst "#" line <;> rfl

theorem adapterOf_dropReturn (cs : List Char) :
    adapterOf (String.ofList (dropReturn cs)) = adapterOf (String.ofList cs) := by
  rw [adapterOf_eq_keyValue, adapterOf_eq_keyValue, trim_dropReturn,
    keyValue_dropReturn (by decide)]

/-- How the lines of a report end does not count. -/
theorem drivesFrom_lines (adapter : Option String) (record : Record) (report : String) :
    drivesFrom adapter record (Text.lines report) =
      drivesFrom adapter record (pieces '\n' report) := by
  rw [Text.lines, pieces]
  induction report.toList.splitOn '\n' using linesOfPieces.induct generalizing adapter record with
  | case1 => rfl
  | case2 last hempty =>
    rw [linesOfPieces, if_pos hempty, List.isEmpty_iff.1 hempty]
    exact (drivesFrom_blank adapter record [] rfl).symm
  | case3 last hempty => rw [linesOfPieces, if_neg hempty]
  | case4 piece rest hne ih =>
    have hmark : '\r' ∉ adapterMark.toList := by decide
    rw [linesOfPieces_cons piece hne]
    simp only [List.map_cons, drivesFrom, isBlankText_dropReturn, contains_dropReturn hmark,
      adapterOf_dropReturn, push_dropReturn, trim_dropReturn, ih]

/-- A report that is put together from lines is read line by line. -/
theorem drives_intercalate {ls : List String} (h : ∀ line ∈ ls, '\n' ∉ line.toList) :
    drives ("\n".intercalate ls) = drivesFrom none (.new driveLabels) ls := by
  rw [drives, drivesFrom_lines]
  cases ls with
  | nil => rfl
  | cons line rest => rw [pieces_intercalate (List.cons_ne_nil line rest) h]

/-! ## Places -/

/-- The line has the label of a place. -/
def HasLabel (place : Nat) (line : String) : Prop :=
  ∃ label, driveLabels[place]? = some label ∧ sameFold (trim (before ':' line)) label

instance (place : Nat) (line : String) : Decidable (HasLabel place line) :=
  match h : driveLabels[place]? with
  | none => isFalse (by simp [HasLabel, h])
  | some label => decidable_of_iff (sameFold (trim (before ':' line)) label) (by simp [HasLabel, h])

/-- The place after a line, if the line fits at a place. -/
def due (place : Nat) (line : String) : Option Nat :=
  if isBlankText line then some place
  else if contains adapterMark line then if place = 0 then some 0 else none
  else if HasLabel place line then some ((place + 1) % 5) else none

/-- The place after some lines. -/
def place? (place : Nat) (ls : List String) : Option Nat := ls.foldlM due place

theorem place?_append (place : Nat) (front back : List String) :
    place? place (front ++ back) = (place? place front).bind (place? · back) := by
  rw [place?, List.foldlM_append]
  rfl

theorem place?_cons (place : Nat) (line : String) (rest : List String) :
    place? place (line :: rest) = (due place line).bind (place? · rest) := rfl

theorem place?_blank {between : List String} (h : ∀ l ∈ between, isBlankText l) (place : Nat) :
    place? place between = some place := by
  induction between with
  | nil => rfl
  | cons line rest ih =>
    have hline : due place line = some place := by rw [due, if_pos (h line List.mem_cons_self)]
    rw [place?_cons, hline]
    exact ih fun l hl => h l (List.mem_cons_of_mem _ hl)

/-- A line of a drive fits if it has the label of the place. -/
theorem due_eq_some_iff {place next : Nat} {line : String} (h : IsDriveLine line) :
    due place line = some next ↔ HasLabel place line ∧ next = (place + 1) % 5 := by
  have hmark : contains adapterMark line = false :=
    Bool.eq_false_iff.2 fun hc => h.unmarked (contains_iff.1 hc)
  rw [due, h.not_blank, hmark]
  by_cases hlabel : HasLabel place line <;> simp [hlabel, eq_comm]

/-- What can be read after the first lines of a drive ends where a drive ends. -/
theorem place?_of_drivesFrom {adapter : Option String} {begun ls : List String}
    {found : List DriveSummary} (hbegun : begun.length < 5)
    (h : drivesFrom adapter (partOf begun) ls = .ok found) :
    place? begun.length ls = some 0 := by
  induction ls generalizing adapter begun found with
  | nil =>
    cases begun with
    | nil => rfl
    | cons first others => cases h
  | cons line rest ih =>
    rw [place?_cons]
    by_cases hblank : isBlankText line = true
    · rw [drivesFrom_blank adapter _ rest hblank] at h
      rw [due, if_pos hblank]
      exact ih hbegun h
    by_cases hmark : contains adapterMark line = true
    · rw [due, if_neg hblank, if_pos hmark]
      rw [drivesFrom, if_neg hblank, if_pos hmark] at h
      cases begun with
      | cons first others => cases h
      | nil =>
        cases hid : adapterOf line with
        | error e => simp [partOf, Record.isEmpty, hid, bind, Except.bind] at h
        | ok id =>
          have hrest : drivesFrom (some id) (partOf []) rest = .ok found := by
            simpa [partOf, Record.isEmpty, hid, bind, Except.bind] using h
          exact ih (by simp) hrest
    have hline : IsDriveLine line := ⟨by simpa using hblank, mt contains_iff.2 hmark⟩
    obtain ⟨label, hl, hlabel⟩ := labelled_of_drivesFrom hline.not_blank
      (by simpa using hmark) h
    have hdue : due begun.length line = some ((begun.length + 1) % 5) :=
      (due_eq_some_iff hline).2 ⟨⟨label, hl, hlabel.label_eq⟩, rfl⟩
    rw [hdue, Option.bind_some]
    by_cases hfull : begun.length = 4
    · rw [drivesFrom_full hl hlabel hfull] at h
      rw [hfull]
      cases adapter with
      | none => cases h
      | some id =>
        cases hd : summaryOf id (partOf (begun ++ [line])) with
        | error e => simp [hd, bind, Except.bind] at h
        | ok d =>
          cases hothers : drivesFrom (some id) (.new driveLabels) rest with
          | error e => simp [hd, hothers, bind, Except.bind] at h
          | ok others => exact @ih (some id) [] others (by simp) hothers
    · rw [drivesFrom_begun hl hlabel hfull] at h
      have hnext : (begun ++ [line]).length < 5 := by
        rw [List.length_append, List.length_singleton]
        omega
      have hplace := ih hnext h
      rwa [List.length_append, List.length_singleton, ← Nat.mod_eq_of_lt (a := begun.length + 1)]
        at hplace
      omega

theorem place_lt {place : Nat} {line : String} (h : HasLabel place line) : place < 5 := by
  obtain ⟨label, hl, -⟩ := h
  exact (List.getElem?_eq_some_iff.1 hl).1

/-- No two labels of a drive are the same in another letter case. -/
theorem nodup_foldedLabels : (driveLabels.map fun s => s.toList.map Char.toLower).Nodup := by
  decide

/-- A line has the label of one place. -/
theorem HasLabel.unique {m n : Nat} {line : String} (hm : HasLabel m line)
    (hn : HasLabel n line) : m = n := by
  have hlt : m < (driveLabels.map fun s => s.toList.map Char.toLower).length := place_lt hm
  obtain ⟨label, hl, hlabel⟩ := hm
  obtain ⟨other, ho, hother⟩ := hn
  simp only [sameFold, beq_iff_eq] at hlabel hother
  rw [← List.getElem?_inj hlt nodup_foldedLabels, List.getElem?_map, List.getElem?_map, hl, ho,
    Option.map_some, Option.map_some, ← hlabel, ← hother]

/-- Lines that end where a drive ends start at one place. -/
theorem start_unique {m n : Nat} {ls : List String} (hm : place? m ls = some 0)
    (hn : place? n ls = some 0) : m = n := by
  induction ls with
  | nil =>
    obtain rfl : m = 0 := Option.some.inj hm
    obtain rfl : n = 0 := Option.some.inj hn
    rfl
  | cons line rest ih =>
    rw [place?_cons, Option.bind_eq_some_iff] at hm hn
    obtain ⟨m', hm, hm'⟩ := hm
    obtain ⟨n', hn, hn'⟩ := hn
    by_cases hblank : isBlankText line = true
    · rw [due, if_pos hblank, Option.some.injEq] at hm hn
      subst hm hn
      exact ih hm' hn'
    by_cases hmark : contains adapterMark line = true
    · rw [due, if_neg hblank, if_pos hmark] at hm hn
      grind
    · have hline : IsDriveLine line := ⟨by simpa using hblank, mt contains_iff.2 hmark⟩
      exact ((due_eq_some_iff hline).1 hm).1.unique ((due_eq_some_iff hline).1 hn).1

/-! ## Damaged lists -/

/-- What is read up to a line of a drive, this line, and what follows. -/
theorem exists_place {start : Nat} {front back : List String} {line : String}
    (hline : IsDriveLine line) (h : place? start (front ++ line :: back) = some 0) :
    ∃ place, place? start front = some place ∧ HasLabel place line ∧
      place? ((place + 1) % 5) back = some 0 := by
  rw [place?_append, Option.bind_eq_some_iff] at h
  obtain ⟨place, hfront, h⟩ := h
  rw [place?_cons, Option.bind_eq_some_iff] at h
  obtain ⟨next, hnext, hback⟩ := h
  obtain ⟨hlabel, rfl⟩ := (due_eq_some_iff hline).1 hnext
  exact ⟨place, hfront, hlabel, hback⟩

/-- A line does not have the labels of two places, one behind the other. -/
theorem HasLabel.not_next {place : Nat} {line : String} (h : HasLabel place line) :
    ¬ HasLabel ((place + 1) % 5) line := by
  intro hnext
  have hplace := place_lt h
  have hsame := h.unique hnext
  omega

/-- Lines that end where a drive ends do not do so any more when they are damaged. -/
theorem Damaged.place?_ne {ls other : List String} (h : Damaged ls other)
    (hls : place? 0 ls = some 0) : place? 0 other ≠ some 0 := by
  intro hother
  cases h with
  | lost front back hline =>
    -- What is behind the line starts at the next place, and now at this one.
    obtain ⟨place, hfront, hlabel, hback⟩ := exists_place hline hls
    rw [place?_append, hfront, Option.bind_some] at hother
    have hplace := place_lt hlabel
    have hsame := start_unique hother hback
    omega
  | @twice line front back hline =>
    obtain ⟨place, hfront, hlabel, -⟩ := exists_place hline hls
    obtain ⟨again, hagain, -, hrest⟩ := exists_place hline hother
    rw [hfront, Option.some.injEq] at hagain
    subst hagain
    have hagain : place? ((place + 1) % 5) ([] ++ line :: back) = some 0 := hrest
    obtain ⟨next, hnext, hlabel', -⟩ := exists_place hline hagain
    obtain rfl : (place + 1) % 5 = next := Option.some.inj hnext
    exact hlabel.not_next hlabel'
  | exchanged front between back hline hnext hbetween =>
    -- The second line comes at the next place, and now at this one.
    obtain ⟨place, hfront, -, hrest⟩ := exists_place hline hls
    obtain ⟨next, hplace, hlabel, -⟩ := exists_place hnext hrest
    rw [place?_blank hbetween, Option.some.injEq] at hplace
    obtain ⟨again, hagain, hlabel', -⟩ := exists_place hnext hother
    rw [hfront, Option.some.injEq] at hagain
    subst hagain hplace
    exact hlabel'.not_next hlabel

theorem Damaged.subset {ls other : List String} (h : Damaged ls other) : other ⊆ ls := by
  cases h <;> intro l hl <;> simp at hl ⊢ <;> grind

/-- A report that can be read cannot be read any more when it is damaged: when a line of a drive is
lost, stands twice or has changed places with the next one. -/
theorem damaged_refused {report : String} {found : List DriveSummary}
    (h : drives report = .ok found) {other : List String}
    (hdamaged : Damaged (pieces '\n' report) other) :
    ∃ cause, drives ("\n".intercalate other) = .error cause := by
  have hlines : ∀ line ∈ other, '\n' ∉ line.toList := fun line hline =>
    not_mem_of_mem_pieces (hdamaged.subset hline)
  rw [drives_intercalate hlines]
  rw [drives, drivesFrom_lines] at h
  have hends {ls : List String} {read : List DriveSummary}
      (hread : drivesFrom none (partOf []) ls = .ok read) : place? 0 ls = some 0 :=
    place?_of_drivesFrom (by simp) hread
  have hplace := hends h
  cases hother : drivesFrom none (.new driveLabels) other with
  | error cause => exact ⟨cause, rfl⟩
  | ok read => exact absurd (hends hother) (hdamaged.place?_ne hplace)

/-- The report of one drive, with a blank line in it. -/
def oneDrive : String :=
  "\n".intercalate ["Adapter #0", "Enclosure Device ID: 8", "", "Slot Number: 3", "PD Type: SATA",
    "Raw Size: 2 GB", "Inquiry Data: ST1500"]

/-- The same report with its first two lines of a drive exchanged. -/
def oneDriveExchanged : String :=
  "\n".intercalate ["Adapter #0", "Slot Number: 3", "", "Enclosure Device ID: 8", "PD Type: SATA",
    "Raw Size: 2 GB", "Inquiry Data: ST1500"]

theorem damaged_refused_oneDrive :
    (∃ found, drives oneDrive = .ok found) ∧ ∃ cause, drives oneDriveExchanged = .error cause := by
  have hok : (drives oneDrive).toOption.isSome = true := by decide +kernel
  cases h : drives oneDrive with
  | error cause => simp [h, Except.toOption] at hok
  | ok found =>
    have henclosure : IsDriveLine "Enclosure Device ID: 8" :=
      ⟨by decide, mt contains_iff.2 (by decide)⟩
    have hslot : IsDriveLine "Slot Number: 3" := ⟨by decide, mt contains_iff.2 (by decide)⟩
    have hpieces : pieces '\n' oneDrive =
        ["Adapter #0"] ++ "Enclosure Device ID: 8" :: ([""] ++ "Slot Number: 3" ::
          ["PD Type: SATA", "Raw Size: 2 GB", "Inquiry Data: ST1500"]) :=
      pieces_intercalate (by simp) (by decide)
    refine ⟨⟨found, rfl⟩, damaged_refused h ?_⟩
    rw [hpieces]
    exact .exchanged ["Adapter #0"] [""] _ henclosure hslot (by decide)

end RaidProvision.MegaCli

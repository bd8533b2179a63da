import Mathlib.Data.List.Forall2
import RaidProvision.MegaCli.Drives
import RaidProvision.Proofs.Text.Cut

/-!
# The grammar of the drive list of MegaCLI

Without its blank lines a list is sections. A section is a banner and the drives of its adapter, and
a drive is five lines, each with its own label. What is said about a drive is read from its own five
lines and the banner of its own section.

* `drivesFrom_drive`: the five lines of a drive are read at once.
* `exists_drive`: a list that can be read goes on with a whole drive once one was begun.
* `drivesFrom_eq_ok_iff`: what can be read after a banner, line by line.
* `drives_eq_ok_iff_listing`: what can be read and what is read from it.
-/
namespace RaidProvision.MegaCli

open RaidProvision.Text RaidProvision.Report

/-! ## The grammar -/

/-- A line that names an adapter: it holds the mark and a number sign. -/
def IsBanner (line : String) : Prop :=
  adapterMark.toList <:+: line.toList ∧ '#' ∈ line.toList

/-- The id that a banner gives: what is after the first number sign, without blanks around it and
then without colons behind it. -/
def bannerId (line : String) : String :=
  String.ofList (dropTrailing (· == ':') (strip (after '#' line).toList))

/-- A line with a label, in any letter case, before its first colon. It is no banner. -/
structure Labelled (label line : String) : Prop where
  unmarked : ¬ adapterMark.toList <:+: line.toList
  colon : ':' ∈ line.toList
  label_eq : sameFold (trim (before ':' line)) label

/-- What a line says after its first colon. -/
def valueOf (line : String) : String := trim (after ':' line)

/-- The lines about one drive, in order. -/
structure DriveLines where
  enclosure : String
  slot : String
  kind : String
  size : String
  model : String

namespace DriveLines

def all (g : DriveLines) : List String := [g.enclosure, g.slot, g.kind, g.size, g.model]

/-- Each line has its label. -/
structure WellFormed (g : DriveLines) : Prop where
  enclosure : Labelled "Enclosure Device ID" g.enclosure
  slot : Labelled "Slot Number" g.slot
  kind : Labelled "PD Type" g.kind
  size : Labelled "Raw Size" g.size
  model : Labelled "Inquiry Data" g.model

/-- The size before the bracket with the sectors. -/
def rawSize (g : DriveLines) : Except ReportError Size :=
  Size.ofText (trim (before '[' (valueOf g.size)))

/-- The model is one of those that are flash. -/
def IsFlash (g : DriveLines) : Prop :=
  "SSD".toList <:+: (valueOf g.model).toList ∨ "Micron_5200".toList <:+: (valueOf g.model).toList

end DriveLines

/-- A drive is what the lines about it and the id of its controller say. -/
structure Describes (source : String × DriveLines) (d : DriveSummary) : Prop where
  id_eq : d.id = valueOf source.2.enclosure ++ ":" ++ valueOf source.2.slot
  controller_eq : d.controller = source.1
  medium_of_flash : source.2.IsFlash → d.medium = "SSD"
  medium_of_not_flash : ¬ source.2.IsFlash → d.medium = valueOf source.2.kind
  size_eq : ∃ size, source.2.rawSize = .ok size ∧ d.size = size.normalize.toText

/-- A banner and the drives of its adapter. -/
structure Section where
  banner : String
  drives : List DriveLines

namespace Section

def all (s : Section) : List String := s.banner :: s.drives.flatMap DriveLines.all

structure WellFormed (s : Section) : Prop where
  banner : IsBanner s.banner
  drives : ∀ g ∈ s.drives, g.WellFormed ∧ ∃ size, g.rawSize = .ok size

/-- The drives with the id of their controller. -/
def sources (s : Section) : List (String × DriveLines) := s.drives.map (bannerId s.banner, ·)

end Section

/-- The lines of a report, without blank ones, are those of some sections. -/
def IsListing (report : String) (sections : List Section) : Prop :=
  (lines report).filter (!isBlankText ·) = sections.flatMap Section.all ∧
    ∀ s ∈ sections, s.WellFormed

/-! ## One line -/

theorem adapterOf_eq_ok_iff {line id : String} :
    adapterOf line = .ok id ↔ '#' ∈ line.toList ∧ id = bannerId line := by
  have hcut (first second : String) := @splitFirst_eq_some_iff "#" line first second '#' rfl
  unfold adapterOf
  constructor
  · intro h
    split at h
    · rename_i first second hs
      obtain ⟨hmem, -, rfl⟩ := (hcut _ _).1 hs
      simp only [Except.ok.injEq, toList_trim] at h
      exact ⟨hmem, h.symm⟩
    · cases h
  · rintro ⟨hmem, rfl⟩
    rw [(hcut _ _).2 ⟨hmem, rfl, rfl⟩]
    simp [bannerId]

/-- The record after some lines of a drive. -/
def partOf (begun : List String) : Record := ⟨driveLabels, begun.map valueOf⟩

theorem push_partOf_eq_ok_iff {begun : List String} {line : String} {next : Record} :
    (partOf begun).push line = .ok next ↔
      ∃ label, driveLabels[begun.length]? = some label ∧ ':' ∈ line.toList ∧
        sameFold (trim (before ':' line)) label ∧ next = partOf (begun ++ [line]) := by
  have hcut (first second : String) := @splitFirst_eq_some_iff ":" line first second ':' rfl
  rw [Record.push_eq_ok]
  simp only [partOf, List.length_map, List.map_append, List.map_cons, List.map_nil]
  constructor
  · rintro ⟨label, first, second, hl, hs, hf, rfl⟩
    obtain ⟨hmem, rfl, rfl⟩ := (hcut _ _).1 hs
    exact ⟨label, hl, hmem, hf, rfl⟩
  · rintro ⟨label, hl, hmem, hf, rfl⟩
    exact ⟨label, _, _, hl, (hcut _ _).2 ⟨hmem, rfl, rfl⟩, hf, rfl⟩

theorem isComplete_partOf (begun : List String) :
    (partOf begun).isComplete = (begun.length == 5) := by
  simp [partOf, Record.isComplete, driveLabels]

theorem isBlankText_of_mem {line : String} {c : Char} (hmem : c ∈ line.toList)
    (hc : isBlank c = false) : isBlankText line = false := by
  rw [isBlankText, List.all_eq_false]
  exact ⟨c, hmem, by simp [hc]⟩

namespace Labelled

variable {label line : String}

theorem not_blank (h : Labelled label line) : isBlankText line = false :=
  isBlankText_of_mem h.colon (by decide)

theorem not_contains (h : Labelled label line) : contains adapterMark line = false :=
  Bool.eq_false_iff.2 fun hc => h.unmarked (contains_iff.1 hc)

end Labelled

theorem IsBanner.not_blank {line : String} (h : IsBanner line) : isBlankText line = false :=
  isBlankText_of_mem h.2 (by decide)

/-! ## One drive -/

section
variable {adapter : Option String} {begun rest : List String} {line label : String}
  {found : List DriveSummary}

/-- A labelled line that does not fill the record. -/
theorem drivesFrom_begun (hl : driveLabels[begun.length]? = some label)
    (h : Labelled label line) (hpart : begun.length ≠ 4) :
    drivesFrom adapter (partOf begun) (line :: rest) =
      drivesFrom adapter (partOf (begun ++ [line])) rest := by
  have hpush := push_partOf_eq_ok_iff.2 ⟨label, hl, h.colon, h.label_eq, rfl⟩
  rw [drivesFrom, h.not_blank, h.not_contains, hpush]
  simp [isComplete_partOf, hpart, bind, Except.bind]

/-- A labelled line that fills the record. -/
theorem drivesFrom_full (hl : driveLabels[begun.length]? = some label)
    (h : Labelled label line) (hfull : begun.length = 4) :
    drivesFrom adapter (partOf begun) (line :: rest) =
      match adapter with
      | none => throw .driveBeforeAdapter
      | some id => do
        let drive ← summaryOf id (partOf (begun ++ [line]))
        let drives ← drivesFrom adapter (.new driveLabels) rest
        return drive :: drives := by
  have hpush := push_partOf_eq_ok_iff.2 ⟨label, hl, h.colon, h.label_eq, rfl⟩
  rw [drivesFrom, h.not_blank, h.not_contains, hpush]
  cases adapter <;> simp [isComplete_partOf, hfull, bind, Except.bind]

/-- The lines of a drive are read at once. -/
theorem drivesFrom_drive {g : DriveLines} (hg : g.WellFormed) :
    drivesFrom adapter (.new driveLabels) (g.all ++ rest) =
      match adapter with
      | none => throw .driveBeforeAdapter
      | some id => do
        let drive ← summaryOf id (partOf g.all)
        let drives ← drivesFrom adapter (.new driveLabels) rest
        return drive :: drives := by
  calc drivesFrom adapter (partOf []) (g.all ++ rest)
      = drivesFrom adapter (partOf [g.enclosure]) (g.slot :: g.kind :: g.size :: g.model :: rest) :=
        drivesFrom_begun rfl hg.enclosure (by simp)
    _ = drivesFrom adapter (partOf [g.enclosure, g.slot]) (g.kind :: g.size :: g.model :: rest) :=
        drivesFrom_begun rfl hg.slot (by simp)
    _ = drivesFrom adapter (partOf [g.enclosure, g.slot, g.kind]) (g.size :: g.model :: rest) :=
        drivesFrom_begun rfl hg.kind (by simp)
    _ = drivesFrom adapter (partOf [g.enclosure, g.slot, g.kind, g.size]) (g.model :: rest) :=
        drivesFrom_begun rfl hg.size (by simp)
    _ = _ := drivesFrom_full rfl hg.model rfl

theorem summaryOf_partOf (id : String) (g : DriveLines) :
    summaryOf id (partOf g.all) = g.rawSize.map fun size =>
      { id := valueOf g.enclosure ++ ":" ++ valueOf g.slot
        controller := id
        medium := if flashModels.any (contains · (valueOf g.model)) then "SSD" else valueOf g.kind
        size := size.normalize.toText } := by
  have henclosure : (partOf g.all).get "Enclosure Device ID" = .ok (valueOf g.enclosure) := rfl
  have hslot : (partOf g.all).get "Slot Number" = .ok (valueOf g.slot) := rfl
  have hkind : (partOf g.all).get "PD Type" = .ok (valueOf g.kind) := rfl
  have hsize : (partOf g.all).get "Raw Size" = .ok (valueOf g.size) := rfl
  have hmodel : (partOf g.all).get "Inquiry Data" = .ok (valueOf g.model) := rfl
  simp only [summaryOf, henclosure, hslot, hkind, hsize, hmodel, Size.normalizeText,
    DriveLines.rawSize]
  cases hs : Size.ofText (trim (before '[' (valueOf g.size))) <;>
    simp only [hs, Except.map, bind, Except.bind, pure, Except.pure]

theorem DriveLines.isFlash_iff (g : DriveLines) :
    flashModels.any (contains · (valueOf g.model)) ↔ g.IsFlash := by
  simp [flashModels, contains_iff, DriveLines.IsFlash]

theorem summaryOf_eq_ok_iff {id : String} {g : DriveLines} {d : DriveSummary} :
    summaryOf id (partOf g.all) = .ok d ↔ Describes (id, g) d := by
  have hflash := g.isFlash_iff
  rw [summaryOf_partOf]
  constructor
  · intro h
    cases hs : g.rawSize with
    | error e =>
      rw [hs] at h
      cases h
    | ok size =>
      rw [hs, Except.map, Except.ok.injEq] at h
      subst h
      constructor
      · simp only
      · simp only
      · intro hf
        simp only [hflash.2 hf, if_true]
      · intro hf
        simp only [mt hflash.1 hf, Bool.false_eq_true, if_false]
      · exact ⟨size, hs, by simp only⟩
  · intro h
    obtain ⟨size, hs, hsize⟩ := h.size_eq
    obtain ⟨id', controller, medium, size'⟩ := d
    have hid := h.id_eq
    have hcontroller := h.controller_eq
    have hmedium := h.medium_of_flash
    have hmedium' := h.medium_of_not_flash
    simp only at hid hcontroller hmedium hmedium' hsize hs
    subst hid hcontroller hsize
    rw [hs, Except.map]
    by_cases hf : g.IsFlash
    · rw [if_pos (hflash.2 hf), hmedium hf]
    · rw [if_neg (mt hflash.1 hf), hmedium' hf]

/-! ## From lines to drives -/

/-- A line that is read as one of a drive has the label that is due. -/
theorem labelled_of_drivesFrom (hblank : isBlankText line = false)
    (hmark : contains adapterMark line = false)
    (h : drivesFrom adapter (partOf begun) (line :: rest) = .ok found) :
    ∃ label, driveLabels[begun.length]? = some label ∧ Labelled label line := by
  rw [drivesFrom, hblank, hmark] at h
  simp only [Bool.false_eq_true, if_false] at h
  cases hpush : (partOf begun).push line with
  | error e =>
    rw [hpush] at h
    cases h
  | ok next =>
    obtain ⟨label, hl, hcolon, hlabel, -⟩ := push_partOf_eq_ok_iff.1 hpush
    refine ⟨label, hl, ?_, hcolon, hlabel⟩
    rw [← contains_iff, hmark]
    exact Bool.false_ne_true

/-- The first lines of a drive. -/
def Begun (begun : List String) : Prop :=
  List.Forall₂ Labelled (driveLabels.take begun.length) begun

theorem begun_nil : Begun [] := .nil

theorem Begun.snoc (h : Begun begun) (hl : driveLabels[begun.length]? = some label)
    (hline : Labelled label line) : Begun (begun ++ [line]) := by
  rw [Begun, List.length_append, List.length_singleton, List.take_add_one, hl]
  exact List.rel_append h (.cons hline .nil)

theorem Begun.exists_drive (h : Begun begun) (hfull : begun.length = 5) :
    ∃ g : DriveLines, begun = g.all ∧ g.WellFormed := by
  rw [Begun, hfull] at h
  obtain _ | ⟨henclosure, _ | ⟨hslot, _ | ⟨hkind, _ | ⟨hsize, _ | ⟨hmodel, hnil⟩⟩⟩⟩⟩ := h
  cases hnil
  exact ⟨⟨_, _, _, _, _⟩, rfl, henclosure, hslot, hkind, hsize, hmodel⟩

/-- A list that can be read after the first lines of a drive goes on with the others. -/
theorem exists_drive (hbegun : Begun begun) (hne : begun ≠ [])
    (hblank : ∀ line ∈ rest, isBlankText line = false)
    (h : drivesFrom adapter (partOf begun) rest = .ok found) (hpart : begun.length < 5) :
    ∃ (g : DriveLines) (others : List String), begun ++ rest = g.all ++ others ∧ g.WellFormed := by
  have hfresh : (partOf begun).isEmpty = false := by
    cases begun with
    | nil => contradiction
    | cons first others => rfl
  induction rest generalizing begun with
  | nil =>
    rw [drivesFrom, hfresh] at h
    cases h
  | cons line rest ih =>
    have hline := hblank line List.mem_cons_self
    cases hmark : contains adapterMark line with
    | true =>
      rw [drivesFrom, hline, hmark, hfresh] at h
      cases h
    | false =>
      obtain ⟨label, hl, hlabel⟩ := labelled_of_drivesFrom hline hmark h
      have hnext := hbegun.snoc hl hlabel
      by_cases hfull : begun.length = 4
      · obtain ⟨g, hg, hwell⟩ := hnext.exists_drive (by simp [hfull])
        exact ⟨g, rest, by rw [← hg, List.append_assoc]; rfl, hwell⟩
      · rw [drivesFrom_begun hl hlabel hfull] at h
        obtain ⟨g, others, hg, hwell⟩ := ih hnext (by simp)
          (fun other hmem => hblank other (List.mem_cons_of_mem _ hmem)) h
          (by simp only [List.length_append, List.length_singleton]; omega) (by
            simp [partOf, Record.isEmpty])
        exact ⟨g, others, by rw [← hg, List.append_assoc]; rfl, hwell⟩

theorem drivesFrom_banner (h : IsBanner line) :
    drivesFrom adapter (.new driveLabels) (line :: rest) =
      drivesFrom (some (bannerId line)) (.new driveLabels) rest := by
  have hid := adapterOf_eq_ok_iff.2 ⟨h.2, rfl⟩
  rw [drivesFrom, h.not_blank, contains_iff.2 h.1, hid]
  rfl

/-- What lines say after the banner of an adapter. -/
inductive Reads : Option String → List String → List DriveSummary → Prop where
  | done (adapter : Option String) : Reads adapter [] []
  | banner {adapter : Option String} {line : String} {rest : List String}
    {found : List DriveSummary} (hline : IsBanner line)
    (h : Reads (some (bannerId line)) rest found) : Reads adapter (line :: rest) found
  | drive {id : String} {g : DriveLines} {d : DriveSummary} {rest : List String}
    {found : List DriveSummary} (hwell : g.WellFormed) (hd : Describes (id, g) d)
    (h : Reads (some id) rest found) : Reads (some id) (g.all ++ rest) (d :: found)

theorem drivesFrom_of_reads {lines : List String} (h : Reads adapter lines found) :
    drivesFrom adapter (.new driveLabels) lines = .ok found := by
  induction h with
  | done => rfl
  | banner hline _ ih => rw [drivesFrom_banner hline, ih]
  | drive hwell hd _ ih =>
    rw [drivesFrom_drive hwell]
    simp only [summaryOf_eq_ok_iff.2 hd, ih, bind, Except.bind, pure, Except.pure]

/-- A drive that is read has an adapter and a summary. -/
theorem exists_summary_of_drivesFrom {g : DriveLines} (hwell : g.WellFormed)
    (h : drivesFrom adapter (.new driveLabels) (g.all ++ rest) = .ok found) :
    ∃ id d others, adapter = some id ∧ found = d :: others ∧ Describes (id, g) d ∧
      drivesFrom (some id) (.new driveLabels) rest = .ok others := by
  rw [drivesFrom_drive hwell] at h
  cases adapter with
  | none => cases h
  | some id =>
    cases hd : summaryOf id (partOf g.all) with
    | error e => simp [hd, bind, Except.bind] at h
    | ok d =>
      cases hothers : drivesFrom (some id) (.new driveLabels) rest with
      | error e => simp [hd, hothers, bind, Except.bind] at h
      | ok others =>
        simp only [hd, hothers, bind, Except.bind, pure, Except.pure, Except.ok.injEq] at h
        exact ⟨id, d, others, rfl, h.symm, summaryOf_eq_ok_iff.1 hd, hothers⟩

theorem reads_of_drivesFrom {lines : List String}
    (hblank : ∀ line ∈ lines, isBlankText line = false)
    (h : drivesFrom adapter (.new driveLabels) lines = .ok found) : Reads adapter lines found := by
  induction hn : lines.length using Nat.strongRecOn generalizing adapter lines found with
  | ind n ih =>
    cases lines with
    | nil =>
      simp only [drivesFrom, Record.new, Record.isEmpty, List.isEmpty_nil, if_true,
        Except.ok.injEq] at h
      rw [← h]
      exact .done adapter
    | cons line rest =>
      have hline := hblank line List.mem_cons_self
      cases hmark : contains adapterMark line with
      | true =>
        cases hid : adapterOf line with
        | error e => simp [drivesFrom, hline, hmark, hid, Record.new, Record.isEmpty, bind,
            Except.bind] at h
        | ok id =>
          have hbanner : IsBanner line :=
            ⟨contains_iff.1 hmark, (adapterOf_eq_ok_iff.1 hid).1⟩
          rw [drivesFrom_banner hbanner] at h
          exact .banner hbanner (ih rest.length (by simp [← hn])
            (fun other hmem => hblank other (List.mem_cons_of_mem _ hmem)) h rfl)
      | false =>
        have hrest : drivesFrom adapter (partOf []) (line :: rest) = .ok found := h
        obtain ⟨label, hl, hlabel⟩ := labelled_of_drivesFrom hline hmark hrest
        rw [drivesFrom_begun hl hlabel (by simp)] at hrest
        obtain ⟨g, others, hg, hwell⟩ := exists_drive (begun_nil.snoc hl hlabel) (by simp)
          (fun other hmem => hblank other (List.mem_cons_of_mem _ hmem)) hrest (by simp)
        have hlines : line :: rest = g.all ++ others := hg
        rw [hlines] at h hblank hn
        rw [hlines]
        obtain ⟨id, d, found', rfl, rfl, hd, hothers⟩ := exists_summary_of_drivesFrom hwell h
        exact .drive hwell hd (ih others.length (by simp [← hn, DriveLines.all]; omega)
          (fun other hmem => hblank other (List.mem_append_right _ hmem)) hothers rfl)

theorem drivesFrom_eq_ok_iff {lines : List String}
    (hblank : ∀ line ∈ lines, isBlankText line = false) :
    drivesFrom adapter (.new driveLabels) lines = .ok found ↔ Reads adapter lines found :=
  ⟨reads_of_drivesFrom hblank, drivesFrom_of_reads⟩

/-! ## From lines to sections -/

/-- What was read are drives of the adapter before, if there is one, and then sections. -/
theorem Reads.exists_sections {lines : List String} (h : Reads adapter lines found) :
    ∃ (drives : List DriveLines) (sections : List Section),
      lines = drives.flatMap DriveLines.all ++ sections.flatMap Section.all ∧
      (adapter = none → drives = []) ∧
      (∀ g ∈ drives, g.WellFormed ∧ ∃ size, g.rawSize = .ok size) ∧
      (∀ s ∈ sections, s.WellFormed) ∧
      List.Forall₂ Describes
        (drives.map (adapter.getD "", ·) ++ sections.flatMap Section.sources) found := by
  induction h with
  | done adapter => exact ⟨[], [], rfl, fun _ => rfl, by simp, by simp, .nil⟩
  | @banner adapter line rest found hline _ ih =>
    obtain ⟨drives, sections, rfl, -, hdrives, hsections, hdescribes⟩ := ih
    refine ⟨[], ⟨line, drives⟩ :: sections, ?_, fun _ => rfl, by simp, ?_, ?_⟩
    · simp [Section.all]
    · intro s hs
      rcases List.mem_cons.1 hs with rfl | hs
      · exact ⟨hline, hdrives⟩
      · exact hsections s hs
    · simpa [Section.sources] using hdescribes
  | @drive id g d rest found hwell hd _ ih =>
    obtain ⟨drives, sections, rfl, -, hdrives, hsections, hdescribes⟩ := ih
    refine ⟨g :: drives, sections, by simp, by simp, ?_, hsections, .cons hd hdescribes⟩
    intro g' hg
    rcases List.mem_cons.1 hg with rfl | hg
    · obtain ⟨size, hsize, -⟩ := hd.size_eq
      exact ⟨hwell, size, hsize⟩
    · exact hdrives g' hg

theorem reads_of_drives {id : String} {drives : List DriveLines} {before : List DriveSummary}
    (hwell : ∀ g ∈ drives, g.WellFormed) (hd : List.Forall₂ Describes (drives.map (id, ·)) before)
    (h : Reads (some id) rest found) :
    Reads (some id) (drives.flatMap DriveLines.all ++ rest) (before ++ found) := by
  induction drives generalizing before with
  | nil =>
    cases hd
    exact h
  | cons g drives ih =>
    obtain _ | ⟨hfirst, hothers⟩ := hd
    rw [List.flatMap_cons, List.append_assoc]
    exact .drive (hwell g List.mem_cons_self) hfirst
      (ih (fun g' hg => hwell g' (List.mem_cons_of_mem _ hg)) hothers)

theorem reads_of_sections {sections : List Section} (hwell : ∀ s ∈ sections, s.WellFormed)
    (hd : List.Forall₂ Describes (sections.flatMap Section.sources) found) :
    Reads adapter (sections.flatMap Section.all) found := by
  induction sections generalizing adapter found with
  | nil =>
    cases hd
    exact .done adapter
  | cons s sections ih =>
    have hs := hwell s List.mem_cons_self
    rw [List.flatMap_cons] at hd
    have hbefore := List.forall₂_take s.sources.length hd
    have hafter := List.forall₂_drop s.sources.length hd
    rw [List.take_left] at hbefore
    rw [List.drop_left] at hafter
    rw [List.flatMap_cons, Section.all, List.cons_append,
      ← List.take_append_drop s.sources.length found]
    exact .banner hs.banner (reads_of_drives (fun g hg => (hs.drives g hg).1) hbefore
      (ih (fun s' hmem => hwell s' (List.mem_cons_of_mem _ hmem)) hafter))

/-! ## The whole list -/

theorem drivesFrom_filter (adapter : Option String) (record : Record) (lines : List String) :
    drivesFrom adapter record (lines.filter (!isBlankText ·)) =
      drivesFrom adapter record lines := by
  induction lines generalizing adapter record with
  | nil => rfl
  | cons line rest ih =>
    cases hline : isBlankText line with
    | true => simp [drivesFrom_blank _ _ _ hline, hline, ih]
    | false => simp [drivesFrom, hline, ih]

theorem drives_eq_ok_iff {report : String} :
    drives report = .ok found ↔
      ∃ sections, IsListing report sections ∧
        List.Forall₂ Describes (sections.flatMap Section.sources) found := by
  have hblank : ∀ line ∈ (lines report).filter (!isBlankText ·), isBlankText line = false := by
    simp
  rw [drives, ← drivesFrom_filter, drivesFrom_eq_ok_iff hblank]
  constructor
  · intro h
    obtain ⟨_, sections, hlines, hnone, -, hsections, hdescribes⟩ := h.exists_sections
    rw [hnone rfl] at hlines hdescribes
    exact ⟨sections, ⟨hlines, hsections⟩, hdescribes⟩
  · rintro ⟨sections, ⟨hlines, hsections⟩, hdescribes⟩
    rw [hlines]
    exact reads_of_sections hsections hdescribes

theorem exists_describes (id : String) {g : DriveLines} (h : ∃ size, g.rawSize = .ok size) :
    ∃ d, Describes (id, g) d := by
  obtain ⟨size, hsize⟩ := h
  have hsummary := summaryOf_partOf id g
  rw [hsize] at hsummary
  exact ⟨_, summaryOf_eq_ok_iff.1 hsummary⟩

theorem exists_forall₂_describes {sources : List (String × DriveLines)}
    (h : ∀ source ∈ sources, ∃ d, Describes source d) :
    ∃ found, List.Forall₂ Describes sources found := by
  induction sources with
  | nil => exact ⟨[], .nil⟩
  | cons source others ih =>
    obtain ⟨d, hd⟩ := h source List.mem_cons_self
    obtain ⟨found, hfound⟩ := ih fun other hmem => h other (List.mem_cons_of_mem _ hmem)
    exact ⟨d :: found, .cons hd hfound⟩

/-- The sizes in a listing can be read, so there are drives that it describes. -/
theorem IsListing.exists_found {report : String} {sections : List Section}
    (h : IsListing report sections) :
    ∃ found, List.Forall₂ Describes (sections.flatMap Section.sources) found := by
  refine exists_forall₂_describes fun source hsource => ?_
  obtain ⟨s, hs, hsource⟩ := List.mem_flatMap.1 hsource
  obtain ⟨g, hg, rfl⟩ := List.mem_map.1 hsource
  exact exists_describes _ ((h.2 s hs).drives g hg).2

end

/-- A report can be read exactly if its lines, without blank ones, are sections: banners, each with
the drives of its adapter, whose lines have their labels in order and whose sizes can be read. The
drives that are read are then one for each five lines, in order, and each of them is what its own
lines and the banner of its section say. -/
theorem drives_eq_ok_iff_listing (report : String) (found : List DriveSummary) :
    ((∃ read, drives report = .ok read) ↔ ∃ sections, IsListing report sections) ∧
    (drives report = .ok found ↔ ∃ sections, IsListing report sections ∧
      List.Forall₂ Describes (sections.flatMap Section.sources) found) := by
  refine ⟨⟨?_, ?_⟩, drives_eq_ok_iff⟩
  · rintro ⟨read, h⟩
    obtain ⟨sections, hlisting, -⟩ := drives_eq_ok_iff.1 h
    exact ⟨sections, hlisting⟩
  · rintro ⟨sections, hlisting⟩
    obtain ⟨read, hread⟩ := hlisting.exists_found
    exact ⟨read, drives_eq_ok_iff.2 ⟨sections, hlisting, hread⟩⟩

end RaidProvision.MegaCli

import Mathlib.Data.List.Induction
import Mathlib.Data.List.TakeWhile
import RaidProvision.Proofs.Arcconf.Enumeration
import RaidProvision.Proofs.Arcconf.RoundTrip

/-!
# Which drive reports are refused

The lines of a report are divided into blocks and other lines. A block is made of the fields behind
a line that opens a drive, as many as stand there in a row; within them no drive is opened.
There is one way to divide a report (`Divides`). A report is refused iff a block lacks an attribute,
and then for the first attribute of the first such block; if it is not refused, each block is a
drive, and lines outside of the blocks do not count.

* `Divides.unique`, `exists_divides`: there is one way to divide some lines.
* `get?_fieldsOf_eq_some_iff`, `get?_fieldsOf_eq_none_iff`: a block says what the last line with a
  key says.
* `sheetOf_eq_ok_iff`, `sheetOf_eq_error_iff`: one block.
* `drives_eq_ok_iff`, `drives_eq_error_iff`: all blocks of a report.
* `drives_by_blocks`: what is read, and what is refused for which cause.
-/
namespace RaidProvision.Arcconf

open RaidProvision.Text RaidProvision.Report

/-! ## Blocks -/

/-- A line that opens a drive, unless it is a field of another one. -/
def Opens (line : String) : Prop := "Hard drive".toList <:+: line.toList

/-- A line with a mark between a key and its value. -/
def IsField (line : String) : Prop := " : ".toList <:+: line.toList

/-- The key and the value of a field: the texts before and after the first mark, without blanks
around them. -/
def Reads (line key value : String) : Prop :=
  ∃ before after, line = before ++ " : " ++ after ∧ ¬ IsField (before ++ " :") ∧
    key = trim before ∧ value = trim after

/-- Lines are divided into blocks and lines outside of them. -/
inductive Divides : List String → List (List String) → Prop where
  | done : Divides [] []
  | outside {line : String} {rest : List String} {blocks : List (List String)}
    (h : ¬ Opens line) (hrest : Divides rest blocks) : Divides (line :: rest) blocks
  /-- A block goes on as long as there are fields. -/
  | block {line : String} {block rest : List String} {blocks : List (List String)}
    (h : Opens line) (hblock : ∀ field ∈ block, IsField field)
    (hend : ∀ next, rest.head? = some next → ¬ IsField next) (hrest : Divides rest blocks) :
    Divides (line :: (block ++ rest)) (block :: blocks)

/-- A block says what the last of its fields with a key says. -/
def Says (block : List String) (key value : String) : Prop :=
  ∃ before line after, block = before ++ line :: after ∧ Reads line key value ∧
    ∀ field ∈ after, ∀ other, ¬ Reads field key other

/-- No field of a block has a key. -/
def Lacks (block : List String) (key : String) : Prop :=
  ∀ field ∈ block, ∀ value, ¬ Reads field key value

/-- A block has all attributes. -/
def Complete (block : List String) : Prop := ∀ a : Attribute, ¬ Lacks block a.label

/-- The first attribute that a block lacks, in the order of a sheet. -/
def LacksFirst (block : List String) (a : Attribute) : Prop :=
  ∃ before after, Attribute.all = before ++ a :: after ∧ Lacks block a.label ∧
    ∀ b ∈ before, ¬ Lacks block b.label

/-- The first block that lacks an attribute, and the first attribute that it lacks. -/
def Broken (blocks : List (List String)) (a : Attribute) : Prop :=
  ∃ before block after, blocks = before ++ block :: after ∧ (∀ b ∈ before, Complete b) ∧
    LacksFirst block a

/-- A drive is what a block says, on the controller that was asked. -/
structure Describes (controller : String) (block : List String) (sheet : DriveSheet) : Prop where
  controller_eq : sheet.controller = controller
  text_eq : ∀ a, Says block a.label (sheet.text a)

/-! ## One way to divide -/

theorem isField_iff {line : String} : IsField line ↔ (keyValue fieldMark line).isSome = true := by
  rw [keyValue_isSome_iff, contains_iff]
  rfl

theorem opens_iff {line : String} : Opens line ↔ contains driveMark line = true :=
  contains_iff.symm

theorem reads_iff {line key value : String} :
    Reads line key value ↔ keyValue fieldMark line = some (key, value) := by
  rw [keyValue_eq_some_iff (by simp [fieldMark])]
  simp only [Reads, IsField, String.toList_append]
  rfl

/-- Where the fields end is seen from the lines. -/
theorem block_unique {block block' rest rest' : List String} (h : ∀ field ∈ block, IsField field)
    (h' : ∀ field ∈ block', IsField field)
    (hend : ∀ next, rest.head? = some next → ¬ IsField next)
    (hend' : ∀ next, rest'.head? = some next → ¬ IsField next)
    (heq : block ++ rest = block' ++ rest') : block = block' ∧ rest = rest' := by
  induction block generalizing block' with
  | nil =>
    cases block' with
    | nil => exact ⟨rfl, heq⟩
    | cons field block' =>
      have hfield : rest.head? = some field := by simpa using congrArg List.head? heq
      exact absurd (h' field List.mem_cons_self) (hend field hfield)
  | cons field block ih =>
    cases block' with
    | nil =>
      have hfield : rest'.head? = some field := by simpa using congrArg List.head? heq.symm
      exact absurd (h field List.mem_cons_self) (hend' field hfield)
    | cons field' block' =>
      rw [List.cons_append, List.cons_append, List.cons.injEq] at heq
      obtain ⟨rfl, heq⟩ := heq
      obtain ⟨rfl, rfl⟩ := ih (fun f hf => h f (List.mem_cons_of_mem _ hf))
        (fun f hf => h' f (List.mem_cons_of_mem _ hf)) heq
      exact ⟨rfl, rfl⟩

theorem Divides.unique {ls : List String} {blocks blocks' : List (List String)}
    (h : Divides ls blocks) (h' : Divides ls blocks') : blocks = blocks' := by
  induction h generalizing blocks' with
  | done => cases h' with | done => rfl
  | @outside line rest blocks hline hrest ih =>
    cases h' with
    | outside _ hrest' => exact ih hrest'
    | block hopens => exact absurd hopens hline
  | @block line block rest blocks hline hblock hend hrest ih =>
    generalize hls : line :: (block ++ rest) = ls at h'
    cases h' with
    | done => cases hls
    | outside hline' =>
      obtain ⟨rfl, -⟩ := List.cons.inj hls
      exact absurd hline hline'
    | block hline' hblock' hend' hrest' =>
      obtain ⟨rfl, heq⟩ := List.cons.inj hls
      obtain ⟨rfl, rfl⟩ := block_unique hblock hblock' hend hend' heq
      rw [ih hrest']

/-! ## What is read off a block -/

/-- The fields that are read off a block, behind those found before. -/
def fieldsFrom (found : Fields) (block : List String) : Fields :=
  block.foldl (fun fields line =>
    match keyValue fieldMark line with
    | some (key, value) => fields.insert key value
    | none => fields) found

/-- The fields that are read off a block. -/
def fieldsOf (block : List String) : Fields := fieldsFrom .empty block

theorem fieldsOf_concat (block : List String) (line : String) :
    fieldsOf (block ++ [line]) =
      match keyValue fieldMark line with
      | some (key, value) => (fieldsOf block).insert key value
      | none => fieldsOf block := by
  rw [fieldsOf, fieldsFrom, List.foldl_append]
  rfl

/-- The fields of a block are taken up, and then the drive ends. -/
theorem blocksFrom_fields {block rest : List String} (h : ∀ field ∈ block, IsField field)
    (hend : ∀ next, rest.head? = some next → ¬ IsField next) (found : Fields) :
    blocksFrom (some found) (block ++ rest) = fieldsFrom found block :: blocksFrom none rest := by
  induction block generalizing found with
  | nil =>
    refine blocksFrom_some_of_head found fun next hnext => ?_
    have hnone := hend next hnext
    rw [isField_iff, Bool.not_eq_true, Option.isSome_eq_false_iff,
      Option.isNone_iff_eq_none] at hnone
    exact hnone
  | cons field block ih =>
    obtain ⟨⟨key, value⟩, hkey⟩ := Option.isSome_iff_exists.1
      (isField_iff.1 (h field List.mem_cons_self))
    rw [List.cons_append, blocksFrom, fieldsFrom, List.foldl_cons, hkey]
    exact ih (fun f hf => h f (List.mem_cons_of_mem _ hf)) _

theorem blocksFrom_of_divides {ls : List String} {blocks : List (List String)}
    (h : Divides ls blocks) : blocksFrom none ls = blocks.map fieldsOf := by
  induction h with
  | done => rfl
  | @outside line rest blocks hline hrest ih =>
    rw [opens_iff, Bool.not_eq_true] at hline
    rw [blocksFrom, hline, if_neg Bool.false_ne_true, ih]
  | @block line block rest blocks hline hblock hend hrest ih =>
    rw [blocksFrom, if_pos (opens_iff.1 hline), blocksFrom_fields hblock hend, ih]
    rfl

/-- Some lines can be divided: the fields at their beginning, if a drive was opened before, are
taken off first. -/
theorem exists_divides (ls : List String) : ∃ blocks, Divides ls blocks := by
  induction hn : ls.length using Nat.strongRecOn generalizing ls with
  | ind n ih =>
    cases ls with
    | nil => exact ⟨[], .done⟩
    | cons line rest =>
      let isField (next : String) : Bool := (keyValue fieldMark next).isSome
      have hlt : rest.length < n := by simp [← hn]
      cases hopens : contains driveMark line with
      | false =>
        obtain ⟨blocks, hblocks⟩ := ih rest.length hlt rest rfl
        exact ⟨blocks, .outside (by simp [opens_iff, hopens]) hblocks⟩
      | true =>
        have hdrop : (rest.dropWhile isField).length < n :=
          Nat.lt_of_le_of_lt (List.dropWhile_suffix isField).length_le hlt
        obtain ⟨blocks, hblocks⟩ := ih _ hdrop (rest.dropWhile isField) rfl
        have hblock : ∀ field ∈ rest.takeWhile isField, IsField field := fun field hfield =>
          isField_iff.2 (List.mem_takeWhile_imp (p := isField) hfield)
        have hend : ∀ next, (rest.dropWhile isField).head? = some next → ¬ IsField next := by
          intro next hnext hfield
          have hfalse : isField next = false := by
            simpa [hnext] using List.head?_dropWhile_not isField rest
          exact absurd (isField_iff.1 hfield) (Bool.eq_false_iff.1 hfalse)
        have hdivides := Divides.block (opens_iff.2 hopens) hblock hend hblocks
        rw [List.takeWhile_append_dropWhile] at hdivides
        exact ⟨_, hdivides⟩

/-! ## One block -/

theorem get?_fieldsOf_eq_none_iff {block : List String} {key : String} :
    (fieldsOf block).get? key = none ↔ Lacks block key := by
  induction block using List.reverseRecOn with
  | nil => simp [fieldsOf, fieldsFrom, Lacks]
  | append_singleton block line ih =>
    rw [Lacks, List.forall_mem_append, List.forall_mem_singleton, ← Lacks, ← ih, fieldsOf_concat]
    simp only [reads_iff]
    cases hline : keyValue fieldMark line with
    | none => simp
    | some field =>
      obtain ⟨other, value⟩ := field
      by_cases hkey : key = other
      · subst hkey
        simp
      · simp [Fields.get?_insert_of_ne _ _ hkey, Ne.symm hkey]

/-- With one more field a block says what this one says, and else what it said before. -/
theorem says_concat {block : List String} {line key value : String} :
    Says (block ++ [line]) key value ↔
      Reads line key value ∨ (∀ other, ¬ Reads line key other) ∧ Says block key value := by
  constructor
  · rintro ⟨before, field, after, heq, hfield, hafter⟩
    rcases List.eq_nil_or_concat after with rfl | ⟨after, last, rfl⟩
    · obtain ⟨-, hlast⟩ := List.append_inj' heq rfl
      obtain rfl : line = field := by simpa using hlast
      exact .inl hfield
    · have hconcat : block ++ [line] = before ++ field :: after ++ [last] := by simpa using heq
      obtain ⟨rfl, hlast⟩ := List.append_inj' hconcat rfl
      obtain rfl : line = last := by simpa using hlast
      exact .inr ⟨hafter line (by simp), before, field, after, rfl, hfield,
        fun other hother => hafter other (by simp [hother])⟩
  · rintro (hline | ⟨hline, before, field, after, rfl, hfield, hafter⟩)
    · exact ⟨block, line, [], rfl, hline, by simp⟩
    · refine ⟨before, field, after ++ [line], by simp, hfield, ?_⟩
      rw [List.forall_mem_append, List.forall_mem_singleton]
      exact ⟨hafter, hline⟩

theorem get?_fieldsOf_eq_some_iff {block : List String} {key value : String} :
    (fieldsOf block).get? key = some value ↔ Says block key value := by
  induction block using List.reverseRecOn with
  | nil => simp [fieldsOf, fieldsFrom, Says]
  | append_singleton block line ih =>
    rw [says_concat, ← ih, fieldsOf_concat]
    simp only [reads_iff]
    cases hline : keyValue fieldMark line with
    | none => simp
    | some field =>
      obtain ⟨other, held⟩ := field
      by_cases hkey : key = other
      · subst hkey
        simp
      · simp [Fields.get?_insert_of_ne _ _ hkey, Ne.symm hkey]

theorem complete_iff {block : List String} :
    Complete block ↔
      Attribute.all.find? (fun a => ((fieldsOf block).get? a.label).isNone) = none := by
  simp only [Complete, List.find?_eq_none, Option.isNone_iff_eq_none, get?_fieldsOf_eq_none_iff]
  exact ⟨fun h a _ => h a, fun h a => h a a.mem_all⟩

theorem lacksFirst_iff {block : List String} {a : Attribute} :
    LacksFirst block a ↔
      Attribute.all.find? (fun a => ((fieldsOf block).get? a.label).isNone) = some a := by
  simp only [LacksFirst, List.find?_eq_some_iff_append, Bool.not_eq_true', ← Bool.not_eq_true,
    Option.isNone_iff_eq_none, get?_fieldsOf_eq_none_iff]
  constructor
  · rintro ⟨before, after, hall, hlacks, hbefore⟩
    exact ⟨hlacks, before, after, hall, hbefore⟩
  · rintro ⟨hlacks, before, after, hall, hbefore⟩
    exact ⟨before, after, hall, hlacks, hbefore⟩

theorem sheetOf_eq_ok_iff {controller : String} {block : List String} {sheet : DriveSheet} :
    sheetOf controller (fieldsOf block) = .ok sheet ↔ Describes controller block sheet := by
  constructor
  · intro h
    rw [sheetOf] at h
    split at h
    case h_1 => cases h
    case h_2 hfind =>
      obtain rfl := Except.ok.inj h
      refine ⟨rfl, fun a => get?_fieldsOf_eq_some_iff.1 ?_⟩
      cases ha : (fieldsOf block).get? a.label with
      | none => exact absurd (get?_fieldsOf_eq_none_iff.1 ha) (complete_iff.2 hfind a)
      | some value => simp [ha]
  · rintro ⟨rfl, htext⟩
    have hget (a : Attribute) : (fieldsOf block).get? a.label = some (sheet.text a) :=
      get?_fieldsOf_eq_some_iff.2 (htext a)
    have hfind : Attribute.all.find? (fun a => ((fieldsOf block).get? a.label).isNone) = none := by
      simp [hget]
    rw [sheetOf, hfind]
    simp [hget]

theorem sheetOf_eq_error_iff {controller : String} {block : List String} {cause : ReportError} :
    sheetOf controller (fieldsOf block) = .error cause ↔
      ∃ a, LacksFirst block a ∧ cause = .missingField a.label := by
  simp only [lacksFirst_iff]
  rw [sheetOf]
  split
  case h_1 a hfind => simp [hfind, eq_comm]
  case h_2 hfind => simp [hfind]

/-! ## All blocks -/

theorem drives_eq_mapM {report : String} {blocks : List (List String)}
    (h : Divides (lines report) blocks) (controller : String) :
    drives controller report = blocks.mapM fun block => sheetOf controller (fieldsOf block) := by
  rw [drives, driveBlocks, blocksFrom_of_divides h, List.mapM_map]
  rfl

theorem Describes.complete {controller : String} {block : List String} {sheet : DriveSheet}
    (h : Describes controller block sheet) : Complete block := by
  intro a hlacks
  obtain ⟨before, line, after, rfl, hline, -⟩ := h.text_eq a
  exact hlacks line (by simp) _ hline

section
variable {controller report : String} {blocks : List (List String)}

theorem drives_eq_ok_iff (h : Divides (lines report) blocks) {sheets : List DriveSheet} :
    drives controller report = .ok sheets ↔
      List.Forall₂ (Describes controller) blocks sheets := by
  rw [drives_eq_mapM h, mapM_eq_ok_iff]
  simp only [sheetOf_eq_ok_iff]

theorem exists_sheetOf_iff {block : List String} :
    (∃ sheet, sheetOf controller (fieldsOf block) = .ok sheet) ↔ Complete block := by
  constructor
  · rintro ⟨sheet, h⟩
    exact (sheetOf_eq_ok_iff.1 h).complete
  · intro h
    exact ⟨_, by rw [sheetOf, complete_iff.1 h]⟩

theorem drives_eq_error_iff (h : Divides (lines report) blocks) {cause : ReportError} :
    drives controller report = .error cause ↔
      ∃ a, Broken blocks a ∧ cause = .missingField a.label := by
  rw [drives_eq_mapM h, mapM_eq_error_iff]
  simp only [exists_sheetOf_iff, sheetOf_eq_error_iff]
  constructor
  · rintro ⟨before, block, after, hblocks, hbefore, a, ha, hcause⟩
    exact ⟨a, ⟨before, block, after, hblocks, hbefore, ha⟩, hcause⟩
  · rintro ⟨a, ⟨before, block, after, hblocks, hbefore, ha⟩, hcause⟩
    exact ⟨before, block, after, hblocks, hbefore, a, ha, hcause⟩

theorem drives_refused_iff (h : Divides (lines report) blocks) :
    (∃ cause, drives controller report = .error cause) ↔
      ∃ block ∈ blocks, ∃ a : Attribute, Lacks block a.label := by
  constructor
  · rintro ⟨cause, hcause⟩
    obtain ⟨a, ⟨before, block, after, rfl, -, hfirst⟩, -⟩ := (drives_eq_error_iff h).1 hcause
    obtain ⟨-, -, -, hlacks, -⟩ := hfirst
    exact ⟨block, by simp, a, hlacks⟩
  · rintro ⟨block, hblock, a, hlacks⟩
    cases hdrives : drives controller report with
    | error cause => exact ⟨cause, rfl⟩
    | ok sheets =>
      obtain ⟨sheet, -, hdescribes⟩ :=
        exists_of_mem_forall₂ ((drives_eq_ok_iff h).1 hdrives) hblock
      exact absurd hlacks (hdescribes.complete a)

end

/-- The lines of a report are divided into blocks in one way. If one of them lacks an attribute, the
report is refused for the first attribute of the first such block, and there is no drive; else there
is one drive for each block, and it is what the block says. Reports with the same blocks are read
alike, whatever stands outside of them. -/
theorem drives_by_blocks (controller report : String) :
    ∃ blocks, Divides (lines report) blocks ∧
      (∀ other, Divides (lines report) other → other = blocks) ∧
      ((∃ cause, drives controller report = .error cause) ↔
        ∃ block ∈ blocks, ∃ a : Attribute, Lacks block a.label) ∧
      (∀ cause, drives controller report = .error cause ↔
        ∃ a, Broken blocks a ∧ cause = .missingField a.label) ∧
      (∀ sheets, drives controller report = .ok sheets ↔
        List.Forall₂ (Describes controller) blocks sheets) ∧
      ∀ other, Divides (lines other) blocks →
        drives controller other = drives controller report := by
  obtain ⟨blocks, hblocks⟩ := exists_divides (lines report)
  refine ⟨blocks, hblocks, fun other hother => hother.unique hblocks, drives_refused_iff hblocks,
    fun cause => drives_eq_error_iff hblocks, fun sheets => drives_eq_ok_iff hblocks, ?_⟩
  intro other hother
  rw [drives_eq_mapM hother, drives_eq_mapM hblocks]

end RaidProvision.Arcconf

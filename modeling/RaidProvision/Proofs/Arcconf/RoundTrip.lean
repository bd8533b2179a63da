import Mathlib.Data.List.Nodup
import RaidProvision.Arcconf.Drives
import RaidProvision.Proofs.Report.KeyValue

/-!
# Reading back a drive report of arcconf

A `Block` is a drive as a report shows it: a line that opens it, its attributes in any order with
other fields between them, and lines that follow. `render` writes blocks behind some other lines. A
text of a drive may hold the mark between a key and its value, and the mark of a drive as well: the
first mark of a line counts, and the lines of a drive are not searched for another one.

* `blocksFrom_lines`: how lines end does not count.
* `Block.keyValue_line`: each line of a drive gives its key and its text.
* `Block.get?_fields`: the fields of a block hold the texts of its drive.
* `Block.blocksFrom_block`: a block is read as one drive, whatever comes after it.
* `drives_render`: the drives that are read are those that were written.
-/
namespace RaidProvision.Arcconf

open RaidProvision.Text RaidProvision.Report

/-! ## Drives as they are written -/

/-- Blanks within a line. -/
def IsPadding (s : String) : Prop := isBlankText s ∧ '\n' ∉ s.toList

/-- A line that opens no drive. -/
def IsNoise (line : String) : Prop := '\n' ∉ line.toList ∧ ¬ "Hard drive".toList <:+: line.toList

/-- A line among those of a drive. -/
inductive Entry where
  /-- The line of an attribute, with blanks between its key and the mark. -/
  | known (a : Attribute) (padding : String)
  /-- A line with another key. -/
  | other (key value : String)

/-- The attribute that a line is about. -/
def Entry.attribute? : Entry → Option Attribute
  | known a _ => some a
  | other _ _ => none

/-- A drive as a report shows it. -/
structure Block where
  text : Attribute → String
  /-- The blanks before the line that opens the drive and before each of its keys. -/
  indent : String
  entries : List Entry
  /-- The lines between the fields of the drive and the next one. -/
  trailing : List String

namespace Block

variable (b : Block)

def key : Entry → String
  | .known a padding => b.indent ++ a.label ++ padding
  | .other key _ => key

def value : Entry → String
  | .known a _ => b.text a
  | .other _ value => value

def line (e : Entry) : String := b.key e ++ " : " ++ b.value e

/-- The line that opens the drive. -/
def opening : String := b.indent ++ "Device is a Hard drive"

def lines : List String := b.opening :: (b.entries.map b.line ++ b.trailing)

/-- The drive that a block is about. -/
def sheet (controller : String) : DriveSheet := ⟨controller, b.text⟩

/-- Every attribute has one line and a text that is trimmed and on one line. Other keys hold no
colon and are none of the attributes. What follows opens no drive and does not begin with a
field. -/
structure WellFormed : Prop where
  complete : (b.entries.filterMap Entry.attribute?).Perm Attribute.all
  text : ∀ a, '\n' ∉ (b.text a).toList ∧ trim (b.text a) = b.text a
  indent : IsPadding b.indent
  padding : ∀ a padding, .known a padding ∈ b.entries → IsPadding padding
  other : ∀ key value, .other key value ∈ b.entries →
    ':' ∉ key.toList ∧ (∀ a : Attribute, trim key ≠ a.label) ∧ '\n' ∉ (key ++ value).toList
  trailing : ∀ line ∈ b.trailing, IsNoise line
  gap : ∀ line, b.trailing.head? = some line → ¬ " : ".toList <:+: line.toList

end Block

/-- The report with some lines and then some drives. With an empty line at the end the last line is
ended as the others are. -/
def render (before : List String) (blocks : List Block) : String :=
  "\n".intercalate (before ++ blocks.flatMap Block.lines)

/-! ## Where a key ends -/

theorem not_pair_infix_of_not_mem {c d : Char} {cs : List Char} (h : d ∉ cs) :
    ¬ [c, d] <:+: cs := fun hi => h (hi.subset (by simp))

theorem not_pair_infix_append {c d : Char} {xs ys : List Char} (hx : ¬ [c, d] <:+: xs)
    (hy : ¬ [c, d] <:+: ys) (hhead : ys.head? ≠ some d) : ¬ [c, d] <:+: xs ++ ys := by
  rw [List.infix_append_iff_ne_nil]
  rintro (h | h | ⟨left, right, hleft, hright, heq, -, hprefix⟩)
  · exact hx h
  · exact hy h
  · obtain ⟨a, left, rfl⟩ := List.exists_cons_of_ne_nil hleft
    obtain ⟨b, right, rfl⟩ := List.exists_cons_of_ne_nil hright
    have hd : d = b := by cases left <;> simp_all
    obtain ⟨rest, rfl⟩ := hprefix
    exact hhead (by rw [hd]; rfl)

/-- Behind a text in which no blank stands before a colon, the first mark is not found early. -/
theorem not_infix_fieldMark {cs : List Char} (h : ¬ [' ', ':'] <:+: cs) :
    ¬ fieldMark.toList <:+: cs ++ fieldMark.toList.dropLast := by
  have hassoc : cs ++ fieldMark.toList.dropLast = cs ++ [' '] ++ [':'] := by
    rw [List.append_assoc]
    rfl
  rw [hassoc, List.infix_concat_iff, List.suffix_concat_iff, List.infix_concat_iff,
    List.suffix_concat_iff]
  change ¬ (([' ', ':', ' '] = [] ∨ _) ∨ ([' ', ':', ' '] = [] ∨ _) ∨ [' ', ':', ' '] <:+: cs)
  rintro ((hnil | ⟨t, ht, -⟩) | (hnil | ⟨t, ht, hsuffix⟩) | hi)
  · cases hnil
  · simpa [fieldMark] using congrArg List.getLast? ht
  · cases hnil
  · have hpair : [' ', ':'] = t := by
      change [' ', ':'] ++ [' '] = t ++ [' '] at ht
      exact List.append_cancel_right ht
    exact h (hpair ▸ hsuffix).isInfix
  · exact h (List.IsInfix.trans ⟨[], [' '], rfl⟩ hi)

theorem trim_label (a : Attribute) : trim a.label = a.label := by
  cases a <;> simp [Attribute.label, trim, strip, dropTrailing, isBlank]

theorem newline_not_mem_label (a : Attribute) : '\n' ∉ a.label.toList := by
  cases a <;> simp [Attribute.label]

/-- Two labels hold a colon, but none behind a blank or at the beginning. -/
theorem colon_in_label (a : Attribute) :
    ¬ [' ', ':'] <:+: a.label.toList ∧ a.label.toList.head? ≠ some ':' := by
  cases a <;> simp [Attribute.label, List.infix_cons_iff]

theorem label_injective {a b : Attribute} (h : a.label = b.label) : a = b :=
  have hnodup : (Attribute.all.map Attribute.label).Nodup := by
    simp [Attribute.all, Attribute.label]
  List.inj_on_of_nodup_map hnodup a.mem_all b.mem_all h

/-! ## Lines -/

theorem contains_driveMark_of_isNoise {line : String} (h : IsNoise line) :
    contains driveMark line = false :=
  Bool.eq_false_iff.2 fun hc => h.2 (contains_iff.1 hc)

/-- How the lines of a report end does not count. -/
theorem blocksFrom_lines (opened : Option Fields) (report : String) :
    blocksFrom opened (Text.lines report) = blocksFrom opened (pieces '\n' report) := by
  rw [Text.lines, pieces]
  induction report.toList.splitOn '\n' using linesOfPieces.induct generalizing opened with
  | case1 => rfl
  | case2 last hempty =>
    rw [linesOfPieces, if_pos hempty, List.isEmpty_iff.1 hempty]
    cases opened <;> rfl
  | case3 last hempty => rw [linesOfPieces, if_neg hempty]
  | case4 piece rest hne ih =>
    have hdrive : '\r' ∉ driveMark.toList := by simp [driveMark]
    have hfield : '\r' ∉ fieldMark.toList := by simp [fieldMark]
    have hcontains := contains_dropReturn hdrive piece
    have hkey := keyValue_dropReturn hfield piece
    rw [linesOfPieces_cons piece hne]
    cases opened with
    | none => simp only [List.map_cons, blocksFrom, hcontains, ih]
    | some fields => simp only [List.map_cons, blocksFrom, hcontains, hkey, ih]

/-- A drive ends where a line is no field. -/
theorem blocksFrom_some_of_head {rest : List String} (found : Fields)
    (h : ∀ line, rest.head? = some line → keyValue fieldMark line = none) :
    blocksFrom (some found) rest = found :: blocksFrom none rest := by
  cases rest with
  | nil => rfl
  | cons line rest => simp only [blocksFrom, h line rfl]

namespace Block

variable {b : Block} {e : Entry}

theorem contains_opening (b : Block) : contains driveMark b.opening = true := by
  have hmark : driveMark.toList <:+: "Device is a Hard drive".toList :=
    ⟨"Device is a ".toList, [], by simp [driveMark]⟩
  rw [contains_iff, opening, String.toList_append]
  exact hmark.trans List.infix_append_right

theorem keyValue_opening (hb : b.WellFormed) : keyValue fieldMark b.opening = none := by
  have hcolon : ':' ∉ b.opening.toList := by
    rw [opening, String.toList_append, List.mem_append]
    rintro (h | h)
    · exact not_mem_of_isBlankText hb.indent.1 (by decide) h
    · simp at h
  exact keyValue_eq_none fun hi => hcolon (hi.subset (by simp [fieldMark]))

theorem trim_key_known (hb : b.WellFormed) {a : Attribute} {padding : String}
    (he : .known a padding ∈ b.entries) : trim (b.key (.known a padding)) = a.label := by
  rw [key, trim_padded hb.indent.1 (hb.padding a padding he).1]
  exact trim_label a

theorem not_pair_infix_key (hb : b.WellFormed) (he : e ∈ b.entries) :
    ¬ [' ', ':'] <:+: (b.key e).toList := by
  cases e with
  | known a padding =>
    obtain ⟨hlabel, hhead⟩ := colon_in_label a
    have hindent : ':' ∉ b.indent.toList := not_mem_of_isBlankText hb.indent.1 (by decide)
    have hpadding : ':' ∉ padding.toList :=
      not_mem_of_isBlankText (hb.padding a padding he).1 (by decide)
    rw [key, String.toList_append, String.toList_append]
    exact not_pair_infix_append
      (not_pair_infix_append (not_pair_infix_of_not_mem hindent) hlabel hhead)
      (not_pair_infix_of_not_mem hpadding) fun h => hpadding (List.mem_of_mem_head? h)
  | other key value => exact not_pair_infix_of_not_mem (hb.other key value he).1

theorem keyValue_line (hb : b.WellFormed) (he : e ∈ b.entries) :
    keyValue fieldMark (b.line e) = some (trim (b.key e), trim (b.value e)) :=
  keyValue_append _ (by simp [fieldMark]) (not_infix_fieldMark (not_pair_infix_key hb he))

theorem newline_not_mem (hb : b.WellFormed) {line : String} (h : line ∈ b.lines) :
    '\n' ∉ line.toList := by
  have hmark : '\n' ∉ fieldMark.toList := by simp [fieldMark]
  rw [lines, List.mem_cons, List.mem_append, List.mem_map] at h
  rcases h with rfl | ⟨e, he, rfl⟩ | h
  · rw [opening, String.toList_append, List.mem_append]
    rintro (h | h)
    · exact hb.indent.2 h
    · simp at h
  · cases e with
    | known a padding =>
      simp only [Block.line, key, value, String.toList_append, List.mem_append, not_or]
      exact ⟨⟨⟨⟨hb.indent.2, newline_not_mem_label a⟩, (hb.padding a padding he).2⟩, hmark⟩,
        (hb.text a).1⟩
    | other key value =>
      have hother := (hb.other key value he).2.2
      simp only [String.toList_append, List.mem_append, not_or] at hother
      simp only [Block.line, Block.key, Block.value, String.toList_append, List.mem_append, not_or]
      exact ⟨⟨hother.1, hmark⟩, hother.2⟩
  · exact (hb.trailing line h).1

/-! ## The fields of a drive -/

/-- The fields after some lines, behind those found before. -/
def fieldsFrom (b : Block) (found : Fields) (entries : List Entry) : Fields :=
  entries.foldl (fun fields e => fields.insert (trim (b.key e)) (trim (b.value e))) found

/-- The fields that are read from the drive. -/
def fields (b : Block) : Fields := b.fieldsFrom .empty b.entries

theorem blocksFrom_entries {entries : List Entry} (hentries : ∀ e ∈ entries,
    keyValue fieldMark (b.line e) = some (trim (b.key e), trim (b.value e))) (found : Fields)
    (rest : List String) :
    blocksFrom (some found) (entries.map b.line ++ rest) =
      blocksFrom (some (b.fieldsFrom found entries)) rest := by
  induction entries generalizing found with
  | nil => rfl
  | cons e entries ih =>
    rw [List.map_cons, List.cons_append, blocksFrom, hentries e List.mem_cons_self]
    exact ih (fun e' he => hentries e' (List.mem_cons_of_mem _ he)) _

/-- The value of a key is the one on which all of its lines agree. -/
theorem get?_fieldsFrom {entries : List Entry} {name value : String}
    (hsame : ∀ e ∈ entries, trim (b.key e) = name → trim (b.value e) = value) (found : Fields)
    (hsome : found.get? name = some value ∨ ∃ e ∈ entries, trim (b.key e) = name) :
    (b.fieldsFrom found entries).get? name = some value := by
  induction entries generalizing found with
  | nil => simpa [fieldsFrom] using hsome
  | cons e entries ih =>
    refine ih (fun e' he => hsame e' (List.mem_cons_of_mem _ he)) _ ?_
    by_cases hname : name = trim (b.key e)
    · rw [Fields.get?_insert, if_pos hname, hsame e List.mem_cons_self hname.symm]
      exact .inl rfl
    · rw [Fields.get?_insert_of_ne _ _ hname]
      refine hsome.imp_right ?_
      rintro ⟨e', he, hkey⟩
      rcases List.mem_cons.1 he with rfl | he
      · exact absurd hkey.symm hname
      · exact ⟨e', he, hkey⟩

theorem get?_fields (hb : b.WellFormed) (a : Attribute) :
    b.fields.get? a.label = some (b.text a) := by
  have hmem : a ∈ b.entries.filterMap Entry.attribute? := hb.complete.mem_iff.2 a.mem_all
  obtain ⟨e, he, hattribute⟩ := List.mem_filterMap.1 hmem
  refine get?_fieldsFrom ?_ _ (.inr ⟨e, he, ?_⟩)
  · intro e he hkey
    cases e with
    | known a' padding =>
      rw [trim_key_known hb he] at hkey
      rw [← label_injective hkey]
      exact (hb.text a').2
    | other key value => exact absurd hkey ((hb.other key value he).2.1 a)
  · cases e with
    | known a' padding =>
      cases hattribute
      exact trim_key_known hb he
    | other key value => cases hattribute

theorem sheetOf_fields (hb : b.WellFormed) (controller : String) :
    sheetOf controller b.fields = .ok (b.sheet controller) := by
  have hnone : (Attribute.all.find? fun a => (b.fields.get? a.label).isNone) = none := by
    simp [get?_fields hb]
  rw [sheetOf, hnone]
  simp [get?_fields hb, sheet]

/-! ## Whole reports -/

/-- A block is read as one drive, and the lines after it are read as if it were not there. -/
theorem blocksFrom_block (hb : b.WellFormed) (rest : List String)
    (h : ∀ line, rest.head? = some line → keyValue fieldMark line = none) :
    blocksFrom none (b.lines ++ rest) = b.fields :: blocksFrom none rest := by
  have htrailing : ∀ line ∈ b.trailing, contains driveMark line = false := fun line hline =>
    contains_driveMark_of_isNoise (hb.trailing line hline)
  have hhead : ∀ line, (b.trailing ++ rest).head? = some line → keyValue fieldMark line = none := by
    intro line hline
    cases htail : b.trailing with
    | nil => exact h line (by rwa [htail] at hline)
    | cons first others =>
      rw [htail] at hline
      exact keyValue_eq_none (hb.gap line (by rw [htail]; exact hline))
  calc blocksFrom none (b.lines ++ rest)
      = blocksFrom (some .empty) (b.entries.map b.line ++ (b.trailing ++ rest)) := by
        rw [lines, List.cons_append, blocksFrom, if_pos b.contains_opening, List.append_assoc]
    _ = blocksFrom (some b.fields) (b.trailing ++ rest) :=
        blocksFrom_entries (fun e he => keyValue_line hb he) _ _
    _ = b.fields :: blocksFrom none rest := by
        rw [blocksFrom_some_of_head _ hhead, blocksFrom_append_of_outside _ _ htrailing]

end Block

section
variable {before : List String} {blocks : List Block}

theorem blocksFrom_blocks (h : ∀ b ∈ blocks, b.WellFormed) :
    blocksFrom none (blocks.flatMap Block.lines) = blocks.map Block.fields := by
  induction blocks with
  | nil => rfl
  | cons b blocks ih =>
    rw [List.flatMap_cons, List.map_cons, Block.blocksFrom_block (h b List.mem_cons_self),
      ih fun b' hb => h b' (List.mem_cons_of_mem _ hb)]
    intro line hline
    cases blocks with
    | nil => cases hline
    | cons next blocks =>
      rw [List.flatMap_cons, Block.lines, List.cons_append, List.head?_cons,
        Option.some.injEq] at hline
      rw [← hline]
      exact Block.keyValue_opening (h next (by simp))

theorem blocksFrom_render (hbefore : ∀ line ∈ before, IsNoise line)
    (hblocks : ∀ b ∈ blocks, b.WellFormed) :
    blocksFrom none (pieces '\n' (render before blocks)) =
      blocksFrom none (before ++ blocks.flatMap Block.lines) := by
  by_cases hne : before ++ blocks.flatMap Block.lines = []
  · rw [render, hne]
    rfl
  · rw [render, pieces_intercalate hne]
    intro line hline
    rcases List.mem_append.1 hline with hline | hline
    · exact (hbefore line hline).1
    · obtain ⟨b, hb, hline⟩ := List.mem_flatMap.1 hline
      exact Block.newline_not_mem (hblocks b hb) hline

theorem mapM_sheetOf_fields (h : ∀ b ∈ blocks, b.WellFormed) (controller : String) :
    (blocks.map Block.fields).mapM (sheetOf controller) =
      .ok (blocks.map (Block.sheet · controller)) := by
  induction blocks with
  | nil => rfl
  | cons b blocks ih =>
    rw [List.map_cons, List.mapM_cons, Block.sheetOf_fields (h b List.mem_cons_self),
      ih fun b' hb => h b' (List.mem_cons_of_mem _ hb)]
    rfl

/-- The drives that are read from a report are those that it was written for, in their order, each
with its own texts and the controller that was asked about. -/
theorem drives_render (controller : String) (hbefore : ∀ line ∈ before, IsNoise line)
    (hblocks : ∀ b ∈ blocks, b.WellFormed) :
    drives controller (render before blocks) = .ok (blocks.map (Block.sheet · controller)) := by
  have hnoise : ∀ line ∈ before, contains driveMark line = false := fun line hline =>
    contains_driveMark_of_isNoise (hbefore line hline)
  rw [drives, driveBlocks, blocksFrom_lines, blocksFrom_render hbefore hblocks,
    blocksFrom_append_of_outside _ _ hnoise, blocksFrom_blocks hblocks,
    mapM_sheetOf_fields hblocks]

end

/-! ## Drives that name the marks -/

/-- A drive with a text that holds both marks, and with another field before its own. -/
def markedBlock : Block where
  text
    | .model => "Hard drive : 1"
    | a => a.name
  indent := "   "
  entries := .other "Phy #0" "Hard drive" :: Attribute.all.reverse.map (.known · "  ")
  trailing := []

/-- A drive that is followed by what looks like one of its fields. -/
def followedBlock : Block where
  text a := a.name
  indent := ""
  entries := Attribute.all.map (.known · "")
  trailing := ["", "State : lost", ""]

theorem name_plain (a : Attribute) : '\n' ∉ a.name.toList ∧ trim a.name = a.name := by
  cases a <;> simp [Attribute.name, trim, strip, dropTrailing, isBlank]

theorem wellFormed_markedBlock : markedBlock.WellFormed where
  complete := List.reverse_perm Attribute.all
  text a := by
    cases a with
    | model => simp [markedBlock, trim, strip, dropTrailing, isBlank]
    | _ => exact name_plain _
  indent := by simp [IsPadding, markedBlock, isBlankText, isBlank]
  padding a padding h := by
    obtain rfl : padding = "  " := by
      simp only [markedBlock, List.mem_cons, reduceCtorEq, List.mem_map, Entry.known.injEq,
        false_or] at h
      obtain ⟨_, -, -, h⟩ := h
      exact h.symm
    simp [IsPadding, isBlankText, isBlank]
  other key value h := by
    simp only [markedBlock, List.mem_cons, Entry.other.injEq, List.mem_map, reduceCtorEq,
      and_false, exists_false, or_false] at h
    obtain ⟨rfl, rfl⟩ := h
    refine ⟨by simp, fun a => ?_, by simp⟩
    cases a <;> simp [Attribute.label, trim, strip, dropTrailing, isBlank]
  trailing _ h := by cases h
  gap _ h := by cases h

theorem wellFormed_followedBlock : followedBlock.WellFormed where
  complete := .refl Attribute.all
  text := name_plain
  indent := by simp [IsPadding, followedBlock, isBlankText]
  padding a padding h := by
    obtain rfl : padding = "" := by
      simp only [followedBlock, List.mem_map, Entry.known.injEq] at h
      obtain ⟨_, -, -, h⟩ := h
      exact h.symm
    simp [IsPadding, isBlankText]
  other key value h := by simp [followedBlock] at h
  trailing := by simp [IsNoise, followedBlock, List.infix_cons_iff]
  gap line h := by
    cases h
    simp

theorem drives_render_marked :
    IsNoise "Device : none" ∧ markedBlock.WellFormed ∧ followedBlock.WellFormed ∧
    drives "1" (render ["Device : none"] [markedBlock, followedBlock]) =
      .ok [markedBlock.sheet "1", followedBlock.sheet "1"] := by
  have hnoise : IsNoise "Device : none" := by simp [IsNoise, List.infix_cons_iff]
  refine ⟨hnoise, wellFormed_markedBlock, wellFormed_followedBlock, ?_⟩
  refine drives_render "1" (by simpa using hnoise) ?_
  simpa using ⟨wellFormed_markedBlock, wellFormed_followedBlock⟩

end RaidProvision.Arcconf

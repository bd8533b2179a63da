import Mathlib.Data.List.DropRight
import Mathlib.Data.List.Infix
import RaidProvision.Text.Blank
import RaidProvision.Text.Split

/-!
# Where a text is cut

A text is cut at a separator iff the separator stands in it. A separator of one character cuts at
the first place of this character; any separator cuts at a place that none overlaps from before.

* `contains_iff`: a needle is found iff it stands in the text.
* `splitFirst_eq_some_iff`: the two parts that one character leaves.
* `before_append`, `before_append_sep`: what stands before the first place of a character.
* `cutFirst_append`: a text is cut where a separator was put, unless one stands earlier.
* `cutFirst_eq_some_iff`, `splitFirst_eq_some_iff_of_ne_empty`: where a text is cut, for a separator
  of any length.
* `cutFirst_concat`: a character that no separator holds stays behind the cut.
* `unbordered_iff_cutFirst_append`: which separators cut wherever they are put behind a text without
  them.
* `pieces_intercalate`: lines that were put together are found again.
* `parts_intercalate`: texts with a separator between, put together and cut again.
* `eq_false_of_mem_splitOnP`, `not_mem_of_mem_pieces`, `of_mem_words`: what a text is cut into holds
  no separator any more.
* `words_append_of_blank`, `words_append_left_of_blank`: blanks around words.
* `dropTrailing_eq_iff`: what is left in front of a character that is repeated at the end.
* `getLast?_words_eq_some_iff`: the last word of a line.
-/
namespace RaidProvision.Text

/-- The text after the first `c`, or nothing. -/
def after (c : Char) (s : String) : String := String.ofList (s.toList.dropWhile (· != c)).tail

theorem isSome_cutFirst_iff {sep cs : List Char} : (cutFirst sep cs).isSome ↔ sep <:+: cs := by
  induction cs with
  | nil =>
    rw [List.infix_nil, cutFirst]
    cases sep <;> simp
  | cons c cs ih =>
    rw [List.infix_cons_iff, ← ih, ← List.isPrefixOf_iff_prefix, cutFirst]
    by_cases hp : sep.isPrefixOf (c :: cs) <;> simp [hp]

theorem contains_iff {needle s : String} : contains needle s ↔ needle.toList <:+: s.toList :=
  isSome_cutFirst_iff

theorem cutFirst_singleton (c : Char) (cs : List Char) :
    cutFirst [c] cs =
      if c ∈ cs then some (cs.takeWhile (· != c), (cs.dropWhile (· != c)).tail) else none := by
  induction cs with
  | nil => rfl
  | cons d cs ih =>
    by_cases hd : c = d
    · subst hd
      simp [cutFirst]
    · have hne : (d != c) = true := by simpa using Ne.symm hd
      simp only [cutFirst, List.isPrefixOf, beq_eq_false_iff_ne.2 hd, Bool.false_and, ih,
        List.mem_cons, hd, false_or, List.takeWhile_cons, List.dropWhile_cons, hne, if_true]
      by_cases hmem : c ∈ cs <;> simp [hmem]

theorem splitFirst_eq_some_iff {sep s first second : String} {c : Char} (hsep : sep.toList = [c]) :
    splitFirst sep s = some (first, second) ↔
      c ∈ s.toList ∧ first = before c s ∧ second = after c s := by
  rw [splitFirst, hsep, cutFirst_singleton]
  by_cases hc : c ∈ s.toList
  · simp [hc, before, after, eq_comm]
  · simp [hc]

theorem before_append {c : Char} {key : String} (h : c ∉ key.toList) (s : String) :
    before c (key ++ s) = key ++ before c s := by
  apply String.toList_injective
  have hall : ∀ d ∈ key.toList, (d != c) = true := by
    intro d hd
    simpa using fun heq : d = c => h (heq ▸ hd)
  rw [before, String.toList_ofList, String.toList_append, List.takeWhile_append_of_pos hall,
    String.toList_append, before, String.toList_ofList]

theorem before_append_sep {sep key : String} {c : Char} (hsep : sep.toList = [c])
    (h : c ∉ key.toList) (s : String) : before c (key ++ sep ++ s) = key := by
  have hnone : before c (sep ++ s) = "" := by
    apply String.toList_injective
    rw [before, String.toList_ofList, String.toList_append, hsep]
    simp
  rw [String.append_assoc, before_append h, hnone, String.append_empty]

theorem before_eq_self {c : Char} {s : String} (h : c ∉ s.toList) : before c s = s := by
  have hempty : before c "" = "" := rfl
  have hs := before_append h ""
  rwa [hempty, String.append_empty] at hs

/-- A text with a character in it is cut at the first place of this. -/
theorem exists_before {sep s : String} {c : Char} (hsep : sep.toList = [c]) (h : c ∈ s.toList) :
    ∃ key rest, c ∉ key.toList ∧ s = key ++ sep ++ rest := by
  obtain ⟨front, back, hs, hfront⟩ := List.eq_append_cons_of_mem h
  refine ⟨String.ofList front, String.ofList back, by simpa using hfront, ?_⟩
  apply String.toList_injective
  simp [hs, hsep]

/-! ## Separators of several characters -/

/-- A text is cut where a separator was put, if none stands in what is before it and all but the
last character of this one. -/
theorem cutFirst_append {sep before : List Char} (after : List Char) (hsep : sep ≠ [])
    (h : ¬ sep <:+: before ++ sep.dropLast) :
    cutFirst sep (before ++ sep ++ after) = some (before, after) := by
  induction before with
  | nil =>
    obtain ⟨c, rest, rfl⟩ := List.exists_cons_of_ne_nil hsep
    simp [cutFirst]
  | cons c before ih =>
    have hprefix : ¬ sep <+: c :: (before ++ sep ++ after) := by
      intro hp
      have hwhole : c :: (before ++ sep.dropLast) <+: c :: (before ++ sep ++ after) := by
        rw [List.cons_prefix_cons, List.append_assoc]
        exact ⟨rfl, (List.prefix_append_right_inj before).2
          ((List.dropLast_prefix sep).trans (List.prefix_append sep after))⟩
      refine h (List.prefix_of_prefix_length_le hp hwhole ?_).isInfix
      simp only [List.length_cons, List.length_append, List.length_dropLast]
      omega
    have hrest : ¬ sep <:+: before ++ sep.dropLast := fun hi =>
      h (hi.trans (List.suffix_cons c _).isInfix)
    rw [List.cons_append, List.cons_append, cutFirst, ih hrest,
      if_neg (by simpa [List.isPrefixOf_iff_prefix] using hprefix)]
    rfl

/-- Texts that agree are cut alike at the first place of a character. -/
theorem append_cons_inj {c : Char} {before before' after after' : List Char} (h : c ∉ before)
    (h' : c ∉ before') (heq : before ++ c :: after = before' ++ c :: after') :
    before = before' ∧ after = after' := by
  have hcut {cs : List Char} (hcs : c ∉ cs) (rest : List Char) :
      cutFirst [c] (cs ++ c :: rest) = some (cs, rest) := by
    have hnot : ¬ [c] <:+: cs ++ [] := fun hi => hcs (by simpa using hi.subset)
    simpa using cutFirst_append rest (List.cons_ne_nil c []) hnot
  have hsame : some (before, after) = some (before', after') := by
    rw [← hcut h after, ← hcut h' after', heq]
  simpa using hsame

theorem not_infix_dropLast {sep : List Char} (hsep : sep ≠ []) : ¬ sep <:+: sep.dropLast := by
  have hpos := List.length_pos_iff.2 hsep
  exact mt List.IsInfix.length_le (by rw [List.length_dropLast]; omega)

/-- No separator stands before the cut, not even in part. -/
theorem not_infix_of_cutFirst {sep cs before after : List Char} (hsep : sep ≠ [])
    (h : cutFirst sep cs = some (before, after)) : ¬ sep <:+: before ++ sep.dropLast := by
  induction cs generalizing before after with
  | nil =>
    rw [cutFirst, if_neg (by simpa using hsep)] at h
    cases h
  | cons c cs ih =>
    rw [cutFirst] at h
    split at h
    case isTrue hp =>
      obtain ⟨rfl, -⟩ : [] = before ∧ _ = after := by simpa using h
      exact not_infix_dropLast hsep
    case isFalse hp =>
      obtain ⟨⟨before, after⟩, hcut, heq⟩ := Option.map_eq_some_iff.1 h
      obtain ⟨rfl, rfl⟩ : c :: before = _ ∧ after = _ := by simpa using heq
      have hcs := cutFirst_eq_some hcut
      rw [List.cons_append, List.infix_cons_iff]
      rintro (hstart | hlater)
      · refine hp (List.isPrefixOf_iff_prefix.2 (hstart.trans ?_))
        rw [hcs, List.append_assoc, List.cons_prefix_cons]
        exact ⟨rfl, (List.prefix_append_right_inj before).2
          ((List.dropLast_prefix sep).trans (List.prefix_append sep after))⟩
      · exact ih hcut hlater

/-- A text is cut at a separator that nothing of another one stands before. -/
theorem cutFirst_eq_some_iff {sep cs before after : List Char} (hsep : sep ≠ []) :
    cutFirst sep cs = some (before, after) ↔
      cs = before ++ sep ++ after ∧ ¬ sep <:+: before ++ sep.dropLast := by
  constructor
  · intro h
    exact ⟨cutFirst_eq_some h, not_infix_of_cutFirst hsep h⟩
  · rintro ⟨rfl, h⟩
    exact cutFirst_append after hsep h

theorem splitFirst_eq_some_iff_cutFirst {sep s first second : String} :
    splitFirst sep s = some (first, second) ↔
      cutFirst sep.toList s.toList = some (first.toList, second.toList) := by
  rw [splitFirst, Option.map_eq_some_iff]
  constructor
  · rintro ⟨⟨cs, ds⟩, hcs, heq⟩
    obtain ⟨rfl, rfl⟩ : String.ofList cs = first ∧ String.ofList ds = second := by simpa using heq
    simpa using hcs
  · intro h
    exact ⟨_, h, by simp⟩

theorem splitFirst_eq_some_iff_of_ne_empty {sep s first second : String} (hsep : sep ≠ "") :
    splitFirst sep s = some (first, second) ↔
      s = first ++ sep ++ second ∧ ¬ sep.toList <:+: first.toList ++ sep.toList.dropLast := by
  have hne : sep.toList ≠ [] := by simpa using hsep
  rw [splitFirst_eq_some_iff_cutFirst, cutFirst_eq_some_iff hne, ← String.toList_inj,
    String.toList_append, String.toList_append]

/-- A character that the separator does not hold stays at the end of the second part. -/
theorem cutFirst_concat {sep : List Char} {c : Char} (hc : c ∉ sep) (cs : List Char) :
    cutFirst sep (cs ++ [c]) =
      (cutFirst sep cs).map fun (before, after) => (before, after ++ [c]) := by
  have hprefix (ds : List Char) : sep <+: ds ++ [c] ↔ sep <+: ds := by
    rw [List.prefix_concat_iff, or_iff_right]
    rintro rfl
    simp at hc
  induction cs with
  | nil =>
    have h := hprefix []
    rw [List.nil_append, List.prefix_nil] at h
    by_cases hs : sep = []
    · simp [hs, cutFirst]
    · simp [cutFirst, List.isPrefixOf_iff_prefix, h, hs]
  | cons d cs ih =>
    have h := hprefix (d :: cs)
    rw [List.cons_append] at h
    rw [List.cons_append, cutFirst, cutFirst, ih]
    simp only [List.isPrefixOf_iff_prefix, h]
    by_cases hp : sep <+: d :: cs
    · have hdrop : (d :: (cs ++ [c])).drop sep.length = (d :: cs).drop sep.length ++ [c] :=
        List.drop_append_of_le_length hp.length_le
      simp [hp, hdrop]
    · simp only [hp, if_false, Option.map_map]
      rfl

/-! ## Separators without a border -/

/-- Nothing but the whole and the empty text is both a start and an end of the separator, so two
copies of it never overlap. -/
def Unbordered (sep : List Char) : Prop :=
  ∀ part, part <+: sep → part <:+ sep → part = [] ∨ part = sep

instance (sep : List Char) : Decidable (Unbordered sep) :=
  decidable_of_iff (∀ part ∈ sep.inits, part <:+ sep → part = [] ∨ part = sep) <| by
    simp only [List.mem_inits, Unbordered]

/-- A copy that stands across the end of a text would begin with what the separator ends in. -/
theorem Unbordered.infix_append_dropLast_iff {sep before : List Char} (h : Unbordered sep)
    (hsep : sep ≠ []) : sep <:+: before ++ sep.dropLast ↔ sep <:+: before := by
  refine ⟨fun hi => ?_, fun hi => hi.trans (List.prefix_append _ _).isInfix⟩
  obtain hbefore | hpart | ⟨left, right, heq, hleft, hright⟩ := List.infix_append_iff.1 hi
  · exact hbefore
  · exact absurd hpart (not_infix_dropLast hsep)
  · have hend : right <:+ sep := heq ▸ List.suffix_append left right
    obtain rfl | rfl := h right (hright.trans (List.dropLast_prefix sep)) hend
    · rw [List.append_nil] at heq
      exact heq ▸ hleft.isInfix
    · exact absurd hright.isInfix (not_infix_dropLast hsep)

/-- A separator cuts wherever it is put behind a text without it, whatever this text ends in, iff
it has no border. -/
theorem unbordered_iff_cutFirst_append {sep : List Char} (hsep : sep ≠ []) :
    Unbordered sep ↔ ∀ before after, ¬ sep <:+: before →
      cutFirst sep (before ++ sep ++ after) = some (before, after) := by
  constructor
  · intro h before after hbefore
    exact cutFirst_append after hsep (mt (h.infix_append_dropLast_iff hsep).1 hbefore)
  · intro hcut part hstart hend
    by_contra hproper
    obtain ⟨hne, hother⟩ := not_or.1 hproper
    obtain ⟨rest, hrest⟩ := hstart
    obtain ⟨front, hfront⟩ := hend
    have hshort : front.length < sep.length := by
      rw [← hfront, List.length_append]
      have := List.length_pos_iff.2 hne
      omega
    -- `front` is the separator without its end. As this end is a start too, a copy that is put
    -- behind `front` makes another one that begins with `front`, and the line is cut there.
    have hline : front ++ sep ++ [] = [] ++ sep ++ rest := by
      calc front ++ sep ++ [] = front ++ (part ++ rest) := by rw [hrest, List.append_nil]
        _ = [] ++ sep ++ rest := by rw [← List.append_assoc, hfront, List.nil_append]
    have hearly : cutFirst sep (front ++ sep ++ []) = some ([], rest) := by
      rw [hline]
      exact cutFirst_append rest hsep (not_infix_dropLast hsep)
    have hlate := hcut front [] (mt List.IsInfix.length_le hshort.not_ge)
    obtain ⟨rfl, -⟩ : [] = front ∧ rest = [] := by simpa using hearly.symm.trans hlate
    exact hother hfront

/-! ## Lines -/

theorem dropReturn_eq (cs : List Char) : dropReturn cs = cs ∨ cs = dropReturn cs ++ ['\r'] := by
  unfold dropReturn
  split
  · rename_i h
    obtain ⟨ds, rfl⟩ := List.getLast?_eq_some_iff.1 h
    exact .inr (by rw [List.dropLast_concat])
  · exact .inl rfl

theorem linesOfPieces_cons (piece : List Char) {rest : List (List Char)} (h : rest ≠ []) :
    linesOfPieces (piece :: rest) = dropReturn piece :: linesOfPieces rest := by
  cases rest with
  | nil => contradiction
  | cons _ _ => rfl

theorem pieces_intercalate {ls : List String} (hne : ls ≠ [])
    (h : ∀ line ∈ ls, '\n' ∉ line.toList) : pieces '\n' ("\n".intercalate ls) = ls := by
  have hlines : ∀ cs ∈ ls.map String.toList, '\n' ∉ cs := by simpa using h
  rw [pieces, String.toList_intercalate]
  change ((['\n'].intercalate (ls.map String.toList)).splitOn '\n').map String.ofList = ls
  rw [List.splitOn_intercalate '\n' hlines (by simpa using hne)]
  simp

/-! ## Parts -/

/-- The parts of a text between the places of a character, but for those that are empty. -/
def parts (c : Char) (s : String) : List String := (pieces c s).filter (· != "")

theorem pieces_append {sep : String} {c : Char} (hsep : sep.toList = [c]) (s t : String) :
    pieces c (s ++ sep ++ t) = pieces c s ++ pieces c t := by
  rw [pieces, String.toList_append, String.toList_append, hsep, List.append_assoc,
    List.singleton_append, List.splitOn_append_cons_self, List.map_append]
  rfl

theorem pieces_eq_singleton {c : Char} {s : String} (h : c ∉ s.toList) : pieces c s = [s] := by
  rw [pieces, List.splitOn_eq_singleton h, List.map_singleton, String.ofList_toList]

/-- The first piece is all that stands before the first place of the character. -/
theorem head?_pieces (c : Char) (s : String) : (pieces c s).head? = some (before c s) := by
  by_cases h : c ∈ s.toList
  · have hsep : (String.singleton c).toList = [c] := by simp
    obtain ⟨key, rest, hkey, rfl⟩ := exists_before hsep h
    rw [pieces_append hsep, pieces_eq_singleton hkey, before_append_sep hsep hkey]
    rfl
  · rw [pieces_eq_singleton h, before_eq_self h]
    rfl

theorem parts_eq_singleton {c : Char} {s : String} (hne : s ≠ "") (h : c ∉ s.toList) :
    parts c s = [s] := by
  rw [parts, pieces_eq_singleton h]
  simpa using hne

/-- The parts of texts that were put together are those of each of them. -/
theorem parts_intercalate {sep : String} {c : Char} (hsep : sep.toList = [c]) (ls : List String) :
    parts c (sep.intercalate ls) = ls.flatMap (parts c) := by
  induction ls with
  | nil => simp [parts, pieces]
  | cons s rest ih =>
    cases rest with
    | nil => simp
    | cons t rest =>
      rw [String.intercalate_cons_cons, parts, pieces_append hsep, List.filter_append,
        List.flatMap_cons, ← ih]
      rfl

theorem not_mem_intercalate {sep : String} {c : Char} (hsep : c ∉ sep.toList) {ls : List String}
    (h : ∀ s ∈ ls, c ∉ s.toList) : c ∉ (sep.intercalate ls).toList := by
  induction ls with
  | nil => simp
  | cons s rest ih =>
    cases rest with
    | nil => simpa using h
    | cons t rest =>
      rw [List.forall_mem_cons] at h
      rw [String.intercalate_cons_cons, String.toList_append, String.toList_append,
        List.mem_append, List.mem_append]
      rintro ((hs | hs) | hs)
      · exact h.1 hs
      · exact hsep hs
      · exact ih h.2 hs

/-- No piece holds a character at which a text was cut. -/
theorem eq_false_of_mem_splitOnP {p : Char → Bool} {cs piece : List Char}
    (h : piece ∈ cs.splitOnP p) {c : Char} (hc : c ∈ piece) : p c = false := by
  induction cs generalizing piece with
  | nil =>
    obtain rfl : piece = [] := by simpa using h
    cases hc
  | cons d cs ih =>
    obtain ⟨first, rest, hsplit⟩ := List.exists_cons_of_ne_nil (List.splitOnP_ne_nil p cs)
    rw [List.splitOnP_cons_eq_if_modifyHead, hsplit] at h
    rw [hsplit] at ih
    cases hd : p d with
    | true =>
      rw [hd, if_pos rfl] at h
      rcases List.mem_cons.1 h with rfl | h
      · cases hc
      · exact ih h hc
    | false =>
      rw [hd, if_neg Bool.false_ne_true, List.modifyHead_cons] at h
      rcases List.mem_cons.1 h with rfl | h
      · rcases List.mem_cons.1 hc with rfl | hc
        · exact hd
        · exact ih List.mem_cons_self hc
      · exact ih (List.mem_cons_of_mem _ h) hc

theorem not_mem_of_mem_splitOn {c : Char} {cs piece : List Char} (h : piece ∈ cs.splitOn c) :
    c ∉ piece := by
  intro hc
  have hfalse := eq_false_of_mem_splitOnP (p := (· == c)) h hc
  simp at hfalse

/-- No piece holds the character at which the text was cut. -/
theorem not_mem_of_mem_pieces {c : Char} {s piece : String} (h : piece ∈ pieces c s) :
    c ∉ piece.toList := by
  obtain ⟨cs, hcs, rfl⟩ := List.mem_map.1 h
  rw [String.toList_ofList]
  exact not_mem_of_mem_splitOn hcs

/-! ## Words -/

/-- A word is not empty, and no character of it is blank. -/
theorem of_mem_words {s word : String} (h : word ∈ words s) :
    word ≠ "" ∧ ∀ c ∈ word.toList, isBlank c = false := by
  obtain ⟨cs, hcs, rfl⟩ := List.mem_map.1 h
  obtain ⟨hmem, hne⟩ := List.mem_filter.1 hcs
  rw [String.toList_ofList]
  exact ⟨by simpa using hne, fun c hc => eq_false_of_mem_splitOnP hmem hc⟩

theorem words_eq_singleton {s : String} (hne : s ≠ "")
    (h : ∀ c ∈ s.toList, isBlank c = false) : words s = [s] := by
  have hlist : s.toList ≠ [] := by simpa using hne
  rw [words, List.splitOnP_eq_singleton h]
  simp [hlist]

theorem words_append_cons (cs ds : List Char) {c : Char} (hc : isBlank c) :
    words (String.ofList (cs ++ c :: ds)) =
      words (String.ofList cs) ++ words (String.ofList ds) := by
  simp only [words, String.toList_ofList, List.splitOnP_append_cons cs ds hc, List.filter_append,
    List.map_append]

theorem words_append_of_blank (cs : List Char) {padding : List Char}
    (h : ∀ c ∈ padding, isBlank c) :
    words (String.ofList (cs ++ padding)) = words (String.ofList cs) := by
  induction padding generalizing cs with
  | nil => rw [List.append_nil]
  | cons c rest ih =>
    rw [List.forall_mem_cons] at h
    have hrest : words (String.ofList rest) = [] := by simpa [words] using ih [] h.2
    rw [words_append_cons cs rest h.1, hrest, List.append_nil]

theorem words_append_left_of_blank (cs : List Char) {padding : List Char}
    (h : ∀ c ∈ padding, isBlank c) :
    words (String.ofList (padding ++ cs)) = words (String.ofList cs) := by
  induction padding with
  | nil => rfl
  | cons c rest ih =>
    rw [List.forall_mem_cons] at h
    have hempty : words (String.ofList []) = [] := rfl
    rw [← ih h.2, List.cons_append, ← List.nil_append (c :: (rest ++ cs)),
      words_append_cons [] (rest ++ cs) h.1, hempty, List.nil_append]

/-- What is left when the places of a character at the end are dropped. -/
theorem dropTrailing_eq_iff {c : Char} {cs ds : List Char} :
    dropTrailing (· == c) cs = ds ↔
      (∃ n, cs = ds ++ List.replicate n c) ∧ ds.getLast? ≠ some c := by
  have hdrop (l : List Char) : dropTrailing (· == c) l = l.rdropWhile (· == c) := rfl
  rw [hdrop]
  constructor
  · rintro rfl
    refine ⟨⟨(cs.rtakeWhile (· == c)).length, ?_⟩, ?_⟩
    · have hall : cs.rtakeWhile (· == c) =
          List.replicate (cs.rtakeWhile (· == c)).length c :=
        List.eq_replicate_of_mem fun d hd => by simpa using List.mem_rtakeWhile_imp hd
      rw [← hall, List.rdropWhile_append_rtakeWhile]
    · intro hlast
      obtain ⟨ds, hds⟩ := List.getLast?_eq_some_iff.1 hlast
      have hne : cs.rdropWhile (· == c) ≠ [] := by simp [hds]
      have hnot := List.rdropWhile_last_not (· == c) cs hne
      simp [hds] at hnot
  · rintro ⟨⟨n, rfl⟩, hlast⟩
    induction n with
    | zero =>
      rw [List.replicate_zero, List.append_nil, List.rdropWhile_eq_self_iff]
      intro hne hc
      rw [List.getLast?_eq_some_getLast hne, beq_iff_eq.1 hc] at hlast
      exact hlast rfl
    | succ n ih =>
      rw [List.replicate_succ', ← List.append_assoc,
        List.rdropWhile_concat_pos (· == c) _ _ (beq_self_eq_true c), ih]

/-! ## The last word of a line -/

/-- A line ends in a word: blanks may follow it, and a blank stands before it unless it begins the
line. -/
def EndsIn (line word : String) : Prop :=
  ∃ front trail, line = front ++ word ++ trail ∧ isBlankText trail ∧
    (∀ c, front.toList.getLast? = some c → isBlank c) ∧ word ≠ "" ∧
    ∀ c ∈ word.toList, isBlank c = false

theorem getLast?_words_of_endsIn {line word : String} (h : EndsIn line word) :
    (words line).getLast? = some word := by
  obtain ⟨front, trail, rfl, htrail, hfront, hne, hword⟩ := h
  have hself := words_eq_singleton hne hword
  have hlist : front ++ word ++ trail =
      String.ofList (front.toList ++ word.toList ++ trail.toList) := by
    apply String.toList_injective
    simp
  rw [hlist, words_append_of_blank _ (List.all_eq_true.1 htrail)]
  cases hlast : front.toList.getLast? with
  | none =>
    rw [List.getLast?_eq_none_iff.1 hlast, List.nil_append, String.ofList_toList, hself]
    rfl
  | some c =>
    obtain ⟨before, hbefore⟩ := List.getLast?_eq_some_iff.1 hlast
    rw [hbefore, List.append_assoc, List.singleton_append, words_append_cons _ _ (hfront c hlast),
      String.ofList_toList, hself, List.getLast?_concat]

/-- A line with a word in it ends in one. -/
theorem exists_endsIn {line : String} (h : words line ≠ []) : ∃ word, EndsIn line word := by
  let core := line.toList.rdropWhile isBlank
  have hline : core ++ line.toList.rtakeWhile isBlank = line.toList :=
    List.rdropWhile_append_rtakeWhile
  have hcore : core.rdropWhile (!isBlank ·) ++ core.rtakeWhile (!isBlank ·) = core :=
    List.rdropWhile_append_rtakeWhile
  have hne : core ≠ [] := by
    intro hnil
    have hblank : ∀ c ∈ line.toList, isBlank c := List.rdropWhile_eq_nil_iff.1 hnil
    have hnone := words_append_of_blank [] hblank
    rw [List.nil_append, String.ofList_toList] at hnone
    exact h hnone
  refine ⟨String.ofList (core.rtakeWhile (!isBlank ·)),
    String.ofList (core.rdropWhile (!isBlank ·)), String.ofList (line.toList.rtakeWhile isBlank),
    ?_, ?_, ?_, ?_, ?_⟩
  · apply String.toList_injective
    simp [hcore, hline]
  · rw [isBlankText, List.all_eq_true, String.toList_ofList]
    exact fun c hc => List.mem_rtakeWhile_imp hc
  · intro c hc
    rw [String.toList_ofList] at hc
    have hfront : core.rdropWhile (!isBlank ·) ≠ [] := by
      rintro hnil
      rw [hnil] at hc
      cases hc
    have hnot := List.rdropWhile_last_not (!isBlank ·) core hfront
    rw [List.getLast?_eq_some_getLast hfront, Option.some.injEq] at hc
    simpa [hc] using hnot
  · have hlast : isBlank (core.getLast hne) = false :=
      Bool.eq_false_iff.2 (List.rdropWhile_last_not isBlank line.toList hne)
    intro hempty
    have hnil : core.rtakeWhile (!isBlank ·) = [] := by simpa using hempty
    simpa [hlast] using List.rtakeWhile_eq_nil_iff.1 hnil hne
  · intro c hc
    rw [String.toList_ofList] at hc
    simpa using List.mem_rtakeWhile_imp hc

theorem getLast?_words_eq_some_iff {line word : String} :
    (words line).getLast? = some word ↔ EndsIn line word := by
  refine ⟨fun h => ?_, getLast?_words_of_endsIn⟩
  have hne : words line ≠ [] := by
    intro hnil
    rw [hnil] at h
    cases h
  obtain ⟨other, hother⟩ := exists_endsIn hne
  have hsame := getLast?_words_of_endsIn hother
  rw [h, Option.some.injEq] at hsame
  exact hsame ▸ hother

end RaidProvision.Text

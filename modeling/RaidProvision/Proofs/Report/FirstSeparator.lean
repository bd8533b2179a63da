import RaidProvision.Proofs.Report.KeyValue

/-!
# The first separator of a line

A line is cut where the first separator in it begins. What stands behind may hold the separator
again, and may begin with a part of it; what stands before never holds it. The separators of the
reports have one colon, so a key without a colon is always whole, whatever blanks and whatever
value follow it.

* `CutsFirst.of_none_earlier`: an occurrence that begins earlier would stand in the key and a part
  of the separator.
* `CutsFirst.front_free`, `splitFirst_of_occurs`: the first of the two texts holds no separator, and
  every line with one has such texts.
* `not_infix_append_dropLast`: there is none if the key lacks a character of the separator.
* `keyValue_padded`: a key and a value with blanks around both.
* `keyValue_cuts_first`: which lines are cut, where, and what is found again.
-/
namespace RaidProvision.Report

open RaidProvision.Text

/-- A separator stands somewhere in a line. -/
def Occurs (sep line : String) : Prop := ∃ front back, line = front ++ sep ++ back

/-- A line is two texts with a separator between, and no occurrence of the separator begins before
the first of them ends. -/
structure CutsFirst (sep line front back : String) : Prop where
  line_eq : line = front ++ sep ++ back
  earliest : ∀ other rest, line = other ++ sep ++ rest → front.length ≤ other.length

variable {sep line : String}

theorem occurs_iff : Occurs sep line ↔ sep.toList <:+: line.toList := by
  constructor
  · rintro ⟨front, back, rfl⟩
    exact ⟨front.toList, back.toList, by simp⟩
  · rintro ⟨front, back, hline⟩
    refine ⟨String.ofList front, String.ofList back, String.toList_inj.1 ?_⟩
    simpa using hline.symm

/-- A separator that begins before the first text ends stands in this text and all but the last
character of the separator behind it. -/
theorem CutsFirst.of_none_earlier {front : String} (back : String)
    (h : ¬ sep.toList <:+: front.toList ++ sep.toList.dropLast) :
    CutsFirst sep (front ++ sep ++ back) front back where
  line_eq := rfl
  earliest other rest hline := by
    by_contra hearly
    have hlist : front.toList ++ sep.toList ++ back.toList =
        other.toList ++ sep.toList ++ rest.toList := by
      simpa only [String.toList_append] using congrArg String.toList hline
    have hend : front.toList ++ sep.toList.dropLast <+:
        front.toList ++ sep.toList ++ back.toList := by
      rw [List.append_assoc, List.prefix_append_right_inj]
      exact (List.dropLast_prefix _).trans (List.prefix_append _ _)
    have hother : other.toList ++ sep.toList <+: front.toList ++ sep.toList ++ back.toList := by
      rw [hlist]
      exact List.prefix_append _ _
    have hlength : (other.toList ++ sep.toList).length ≤
        (front.toList ++ sep.toList.dropLast).length := by
      simp only [List.length_append, List.length_dropLast, String.length_toList]
      omega
    exact h ((List.suffix_append _ _).isInfix.trans
      (List.prefix_of_prefix_length_le hother hend hlength).isInfix)

instance : Decidable (Occurs sep line) := decidable_of_iff _ occurs_iff.symm

/-- The first text holds no separator: one in it would begin before the text ends. -/
theorem CutsFirst.front_free {front back : String} (hsep : sep ≠ "")
    (h : CutsFirst sep line front back) : ¬ Occurs sep front := by
  rintro ⟨other, rest, hfront⟩
  have hle := h.earliest other (rest ++ sep ++ back) (by
    rw [h.line_eq, hfront]
    simp only [String.append_assoc])
  have hpos : 0 < sep.length := by
    rw [← String.length_toList, List.length_pos_iff]
    simpa using hsep
  rw [hfront, String.length_append, String.length_append] at hle
  omega

theorem splitFirst_of_occurs (hsep : sep ≠ "") (h : Occurs sep line) :
    ∃ front back, CutsFirst sep line front back ∧ splitFirst sep line = some (front, back) := by
  have hsome : (splitFirst sep line).isSome := by
    rw [splitFirst, Option.isSome_map, isSome_cutFirst_iff]
    exact occurs_iff.1 h
  obtain ⟨⟨front, back⟩, hsplit⟩ := Option.isSome_iff_exists.1 hsome
  obtain ⟨rfl, hfirst⟩ := (splitFirst_eq_some_iff_of_ne_empty hsep).1 hsplit
  exact ⟨front, back, .of_none_earlier back hfirst, hsplit⟩

theorem keyValue_of_occurs (hsep : sep ≠ "") (h : Occurs sep line) :
    ∃ front back, CutsFirst sep line front back ∧
      keyValue sep line = some (trim front, trim back) := by
  obtain ⟨front, back, hcut, hsplit⟩ := splitFirst_of_occurs hsep h
  exact ⟨front, back, hcut, by rw [keyValue, hsplit, Option.map_some]⟩

theorem keyValue_eq_none_iff : keyValue sep line = none ↔ ¬ Occurs sep line := by
  rw [occurs_iff, ← contains_iff, ← keyValue_isSome_iff, Option.not_isSome_iff_eq_none]

theorem infix_of_trim (s : String) : (trim s).toList <:+: s.toList := by
  rw [toList_trim]
  exact (List.rdropWhile_prefix isBlank _).isInfix.trans (List.dropWhile_suffix isBlank).isInfix

/-- The key is a part of the first text and so holds no separator either. -/
theorem CutsFirst.key_free {front back : String} (hsep : sep ≠ "")
    (h : CutsFirst sep line front back) : ¬ Occurs sep (trim front) := by
  intro hkey
  exact h.front_free hsep (occurs_iff.2 ((occurs_iff.1 hkey).trans (infix_of_trim front)))

/-! ## Separators with one colon -/

/-- A separator with a character that stands in it once, behind a text without this character, is
found nowhere but at its own place. -/
theorem not_infix_append_dropLast {cs left right : List Char} {c : Char} (hcs : c ∉ cs)
    (hleft : c ∉ left) (hright : c ∉ right) :
    ¬ left ++ c :: right <:+: cs ++ (left ++ c :: right).dropLast := by
  rintro ⟨front, back, hline⟩
  rw [List.dropLast_append_of_ne_nil (List.cons_ne_nil c right)] at hline
  cases right with
  | nil =>
    have hmem : c ∈ cs ++ (left ++ [c].dropLast) := hline ▸ by simp
    simp [hcs, hleft] at hmem
  | cons d right =>
    have hdrop : c ∉ (d :: right).dropLast := fun hmem => hright (List.mem_of_mem_dropLast hmem)
    have hcount := congrArg (List.count c) hline
    simp only [List.count_append, List.count_cons_self, List.dropLast_cons_cons,
      List.count_eq_zero.2 hcs, List.count_eq_zero.2 hleft, List.count_eq_zero.2 hdrop] at hcount
    have hfront : c ∉ front ++ left := by
      rw [← List.count_eq_zero, List.count_append, List.count_eq_zero.2 hleft]
      omega
    have hlater : c ∉ cs ++ left := by simp [hcs, hleft]
    have hsame : front ++ left ++ c :: (d :: right ++ back) =
        cs ++ left ++ c :: (d :: right).dropLast := by
      simpa using hline
    have hlength := congrArg List.length (append_cons_inj hfront hlater hsame).2
    simp at hlength
    omega

/-- Keys end at a colon, with a blank on both sides of it or none. -/
def separators : List String := [":", " : "]

theorem exists_colon_of_mem_separators (h : sep ∈ separators) :
    ∃ left right, sep.toList = left ++ ':' :: right ∧ ':' ∉ left ∧ ':' ∉ right := by
  simp only [separators, List.mem_cons, List.not_mem_nil, or_false] at h
  obtain rfl | rfl := h
  · exact ⟨[], [], rfl, by simp, by simp⟩
  · exact ⟨[' '], [' '], rfl, by simp, by simp⟩

/-- A key without a colon and a value are found again, whatever blanks stand around both. -/
theorem keyValue_padded (hsep : sep ∈ separators) {lead key gap space value trail : String}
    (hlead : isBlankText lead) (hgap : isBlankText gap) (hspace : isBlankText space)
    (htrail : isBlankText trail) (hkey : ':' ∉ key.toList) :
    keyValue sep (lead ++ key ++ gap ++ sep ++ (space ++ value ++ trail)) =
      some (trim key, trim value) := by
  obtain ⟨left, right, hlist, hleft, hright⟩ := exists_colon_of_mem_separators hsep
  have hcolon : isBlank ':' = false := by decide
  have hfree : ':' ∉ (lead ++ key ++ gap).toList := by
    simp [hkey, not_mem_of_isBlankText hlead hcolon, not_mem_of_isBlankText hgap hcolon]
  have hne : sep ≠ "" := by
    rintro rfl
    simp at hlist
  have hfirst : ¬ sep.toList <:+: (lead ++ key ++ gap).toList ++ sep.toList.dropLast := by
    rw [hlist]
    exact not_infix_append_dropLast hfree hleft hright
  rw [keyValue_append _ hne hfirst, trim_padded hlead hgap, trim_padded hspace htrail]

/-- **A line is cut at its first separator.** A line without the separator is not cut. Any other is
two texts with the separator between, and no separator begins before the first one ends; the key and
the value are these two without the blanks around them, and the key holds no separator. With the
separators of the reports, a key without a colon and any value are found again as they were. -/
theorem keyValue_cuts_first :
    (∀ sep line, sep ≠ "" →
      (keyValue sep line = none ↔ ¬ Occurs sep line) ∧
      (Occurs sep line → ∃ front back, CutsFirst sep line front back ∧
        keyValue sep line = some (trim front, trim back) ∧ ¬ Occurs sep (trim front))) ∧
    ∀ sep ∈ separators, ∀ lead key gap space value trail : String,
      isBlankText lead → isBlankText gap → isBlankText space → isBlankText trail →
      trim key = key → ':' ∉ key.toList → trim value = value →
      keyValue sep (lead ++ key ++ gap ++ sep ++ (space ++ value ++ trail)) =
        some (key, value) := by
  refine ⟨fun sep line hsep => ⟨keyValue_eq_none_iff, fun hoccurs => ?_⟩, ?_⟩
  · obtain ⟨front, back, hcut, hkv⟩ := keyValue_of_occurs hsep hoccurs
    exact ⟨front, back, hcut, hkv, hcut.key_free hsep⟩
  · intro sep hsep lead key gap space value trail hlead hgap hspace htrail htrim hkey hvalue
    rw [keyValue_padded hsep hlead hgap hspace htrail hkey, htrim, hvalue]

/-- The value holds the separator again, and begins with the end of one. -/
theorem keyValue_cuts_first_repeated :
    (∃ front back, CutsFirst "::" "a:::b::" front back ∧
      keyValue "::" "a:::b::" = some (trim front, trim back) ∧ ¬ Occurs "::" (trim front)) ∧
    keyValue " : " ("\t" ++ "Slot" ++ "  " ++ " : " ++ ("" ++ ": 3 : 4" ++ "\r")) =
      some ("Slot", ": 3 : 4") :=
  ⟨(keyValue_cuts_first.1 "::" "a:::b::" (by decide)).2 ⟨"a", ":b::", rfl⟩,
    keyValue_cuts_first.2 " : " (by decide) "\t" "Slot" "  " "" ": 3 : 4" "\r" (by decide)
      (by decide) (by decide) (by decide) (by decide) (by decide) (by decide)⟩

end RaidProvision.Report

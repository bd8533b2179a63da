import Mathlib.Data.List.Infix
import RaidProvision.Proofs.Text.Cut
import RaidProvision.Report.Line

/-!
# Keys and values as they were written

Blanks around a text do not count once it is trimmed. So a key and a value are found again whatever
blanks stand around them and however the line ends, if no separator stands before the one between
them.

* `strip_append_of_blank`, `strip_append_left_of_blank`: blanks behind and before a text.
* `strip_of_not_blank`: a text without blanks.
* `trim_padded`: blanks on both sides of a text.
* `strip_strip`, `trim_trim`: trimming twice is trimming once.
* `words_trim`: trimming takes no word away.
* `keyValue_append`: a key and a value are found on both sides of a separator.
* `keyValue_eq_some_iff`, `keyValue_colon_eq_some_iff`: which key and value a line has.
* `keyValue_dropReturn`, `contains_dropReturn`, `trim_dropReturn`: a carriage return at the end of
  a line.
-/
namespace RaidProvision.Text

theorem strip_append_of_blank {cs padding : List Char} (h : ∀ c ∈ padding, isBlank c) :
    strip (cs ++ padding) = strip cs := by
  have hreverse : ∀ c ∈ padding.reverse, isBlank c := fun c hc => h c (List.mem_reverse.1 hc)
  rw [strip, strip, List.dropWhile_append]
  split
  · rename_i hcs
    have hpadding : (padding ++ []).dropWhile isBlank = [] := List.dropWhile_append_of_pos h
    rw [List.append_nil] at hpadding
    rw [hpadding, List.isEmpty_iff.1 hcs]
  · rw [dropTrailing, dropTrailing, List.reverse_append, List.dropWhile_append_of_pos hreverse]

theorem strip_append_left_of_blank {cs padding : List Char} (h : ∀ c ∈ padding, isBlank c) :
    strip (padding ++ cs) = strip cs := by
  rw [strip, strip, List.dropWhile_append_of_pos h]

theorem strip_of_not_blank {cs : List Char} (h : ∀ c ∈ cs, isBlank c = false) : strip cs = cs := by
  have hkeep {ds : List Char} (hds : ∀ c ∈ ds, isBlank c = false) : ds.dropWhile isBlank = ds := by
    cases ds with
    | nil => rfl
    | cons d ds => exact List.dropWhile_cons_of_neg (by simp [hds d List.mem_cons_self])
  have hreverse : ∀ c ∈ cs.reverse, isBlank c = false := fun c hc => h c (List.mem_reverse.1 hc)
  rw [strip, hkeep h, dropTrailing, hkeep hreverse, List.reverse_reverse]

theorem strip_strip (cs : List Char) : strip (strip cs) = strip cs := by
  have hfirst : (strip cs).dropWhile isBlank = strip cs := by
    cases hstrip : strip cs with
    | nil => rfl
    | cons c rest =>
      have hprefix : c :: rest <+: cs.dropWhile isBlank :=
        hstrip ▸ List.rdropWhile_prefix isBlank (cs.dropWhile isBlank)
      obtain ⟨ds, hds⟩ := hprefix
      have hnot := List.head?_dropWhile_not isBlank cs
      rw [← hds] at hnot
      exact List.dropWhile_cons_of_neg (by simpa using hnot)
  rw [strip, hfirst]
  exact List.rdropWhile_idempotent isBlank (cs.dropWhile isBlank)

theorem trim_padded {lead trail : String} (hlead : isBlankText lead) (htrail : isBlankText trail)
    (s : String) : trim (lead ++ s ++ trail) = trim s := by
  rw [← String.toList_inj, toList_trim, toList_trim, String.toList_append, String.toList_append,
    strip_append_of_blank (List.all_eq_true.1 htrail),
    strip_append_left_of_blank (List.all_eq_true.1 hlead)]

theorem trim_trim (s : String) : trim (trim s) = trim s := by
  rw [← String.toList_inj, toList_trim, toList_trim, strip_strip]

theorem dropWhile_append_cons {p : Char → Bool} {c : Char} (hc : p c = false)
    (front back : List Char) :
    (front ++ c :: back).dropWhile p = front.dropWhile p ++ c :: back := by
  rw [List.dropWhile_append]
  split
  case isTrue h =>
    rw [List.isEmpty_iff.1 h, List.nil_append, List.dropWhile_cons_of_neg (by simp [hc])]
  case isFalse => rfl

/-- A character that is not blank keeps the blanks before it and behind it apart. -/
theorem strip_append_cons {c : Char} (hc : isBlank c = false) (front back : List Char) :
    strip (front ++ c :: back) = front.dropWhile isBlank ++ c :: dropTrailing isBlank back := by
  rw [strip, dropWhile_append_cons hc, dropTrailing, List.reverse_append, List.reverse_cons,
    List.append_assoc, List.singleton_append, dropWhile_append_cons hc, List.reverse_append,
    List.reverse_cons, List.reverse_reverse, List.append_assoc, List.singleton_append]
  rfl

/-- It makes no difference if blanks are taken off before a text is cut. -/
theorem trim_before_trim {c : Char} (hc : isBlank c = false) (s : String) :
    trim (before c (trim s)) = trim (before c s) := by
  by_cases h : c ∈ s.toList
  · have hsep : (String.singleton c).toList = [c] := by simp
    obtain ⟨key, rest, hkey, rfl⟩ := exists_before hsep h
    have hlead : c ∉ key.toList.dropWhile isBlank := fun hmem =>
      hkey ((List.dropWhile_suffix isBlank).subset hmem)
    have htrim : trim (key ++ String.singleton c ++ rest) =
        String.ofList (key.toList.dropWhile isBlank) ++ String.singleton c ++
          String.ofList (dropTrailing isBlank rest.toList) := by
      apply String.toList_injective
      simp [strip_append_cons hc]
    rw [before_append_sep hsep hkey, htrim, before_append_sep hsep (by simpa using hlead)]
    rw [trim, trim, String.toList_ofList, strip, strip, List.dropWhile_idempotent]
  · have hstrip : c ∉ (trim s).toList := by
      rw [toList_trim]
      intro hmem
      exact h ((List.dropWhile_suffix isBlank).subset
        ((List.rdropWhile_prefix isBlank _).subset hmem))
    rw [before_eq_self h, before_eq_self hstrip, trim_trim]

theorem words_trim (s : String) : words (trim s) = words s := by
  have hbefore : ∀ c ∈ s.toList.takeWhile isBlank, isBlank c := fun c hc =>
    List.mem_takeWhile_imp hc
  have hbehind : ∀ c ∈ (s.toList.dropWhile isBlank).rtakeWhile isBlank, isBlank c := fun c hc =>
    List.mem_rtakeWhile_imp hc
  have hcore : strip s.toList ++ (s.toList.dropWhile isBlank).rtakeWhile isBlank =
      s.toList.dropWhile isBlank :=
    List.rdropWhile_append_rtakeWhile
  calc words (trim s)
      = words (String.ofList (strip s.toList ++
          (s.toList.dropWhile isBlank).rtakeWhile isBlank)) :=
        (words_append_of_blank _ hbehind).symm
    _ = words (String.ofList (s.toList.takeWhile isBlank ++ s.toList.dropWhile isBlank)) := by
        rw [hcore, words_append_left_of_blank _ hbefore]
    _ = words s := by rw [List.takeWhile_append_dropWhile, String.ofList_toList]

theorem not_mem_of_isBlankText {s : String} {c : Char} (h : isBlankText s)
    (hc : isBlank c = false) : c ∉ s.toList := by
  intro hmem
  rw [List.all_eq_true.1 h c hmem] at hc
  cases hc

end RaidProvision.Text

namespace RaidProvision.Report

open RaidProvision.Text

theorem keyValue_append {sep key : String} (value : String) (hsep : sep ≠ "")
    (h : ¬ sep.toList <:+: key.toList ++ sep.toList.dropLast) :
    keyValue sep (key ++ sep ++ value) = some (trim key, trim value) := by
  rw [keyValue, (splitFirst_eq_some_iff_of_ne_empty hsep).2 ⟨rfl, h⟩, Option.map_some]

theorem keyValue_eq_some_iff {sep line key value : String} (hsep : sep ≠ "") :
    keyValue sep line = some (key, value) ↔
      ∃ before after, line = before ++ sep ++ after ∧
        ¬ sep.toList <:+: before.toList ++ sep.toList.dropLast ∧
        key = trim before ∧ value = trim after := by
  constructor
  · intro h
    obtain ⟨⟨before, after⟩, hsplit, hparts⟩ := Option.map_eq_some_iff.1 h
    obtain ⟨rfl, rfl⟩ : trim before = key ∧ trim after = value := by simpa using hparts
    obtain ⟨hline, hfirst⟩ := (splitFirst_eq_some_iff_of_ne_empty hsep).1 hsplit
    exact ⟨before, after, hline, hfirst, rfl, rfl⟩
  · rintro ⟨before, after, rfl, hfirst, rfl, rfl⟩
    exact keyValue_append after hsep hfirst

/-- The key and the value of a line with a colon: the trimmed texts before and behind the first. -/
theorem keyValue_colon_eq_some_iff {line key value : String} :
    keyValue ":" line = some (key, value) ↔
      ∃ before after, ':' ∉ before.toList ∧ line = before ++ ":" ++ after ∧ key = trim before ∧
        value = trim after := by
  have hfree (before : String) :
      ¬ ":".toList <:+: before.toList ++ ":".toList.dropLast ↔ ':' ∉ before.toList := by
    have hlast : ":".toList.dropLast = [] := rfl
    rw [hlast, List.append_nil]
    exact (List.singleton_infix_iff _ _).not
  have hsep : ":" ≠ "" := by decide
  simp only [keyValue_eq_some_iff hsep, hfree]
  refine exists_congr fun before => exists_congr fun after => ?_
  exact and_left_comm

/-- What stands behind the first colon of a line. -/
theorem valueAfterColon_eq_ok_iff {line value : String} :
    valueAfterColon line = .ok value ↔
      ∃ key rest, ':' ∉ key.toList ∧ line = key ++ ":" ++ rest ∧ value = trim rest := by
  have hparts : valueAfterColon line = .ok value ↔
      ∃ key, keyValue ":" line = some (key, value) := by
    rw [valueAfterColon]
    split
    case h_1 key value' h => simp [h]
    case h_2 h => simp [h]
  simp only [hparts, keyValue_colon_eq_some_iff]
  constructor
  · rintro ⟨_, key, rest, hkey, rfl, -, rfl⟩
    exact ⟨key, rest, hkey, rfl, rfl⟩
  · rintro ⟨key, rest, hkey, rfl, rfl⟩
    exact ⟨_, key, rest, hkey, rfl, rfl, rfl⟩

theorem keyValue_eq_none {sep line : String} (h : ¬ sep.toList <:+: line.toList) :
    keyValue sep line = none := by
  rw [← contains_iff, ← keyValue_isSome_iff] at h
  simpa using h

theorem isBlankText_dropReturn (cs : List Char) :
    isBlankText (String.ofList (dropReturn cs)) = isBlankText (String.ofList cs) := by
  rcases dropReturn_eq cs with hcs | hcs
  · rw [hcs]
  · have hblank : isBlank '\r' = true := rfl
    generalize dropReturn cs = ds at hcs
    subst hcs
    simp [isBlankText, hblank]

theorem trim_dropReturn (cs : List Char) :
    trim (String.ofList (dropReturn cs)) = trim (String.ofList cs) := by
  rcases dropReturn_eq cs with hcs | hcs
  · rw [hcs]
  · have hblank : ∀ c ∈ ['\r'], isBlank c := List.forall_mem_singleton.2 rfl
    generalize dropReturn cs = ds at hcs
    subst hcs
    simp [trim, strip_append_of_blank hblank]

theorem contains_dropReturn {needle : String} (h : '\r' ∉ needle.toList) (cs : List Char) :
    contains needle (String.ofList (dropReturn cs)) = contains needle (String.ofList cs) := by
  rcases dropReturn_eq cs with hcs | hcs
  · rw [hcs]
  · generalize dropReturn cs = ds at hcs
    subst hcs
    simp [contains, cutFirst_concat h]

theorem keyValue_dropReturn {sep : String} (h : '\r' ∉ sep.toList) (cs : List Char) :
    keyValue sep (String.ofList (dropReturn cs)) = keyValue sep (String.ofList cs) := by
  rcases dropReturn_eq cs with hcs | hcs
  · rw [hcs]
  · have hblank : ∀ c ∈ ['\r'], isBlank c := List.forall_mem_singleton.2 rfl
    generalize dropReturn cs = ds at hcs
    subst hcs
    simp only [keyValue, splitFirst, String.toList_ofList, cutFirst_concat h, Option.map_map]
    refine Option.map_congr fun parts _ => ?_
    simp [trim, strip_append_of_blank hblank]

end RaidProvision.Report

import RaidProvision.Text.Ascii
import RaidProvision.Text.Blank
import RaidProvision.Text.Unsigned

/-!
# Texts that are numbers

A number may be written with a plus and with any zeros in front. A text is read as a number iff it
is one of its numerals and the number is below the bound, however many digits there are.

* `digits_toDigits`, `Digits.zeros`: the digits of a number as they are written.
* `not_numeral_of_sameFold_max`: a text that is no number.
* `readDigits_eq_ok_iff`: digits behind the number of others, by induction on them.
* `readUnsigned_eq_ok_iff`, `readUInt64_eq_ok_iff`, `readUInt32_eq_ok_iff`: whole texts.
-/
namespace RaidProvision.Text

/-- Characters are the digits of a number, perhaps with zeros in front of them. -/
structure Digits (n : Nat) (ds : List Char) : Prop where
  ne_nil : ds ≠ []
  isDigit : ∀ c ∈ ds, c.isDigit = true
  value : Nat.ofDigitChars 10 ds 0 = n

/-- A text is a number: its digits, perhaps with a plus in front of them. -/
def Numeral (n : Nat) (s : String) : Prop :=
  Digits n s.toList ∨ ∃ ds, s.toList = '+' :: ds ∧ Digits n ds

theorem Digits.not_plus {n : Nat} {ds : List Char} : ¬ Digits n ('+' :: ds) := by
  intro h
  have hplus := h.isDigit '+' List.mem_cons_self
  cases hplus

/-- A numeral holds digits and a plus, and nothing else. -/
theorem Numeral.isDigit_or_plus {n : Nat} {s : String} (h : Numeral n s) :
    ∀ c ∈ s.toList, c.isDigit ∨ c = '+' := by
  intro c hc
  rcases h with h | ⟨ds, hs, h⟩
  · exact .inl (h.isDigit c hc)
  · rw [hs] at hc
    rcases List.mem_cons.1 hc with rfl | hc
    · exact .inr rfl
    · exact .inl (h.isDigit c hc)

theorem toLower_of_isDigit {c : Char} (h : c.isDigit) : c.toLower = c := by
  have hupper : ¬ (c.val ≥ 'A'.val ∧ c.val ≤ 'Z'.val) := by
    intro hc
    rw [Char.isDigit, Bool.and_eq_true, decide_eq_true_eq, decide_eq_true_eq] at h
    exact absurd (UInt32.le_trans hc.1 h.2) (by decide)
  exact dif_neg hupper

/-- No spelling of `MAX` is a number. -/
theorem not_numeral_of_sameFold_max {n : Nat} {s : String} (h : sameFold s "max") :
    ¬ Numeral n s := by
  have hfold : s.toList.map Char.toLower = ['m', 'a', 'x'] := by simpa [sameFold] using h
  have hdigit : ∀ c ∈ s.toList, ¬ c.isDigit = true := by
    intro c hc hd
    have hmem : c.toLower ∈ ['m', 'a', 'x'] := hfold ▸ List.mem_map_of_mem hc
    rw [toLower_of_isDigit hd] at hmem
    simp only [List.mem_cons, List.not_mem_nil, or_false] at hmem
    obtain rfl | rfl | rfl := hmem
    all_goals cases hd
  have hnone {ds : List Char} (hds : Digits n ds) : ¬ ∀ c ∈ ds, c ∈ s.toList := by
    intro hsubset
    obtain ⟨d, rest, rfl⟩ := List.exists_cons_of_ne_nil hds.ne_nil
    exact hdigit d (hsubset d List.mem_cons_self) (hds.isDigit d List.mem_cons_self)
  rintro (hds | ⟨ds, hs, hds⟩)
  · exact hnone hds fun c hc => hc
  · exact hnone hds fun c hc => hs ▸ List.mem_cons_of_mem _ hc

theorem digits_toDigits (n : Nat) : Digits n (Nat.toDigits 10 n) where
  ne_nil := Nat.toDigits_ne_nil
  isDigit _ hc := Nat.isDigit_of_mem_toDigits (by decide) (by decide) hc
  value := Nat.ofDigitChars_ten_toDigits

theorem digits_repr (n : Nat) : Digits n (Nat.repr n).toList := by
  rw [Nat.repr_eq_ofList_toDigits, String.toList_ofList]
  exact digits_toDigits n

theorem repr_injective {m n : Nat} (h : Nat.repr m = Nat.repr n) : m = n := by
  have hdigits := congrArg (fun s => Nat.ofDigitChars 10 s.toList 0) h
  simpa [Nat.repr_eq_ofList_toDigits] using hdigits

theorem repr_ne_empty (n : Nat) : Nat.repr n ≠ "" := by
  rw [Nat.repr_eq_ofList_toDigits]
  simp

theorem Digits.zeros {n : Nat} {ds : List Char} (h : Digits n ds) (zeros : Nat) :
    Digits n (List.replicate zeros '0' ++ ds) := by
  induction zeros with
  | zero => exact h
  | succ zeros ih =>
    refine ⟨List.cons_ne_nil _ _, List.forall_mem_cons.2 ⟨rfl, ih.isDigit⟩, ?_⟩
    rw [List.replicate_succ, List.cons_append, Nat.ofDigitChars_cons]
    exact ih.value

/-- Digits are no spelling of a text without any. -/
theorem Digits.not_sameFold {n : Nat} {s t : String} (h : Digits n s.toList)
    (ht : (t.toList.map Char.toLower).any Char.isDigit = false) : sameFold s t = false := by
  rw [Bool.eq_false_iff]
  intro hsame
  have hfold : s.toList.map Char.toLower = t.toList.map Char.toLower := by
    simpa [sameFold] using hsame
  obtain ⟨d, rest, hs⟩ := List.exists_cons_of_ne_nil h.ne_nil
  have hd : d ∈ s.toList := hs ▸ List.mem_cons_self
  have hdigit := h.isDigit d hd
  have hmem : d.toLower ∈ t.toList.map Char.toLower := hfold ▸ List.mem_map_of_mem hd
  rw [toLower_of_isDigit hdigit] at hmem
  exact List.any_eq_false.1 ht d hmem hdigit

theorem isBlank_of_isDigit {c : Char} (h : c.isDigit = true) : isBlank c = false := by
  have hbounds : 48 ≤ c.toNat ∧ c.toNat ≤ 57 := by
    simpa [Char.isDigit, UInt32.le_iff_toNat_le] using h
  simp only [isBlank, Bool.or_eq_false_iff, Bool.and_eq_false_iff, decide_eq_false_iff_not,
    beq_eq_false_iff_ne]
  omega

theorem isBlank_of_mem_repr {n : Nat} {c : Char} (h : c ∈ (Nat.repr n).toList) :
    isBlank c = false :=
  isBlank_of_isDigit ((digits_repr n).isDigit c h)

theorem not_mem_repr {n : Nat} {c : Char} (hc : c.isDigit = false) : c ∉ (Nat.repr n).toList := by
  intro h
  rw [(digits_repr n).isDigit c h] at hc
  cases hc

/-- The digits that follow make a number no smaller. -/
theorem le_ofDigitChars (ds : List Char) (n : Nat) : n ≤ Nat.ofDigitChars 10 ds n := by
  rw [Nat.ofDigitChars_eq_ofDigitChars_zero]
  have hpow := Nat.le_mul_of_pos_left n (Nat.pow_pos (n := ds.length) (show 0 < 10 by decide))
  omega

/-- If the number of all digits is below the bound, so are those of the first ones. -/
theorem readDigits_eq_ok_iff {bound n m : Nat} {ds : List Char} (hn : n < bound) :
    readDigits bound n ds = .ok m ↔
      (∀ c ∈ ds, c.isDigit = true) ∧ Nat.ofDigitChars 10 ds n = m ∧ m < bound := by
  induction ds generalizing n with
  | nil =>
    simp only [readDigits, Except.ok.injEq, List.not_mem_nil, false_implies, implies_true,
      true_and]
    constructor
    · rintro rfl
      exact ⟨rfl, hn⟩
    · exact fun h => h.1
  | cons d ds ih =>
    rw [readDigits, Nat.ofDigitChars_cons, List.forall_mem_cons]
    by_cases hd : d.isDigit = true
    · by_cases hnext : 10 * n + (d.toNat - '0'.toNat) < bound
      · simp only [hd, hnext, if_true, ih hnext, true_and]
      · simp only [hd, hnext, if_true, if_false, reduceCtorEq, false_iff, true_and]
        rintro ⟨-, rfl, hm⟩
        exact hnext (Nat.lt_of_le_of_lt (le_ofDigitChars ds _) hm)
    · simp [hd]

theorem readDigits_eq_ok_iff_digits {bound n : Nat} {ds : List Char} (hbound : 0 < bound)
    (hne : ds ≠ []) : readDigits bound 0 ds = .ok n ↔ Digits n ds ∧ n < bound := by
  rw [readDigits_eq_ok_iff hbound]
  constructor
  · rintro ⟨hds, hvalue, hn⟩
    exact ⟨⟨hne, hds, hvalue⟩, hn⟩
  · rintro ⟨h, hn⟩
    exact ⟨h.isDigit, h.value, hn⟩

theorem readUnsigned_eq_ok_iff {bound n : Nat} {s : String} (hbound : 0 < bound) :
    readUnsigned bound s = .ok n ↔ Numeral n s ∧ n < bound := by
  unfold readUnsigned Numeral
  split
  case h_1 hs =>
    have hnone : ¬ Digits n [] := fun h => h.ne_nil rfl
    simp [hs, hnone]
  case h_2 hs =>
    have hnone : ¬ Digits n [] := fun h => h.ne_nil rfl
    simp [hs, hnone, Digits.not_plus]
  case h_3 cs hcs hs =>
    have hne : cs ≠ [] := hcs
    simp [hs, Digits.not_plus, readDigits_eq_ok_iff_digits hbound hne]
  case h_4 hne _ hplus =>
    have hnone : ¬ ∃ ds, s.toList = '+' :: ds ∧ Digits n ds := by
      rintro ⟨ds, hds, -⟩
      exact hplus ds hds
    rw [readDigits_eq_ok_iff_digits hbound hne, or_iff_left hnone]

/-- A text is read as a word iff it is a numeral of it, whatever the number of bits. -/
theorem map_readUnsigned_eq_ok_iff {α : Type} {ofNat : Nat → α} {toNat : α → Nat} {bound : Nat}
    (hlt : ∀ w, toNat w < bound) (hof : ∀ n < bound, toNat (ofNat n) = n)
    (hto : ∀ w, ofNat (toNat w) = w) {s : String} {w : α} :
    (readUnsigned bound s).map ofNat = .ok w ↔ Numeral (toNat w) s := by
  have hbound : 0 < bound := Nat.zero_lt_of_lt (hlt w)
  constructor
  · intro h
    cases hn : readUnsigned bound s with
    | error cause => simp [hn, Except.map] at h
    | ok n =>
      obtain ⟨hnumeral, hsmall⟩ := (readUnsigned_eq_ok_iff hbound).1 hn
      obtain rfl : ofNat n = w := by simpa [hn, Except.map] using h
      rwa [hof n hsmall]
  · intro h
    rw [(readUnsigned_eq_ok_iff hbound).2 ⟨h, hlt w⟩]
    exact congrArg Except.ok (hto w)

theorem readUInt64_eq_ok_iff {s : String} {w : UInt64} :
    readUInt64 s = .ok w ↔ Numeral w.toNat s :=
  map_readUnsigned_eq_ok_iff UInt64.toNat_lt (fun _ hn => UInt64.toNat_ofNat_of_lt' hn)
    fun _ => UInt64.ofNat_toNat

theorem readUInt32_eq_ok_iff {s : String} {w : UInt32} :
    readUInt32 s = .ok w ↔ Numeral w.toNat s :=
  map_readUnsigned_eq_ok_iff UInt32.toNat_lt (fun _ hn => UInt32.toNat_ofNat_of_lt' hn)
    fun _ => UInt32.ofNat_toNat

end RaidProvision.Text

import Mathlib.Algebra.Order.Field.Power
import Mathlib.Algebra.Order.Floor.Semifield
import Mathlib.Data.List.TakeWhile
import Mathlib.Data.Rat.Floor
import Mathlib.Tactic.FieldSimp
import Mathlib.Tactic.Ring
import RaidProvision.Binary64.Literal
import RaidProvision.Proofs.Text.Unsigned

/-!
# Operations without rounding

An operation is exact first and rounded then. If 53 bits and the range of the exponent are enough
for the exact result, rounding does not change it: `Fits` says of a rational that they are, and
`Is` says of a number which rational it is.

* `exponentOf_spec`: the exponent leaves 53 bits for the mantissa, and no less if it can help it.
* `exponentOf_le`, `ofRatio_is`: a quotient that fits is not rounded.
* `mul_is`, `div_is`, `ofNat_is`: the operations.
* `toUInt64_is`: the integer part as a word.
* `ofDecimal_is`, `ofLiteral?_of_digits`: the number that digits spell.
-/
namespace RaidProvision.Binary64

open RaidProvision.Text

/-- A number that is not negative is a rational. -/
def Is (x : Binary64) (q : ℚ) : Prop := ∃ m e, x = .finite false m e ∧ (m : ℚ) * 2 ^ e = q

/-- A rational has a mantissa of 53 bits with an exponent in range. -/
def Fits (q : ℚ) : Prop :=
  ∃ (m : Nat) (k : Int), m < twoTo 53 ∧ minExponent ≤ k ∧ k ≤ maxExponent ∧ (m : ℚ) * 2 ^ k = q

theorem fits_mul_zpow {n : Nat} (hn : n < twoTo 53) {k : Int} (hmin : minExponent ≤ k)
    (hmax : k ≤ maxExponent) : Fits (n * 2 ^ k) :=
  ⟨n, k, hn, hmin, hmax, rfl⟩

theorem fits_natCast {n : Nat} (hn : n < twoTo 53) : Fits n := by
  simpa using fits_mul_zpow hn (k := 0) (by decide) (by decide)

/-! ## Quotients -/

theorem cast_twoTo (k : Nat) : (twoTo k : ℚ) = 2 ^ (k : Int) := by
  simp [twoTo]

theorem zpow_eq_div (k : Int) : (2 : ℚ) ^ k = twoTo k.toNat / twoTo (-k).toNat := by
  rcases Int.le_total 0 k with hk | hk
  · have hneg : (-k).toNat = 0 := by omega
    rw [cast_twoTo, Int.toNat_of_nonneg hk, hneg]
    simp [twoTo]
  · have hpos : k.toNat = 0 := by omega
    have hnonneg : 0 ≤ -k := by omega
    rw [hpos, cast_twoTo (-k).toNat, Int.toNat_of_nonneg hnonneg, zpow_neg]
    simp [twoTo]

section
variable {num den : Nat}

theorem shiftRatio_pos (hden : 0 < den) (k : Int) : 0 < (shiftRatio num den k).2 :=
  Nat.mul_pos hden (twoTo_pos _)

theorem shiftRatio_div (num den : Nat) (k : Int) :
    ((shiftRatio num den k).1 : ℚ) / (shiftRatio num den k).2 = num / den / 2 ^ k := by
  have htwo (j : Nat) : (twoTo j : ℚ) ≠ 0 := Nat.cast_ne_zero.2 (twoTo_pos j).ne'
  rw [zpow_eq_div, shiftRatio]
  push_cast
  have := htwo k.toNat
  have := htwo (-k).toNat
  field_simp

theorem log2_bounds {n : Nat} (hn : 0 < n) :
    (2 : ℚ) ^ (n.log2 : Int) ≤ n ∧ (n : ℚ) < 2 ^ ((n.log2 : Int) + 1) := by
  have hlow := Nat.log2_self_le hn.ne'
  have hhigh := Nat.lt_log2_self (n := n)
  constructor
  · exact_mod_cast hlow
  · exact_mod_cast hhigh

theorem shiftRatio_lt_iff (hden : 0 < den) (b : Nat) (k : Int) :
    (shiftRatio num den k).1 < b * (shiftRatio num den k).2 ↔ (num : ℚ) / den < b * 2 ^ k := by
  have hpos : (0 : ℚ) < (shiftRatio num den k).2 := Nat.cast_pos.2 (shiftRatio_pos hden k)
  have hpow : (0 : ℚ) < 2 ^ k := by positivity
  rw [← div_lt_iff₀ hpow, ← shiftRatio_div, div_lt_iff₀ hpos]
  exact_mod_cast Iff.rfl

theorem div_bounds (hnum : 0 < num) (hden : 0 < den) :
    (2 : ℚ) ^ ((num.log2 : Int) - den.log2 - 1) ≤ num / den ∧
      (num : ℚ) / den < 2 ^ ((num.log2 : Int) - den.log2 + 1) := by
  obtain ⟨hnum_low, hnum_high⟩ := log2_bounds hnum
  obtain ⟨hden_low, hden_high⟩ := log2_bounds hden
  have hpos : (0 : ℚ) < den := Nat.cast_pos.2 hden
  constructor
  · calc (2 : ℚ) ^ ((num.log2 : Int) - den.log2 - 1)
        = 2 ^ (num.log2 : Int) / 2 ^ ((den.log2 : Int) + 1) := by
          rw [← zpow_sub₀ two_ne_zero]
          congr 1
          ring
      _ ≤ num / den := by gcongr
  · calc (num : ℚ) / den < 2 ^ ((num.log2 : Int) + 1) / den := by gcongr
      _ ≤ 2 ^ ((num.log2 : Int) + 1) / 2 ^ (den.log2 : Int) := by gcongr
      _ = 2 ^ ((num.log2 : Int) - den.log2 + 1) := by
          rw [← zpow_sub₀ two_ne_zero]
          congr 1
          ring

/-- The exponent leaves no more than 53 bits, and no less unless it is the least one. -/
theorem exponentOf_spec (hnum : 0 < num) (hden : 0 < den) :
    (num : ℚ) / den < 2 ^ (53 + exponentOf num den) ∧
      (exponentOf num den = minExponent ∨
        (2 : ℚ) ^ (52 + exponentOf num den) ≤ num / den) := by
  obtain ⟨hlower, hupper⟩ := div_bounds hnum hden
  have htest (low : Int) : (shiftRatio num den low).1 < twoTo 53 * (shiftRatio num den low).2 ↔
      (num : ℚ) / den < 2 ^ (53 + low) := by
    rw [shiftRatio_lt_iff hden, cast_twoTo, zpow_add₀ two_ne_zero]
    rfl
  -- One of the two exponents leaves 53 bits; the least exponent may still be greater.
  have hfull : ∃ e, exponentOf num den = max minExponent e ∧ (num : ℚ) / den < 2 ^ (53 + e) ∧
      (2 : ℚ) ^ (52 + e) ≤ num / den := by
    let low : Int := (num.log2 : Int) - den.log2 - 53
    by_cases h : (shiftRatio num den low).1 < twoTo 53 * (shiftRatio num den low).2
    · refine ⟨low, ?_, (htest low).1 h, ?_⟩
      · exact congrArg (max minExponent) (if_pos h)
      · have hexp : 52 + low = (num.log2 : Int) - den.log2 - 1 := by omega
        rw [hexp]
        exact hlower
    · refine ⟨low + 1, ?_, ?_, ?_⟩
      · exact congrArg (max minExponent) (if_neg h)
      · have hexp : 53 + (low + 1) = (num.log2 : Int) - den.log2 + 1 := by omega
        rw [hexp]
        exact hupper
      · have hexp : 52 + (low + 1) = 53 + low := by omega
        rw [hexp]
        exact not_lt.1 ((htest low).not.1 h)
  obtain ⟨e, he, hlt, hle⟩ := hfull
  rw [he]
  rcases Int.le_total minExponent e with hmin | hmin
  · rw [max_eq_right hmin]
    exact ⟨hlt, .inr hle⟩
  · rw [max_eq_left hmin]
    refine ⟨hlt.trans_le ?_, .inl rfl⟩
    exact zpow_le_zpow_right₀ one_le_two (by omega)

theorem roundDiv_mul (m : Nat) {den : Nat} (hden : 0 < den) : roundDiv (m * den) den = m := by
  simp [roundDiv, Nat.mul_div_cancel m hden, hden]

/-- A mantissa of no more than 53 bits needs no smaller exponent. -/
theorem exponentOf_le (hnum : 0 < num) (hden : 0 < den) {m : Nat} {k : Int} (hm : m < twoTo 53)
    (hmin : minExponent ≤ k) (hq : (num : ℚ) / den = m * 2 ^ k) : exponentOf num den ≤ k := by
  obtain ⟨-, hleast | hle⟩ := exponentOf_spec hnum hden
  · omega
  · have hpow : (2 : ℚ) ^ (52 + exponentOf num den) < 2 ^ (53 + k) := by
      calc (2 : ℚ) ^ (52 + exponentOf num den) ≤ m * 2 ^ k := by rwa [← hq]
        _ < twoTo 53 * 2 ^ k := by gcongr
        _ = 2 ^ (53 + k) := by
          rw [cast_twoTo, ← zpow_add₀ two_ne_zero]
          rfl
    have hexp := (zpow_lt_zpow_iff_right₀ one_lt_two).1 hpow
    omega

theorem lt_twoTo_of_mul_zpow_lt {m : Nat} {e : Int} (h : (m : ℚ) * 2 ^ e < 2 ^ (53 + e)) :
    m < twoTo 53 := by
  have hpow : (0 : ℚ) < 2 ^ e := by positivity
  rw [zpow_add₀ two_ne_zero, mul_lt_mul_iff_left₀ hpow] at h
  have hcast : (m : ℚ) < (twoTo 53 : Nat) := by
    rw [cast_twoTo]
    exact h
  exact_mod_cast hcast

theorem shiftRatio_eq_mul (hden : 0 < den) {m : Nat} {e : Int}
    (hq : (num : ℚ) / den = m * 2 ^ e) :
    (shiftRatio num den e).1 = m * (shiftRatio num den e).2 := by
  have hpos : ((shiftRatio num den e).2 : ℚ) ≠ 0 :=
    Nat.cast_ne_zero.2 (shiftRatio_pos hden e).ne'
  have hdiv := shiftRatio_div num den e
  rw [hq, mul_div_cancel_right₀ _ (zpow_ne_zero e two_ne_zero), div_eq_iff hpos] at hdiv
  exact_mod_cast hdiv

/-- A quotient that fits is not rounded. -/
theorem ofRatio_is (hden : 0 < den) {q : ℚ} (hq : (num : ℚ) / den = q) (h : Fits q) :
    Is (ofRatio false num den) q := by
  rcases Nat.eq_zero_or_pos num with rfl | hnum
  · refine ⟨0, minExponent, by simp [ofRatio], ?_⟩
    simp [← hq]
  obtain ⟨m, k, hm, hmin, hmax, hmk⟩ := h
  have hek := exponentOf_le hnum hden hm hmin (hq.trans hmk.symm)
  obtain ⟨hlt, -⟩ := exponentOf_spec hnum hden
  generalize he : exponentOf num den = e at hek hlt
  -- What the exponent falls short of `k` by goes into the mantissa.
  obtain ⟨j, rfl⟩ := Int.le.dest hek
  have hvalue : ((m * twoTo j : Nat) : ℚ) * 2 ^ e = q := by
    rw [← hmk, zpow_add₀ two_ne_zero, Nat.cast_mul, cast_twoTo]
    ring
  have hsmall : m * twoTo j < twoTo 53 := lt_twoTo_of_mul_zpow_lt (by rwa [hvalue, ← hq])
  have hround : roundDiv (shiftRatio num den e).1 (shiftRatio num den e).2 = m * twoTo j := by
    rw [shiftRatio_eq_mul hden (hq.trans hvalue.symm)]
    exact roundDiv_mul _ (shiftRatio_pos hden e)
  have hrange : ¬ maxExponent < e := by omega
  refine ⟨m * twoTo j, e, ?_, hvalue⟩
  simp only [ofRatio, if_neg hnum.ne', he, hround, if_neg hsmall.ne, if_neg hrange]

theorem ofRatio_shiftRatio_is (hden : 0 < den) (k : Int) {q : ℚ} (hq : (num : ℚ) / den / 2 ^ k = q)
    (h : Fits q) :
    Is (ofRatio false (shiftRatio num den k).1 (shiftRatio num den k).2) q := by
  refine ofRatio_is (shiftRatio_pos hden k) ?_ h
  rw [shiftRatio_div, hq]

end

/-! ## Operations -/

section
variable {x y : Binary64} {p q : ℚ}

theorem ofNat_is {n : Nat} (hn : n < twoTo 53) : Is (ofNat n) n :=
  ofRatio_is Nat.one_pos (by simp) (fits_natCast hn)

theorem mul_is (hx : Is x p) (hy : Is y q) (h : Fits (p * q)) : Is (mul x y) (p * q) := by
  obtain ⟨m, e, rfl, rfl⟩ := hx
  obtain ⟨n, f, rfl, rfl⟩ := hy
  refine ofRatio_shiftRatio_is Nat.one_pos (-(e + f)) ?_ h
  rw [zpow_neg, zpow_add₀ two_ne_zero]
  push_cast
  field_simp

theorem div_is (hx : Is x p) (hy : Is y q) (hq : q ≠ 0) (h : Fits (p / q)) :
    Is (div x y) (p / q) := by
  obtain ⟨m, e, rfl, rfl⟩ := hx
  obtain ⟨n, f, rfl, rfl⟩ := hy
  have hn : n ≠ 0 := by
    rintro rfl
    simp at hq
  have hpos : 0 < n := Nat.pos_of_ne_zero hn
  rw [div, if_neg hn]
  refine ofRatio_shiftRatio_is hpos (f - e) ?_ h
  have hcast : (n : ℚ) ≠ 0 := Nat.cast_ne_zero.2 hn
  rw [zpow_sub₀ two_ne_zero]
  field_simp

/-- The integer part as a word, or the greatest word. -/
theorem toUInt64_is (hx : Is x q) : x.toUInt64.toNat = min ⌊q⌋₊ (UInt64.size - 1) := by
  obtain ⟨m, e, rfl, rfl⟩ := hx
  have hfloor : ⌊(m : ℚ) * 2 ^ e⌋₊ = floorMagnitude m e := by
    rw [zpow_eq_div, floorMagnitude, ← Nat.floor_div_eq_div (K := ℚ)]
    push_cast
    congr 1
    ring
  rw [hfloor, toUInt64, if_neg Bool.false_ne_true, UInt64.toNat_ofNat_of_lt']
  exact Nat.lt_of_le_of_lt (Nat.min_le_right _ _) (by decide)

end

/-! ## Literals -/

theorem ofDecimal_is {n : Nat} (hn : n < twoTo 53) : Is (ofDecimal false n 0) n := by
  rcases Nat.eq_zero_or_pos n with rfl | hpos
  · exact ⟨0, minExponent, ofDecimal_zero false 0, by simp⟩
  have hlt : n < 10 ^ 16 := hn.trans (by decide)
  have hcount : digitCount n ≤ 16 := by
    rw [digitCount, if_neg hpos.ne']
    exact (Nat.length_toDigits_le_iff (by decide) (by decide)).2 hlt
  have hnear : ¬ ((digitCount n : Int) + 0 < -330) := by omega
  have hfar : ¬ (310 < (digitCount n : Int) + 0) := by omega
  have hquotient : ofDecimal false n 0 = ofRatio false (n * tenTo 0) (tenTo 0) := by
    simp only [ofDecimal, hpos.ne', hnear, hfar, decide_false, Bool.or_false, Bool.false_eq_true,
      if_false]
    rfl
  rw [hquotient]
  exact ofRatio_is (tenTo_pos 0) (by simp [tenTo]) (fits_natCast hn)

/-- Digits are a literal of their number. -/
theorem ofLiteral?_of_digits {n : Nat} {s : String} (h : Digits n s.toList) :
    ofLiteral? s = some (ofDecimal false n 0) := by
  obtain ⟨d, ds, hs⟩ := List.exists_cons_of_ne_nil h.ne_nil
  have hfirst : d.isDigit := h.isDigit d (hs ▸ List.mem_cons_self)
  have hsigned : signed s.toList = (false, s.toList) := by
    rw [hs]
    unfold signed
    split
    · rename_i heq
      obtain rfl := (List.cons.inj heq).1
      cases hfirst
    · rename_i heq
      obtain rfl := (List.cons.inj heq).1
      cases hfirst
    · rfl
  have hinf : sameFold s "inf" = false := h.not_sameFold rfl
  have hinfinity : sameFold s "infinity" = false := h.not_sameFold rfl
  have hnan : sameFold s "nan" = false := h.not_sameFold rfl
  have hwhole : s.toList.takeWhile Char.isDigit = s.toList :=
    List.takeWhile_eq_self_iff.2 h.isDigit
  have hrest : s.toList.dropWhile Char.isDigit = [] := List.dropWhile_eq_nil_iff.2 h.isDigit
  simp only [ofLiteral?, hsigned, String.ofList_toList, hinf, hinfinity, hnan, hwhole, hrest,
    fraction, exponentPart, ofDigits, h.value, List.append_nil]
  simp [h.ne_nil]

end RaidProvision.Binary64

import RaidProvision.Layout.Json
import RaidProvision.Proofs.Json.Scalar
import RaidProvision.Proofs.Text.Unsigned

/-!
# Which sizes are asked for

A size is asked for by a whole number of gigabytes, by the numeral of one in a text, or by `MAX` in
any letter case. A number may be as large as its megabytes fit a word: what is read keeps to a
quotient, what is handed to a tool to a product, and these are the same limit.

* `askedBy_or_refusedFor`: a value asks for a size or is refused for some cause.
* `ofValue_eq_ok_iff`, `ofValue_eq_error_iff`: a value is read accordingly.
* `le_maxGb_iff`, `megabytes_eq_ok_iff`: the limit of the megabytes.
-/
namespace RaidProvision.SizeRequest

open RaidProvision.Text RaidProvision.Json RaidProvision.Layout

/-! ## Values -/

/-- A value asks for a size. -/
inductive AskedBy : SizeRequest → Value → Prop where
  | max {s : String} (h : sameFold s "max") : AskedBy .max (.text s)
  | number {n : Nat} (h : n ≤ maxGb) : AskedBy (.gb (.ofNat n)) (.nat n)
  | text {s : String} {n : Nat} (hs : Numeral n s) (h : n ≤ maxGb) :
    AskedBy (.gb (.ofNat n)) (.text s)

/-- A value asks for no size, for some cause. -/
inductive RefusedFor : Defect → Value → Prop where
  | number {n : Nat} (h : maxGb < n) (hn : n < UInt64.size) :
    RefusedFor (.sizeTooLarge n) (.nat n)
  | text {s : String} {n : Nat} (hs : Numeral n s) (h : maxGb < n) (hn : n < UInt64.size) :
    RefusedFor (.sizeTooLarge n) (.text s)
  /-- A text that is neither `MAX` nor the numeral of a word. -/
  | unreadable {s : String} (hmax : ¬ sameFold s "max")
    (hs : ∀ n < UInt64.size, ¬ Numeral n s) : RefusedFor (.sizeUnreadable s) (.text s)
  /-- Neither a text nor a word: another number, or no number at all. -/
  | other {value : Value} (htext : ∀ s, value ≠ .text s)
    (hnat : ∀ n < UInt64.size, value ≠ .nat n) : RefusedFor (.mismatch .noAlternative) value

theorem lt_size_of_le_maxGb {g : Nat} (h : g ≤ maxGb) : g < UInt64.size := by
  rw [maxGb, UInt64.size] at h
  rw [UInt64.size]
  omega

/-- A value asks for a size or is refused. -/
theorem askedBy_or_refusedFor (value : Value) :
    (∃ size, AskedBy size value) ∨ ∃ cause, RefusedFor cause value := by
  by_cases htext : ∃ s, value = .text s
  · obtain ⟨s, rfl⟩ := htext
    by_cases hmax : sameFold s "max" = true
    · exact .inl ⟨_, .max hmax⟩
    by_cases hs : ∃ n < UInt64.size, Numeral n s
    · obtain ⟨n, hn, hs⟩ := hs
      by_cases hle : n ≤ maxGb
      · exact .inl ⟨_, .text hs hle⟩
      · exact .inr ⟨_, .text hs (Nat.lt_of_not_le hle) hn⟩
    · exact .inr ⟨_, .unreadable hmax fun n hn hnumeral => hs ⟨n, hn, hnumeral⟩⟩
  · by_cases hnat : ∃ n < UInt64.size, value = .nat n
    · obtain ⟨n, hn, rfl⟩ := hnat
      by_cases hle : n ≤ maxGb
      · exact .inl ⟨_, .number hle⟩
      · exact .inr ⟨_, .number (Nat.lt_of_not_le hle) hn⟩
    · exact .inr ⟨_, .other (fun s hs => htext ⟨s, hs⟩) fun n hn hvalue => hnat ⟨n, hn, hvalue⟩⟩

theorem ofGb_eq_ok_iff {n : UInt64} {size : SizeRequest} :
    ofGb n = .ok size ↔ n.toNat ≤ maxGb ∧ size = .gb n := by
  unfold ofGb
  split
  case isTrue h => simp [h, eq_comm]
  case isFalse h => simp [h]

theorem ofGb_ofNat {n : Nat} (hn : n < UInt64.size) :
    ofGb (.ofNat n) = if n ≤ maxGb then .ok (.gb (.ofNat n)) else .error (.sizeTooLarge n) := by
  rw [ofGb, UInt64.toNat_ofNat_of_lt' hn]

theorem ofValue_nat {n : Nat} (hn : n < UInt64.size) : ofValue (.nat n) = ofGb (.ofNat n) := by
  have hword : (Value.nat n).word? = some (.ofNat n) :=
    Value.word?_eq_some_iff.2 (by rw [UInt64.toNat_ofNat_of_lt' hn])
  rw [ofValue, hword]
  intro s hs
  cases hs

theorem ofValue_numeral {s : String} {n : Nat} (hs : Numeral n s) (hn : n < UInt64.size) :
    ofValue (.text s) = ofGb (.ofNat n) := by
  have hread : readUInt64 s = .ok (.ofNat n) :=
    readUInt64_eq_ok_iff.2 (by rwa [UInt64.toNat_ofNat_of_lt' hn])
  have hmax : ¬ sameFold s "max" = true := fun hmax => not_numeral_of_sameFold_max hmax hs
  rw [ofValue, if_neg hmax, hread]

theorem AskedBy.ofValue_eq {size : SizeRequest} {value : Value} (h : AskedBy size value) :
    ofValue value = .ok size := by
  cases h with
  | max hmax => exact ofValue_text_max hmax
  | number hle =>
    have hn := lt_size_of_le_maxGb hle
    rw [ofValue_nat hn, ofGb_ofNat hn, if_pos hle]
  | text hs hle =>
    have hn := lt_size_of_le_maxGb hle
    rw [ofValue_numeral hs hn, ofGb_ofNat hn, if_pos hle]

theorem RefusedFor.ofValue_eq {cause : Defect} {value : Value} (h : RefusedFor cause value) :
    ofValue value = .error cause := by
  cases h with
  | number hlt hn => rw [ofValue_nat hn, ofGb_ofNat hn, if_neg (Nat.not_le_of_lt hlt)]
  | text hs hlt hn => rw [ofValue_numeral hs hn, ofGb_ofNat hn, if_neg (Nat.not_le_of_lt hlt)]
  | @unreadable s hmax hs =>
    cases hread : readUInt64 s with
    | ok w => exact absurd (readUInt64_eq_ok_iff.1 hread) (hs _ w.toNat_lt)
    | error fault => rw [ofValue, if_neg hmax, hread]
  | other htext hnat =>
    cases hword : value.word? with
    | some w => exact absurd (Value.word?_eq_some_iff.1 hword) (hnat _ w.toNat_lt)
    | none =>
      rw [ofValue, hword]
      exact htext

theorem ofValue_eq_ok_iff {size : SizeRequest} {value : Value} :
    ofValue value = .ok size ↔ AskedBy size value := by
  refine ⟨?_, AskedBy.ofValue_eq⟩
  intro h
  obtain ⟨other, hother⟩ | ⟨cause, hcause⟩ := askedBy_or_refusedFor value
  · cases h.symm.trans hother.ofValue_eq
    exact hother
  · cases h.symm.trans hcause.ofValue_eq

theorem ofValue_eq_error_iff {cause : Defect} {value : Value} :
    ofValue value = .error cause ↔ RefusedFor cause value := by
  refine ⟨?_, RefusedFor.ofValue_eq⟩
  intro h
  obtain ⟨size, hsize⟩ | ⟨other, hother⟩ := askedBy_or_refusedFor value
  · cases h.symm.trans hsize.ofValue_eq
  · cases h.symm.trans hother.ofValue_eq
    exact hother

/-! ## Megabytes -/

theorem le_maxGb_iff {n : Nat} : n ≤ maxGb ↔ 1024 * n < UInt64.size := by
  simp only [maxGb, UInt64.size]
  omega

theorem megabytes_eq_ok_iff {g : UInt64} {argument : String} :
    (gb g).megabytes = .ok argument ↔
      g.toNat ≤ maxGb ∧ argument = Nat.repr (1024 * g.toNat) := by
  rw [le_maxGb_iff, megabytes]
  split <;> simp [*, eq_comm]

theorem exists_megabytes_iff {g : UInt64} :
    (∃ argument, (gb g).megabytes = .ok argument) ↔ g.toNat ≤ maxGb := by
  simp only [megabytes_eq_ok_iff, exists_and_left, exists_eq, and_true]

end RaidProvision.SizeRequest

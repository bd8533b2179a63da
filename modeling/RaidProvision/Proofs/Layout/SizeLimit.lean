import RaidProvision.Proofs.Layout.Written

/-!
# The limit of a size

A size that is read is handed to a tool in megabytes, which must fit a word. Reading keeps to a
limit of its own, and as the two limits are the same, no size that is read is refused later.

* `ofText_eq_ok_iff`: which texts ask for which size.
* `InRange.exists_megabytes`: every size that is read can be told in megabytes.
* `ofValue_within_megabytes`: a size is read iff its megabytes can be told, and they are exact.
-/
namespace RaidProvision.SizeRequest

open RaidProvision.Json RaidProvision.Layout

theorem toOption_ofText (s : String) :
    (ofText s).toOption = (Value.parse? s).bind fun value => (ofValue value).toOption := by
  rw [Value.parse?_eq_settle, ofText, wholeText_of_interprets (part_interprets maxDepth) s]
  cases Value.written? s <;> rfl

theorem ofText_eq_ok_iff {s : String} {size : SizeRequest} :
    ofText s = .ok size ↔ ∃ value, Value.parse? s = some value ∧ AskedBy size value := by
  rw [← toOption_eq_some_iff, toOption_ofText, Option.bind_eq_some_iff]
  simp only [toOption_eq_some_iff, ofValue_eq_ok_iff]

theorem InRange.exists_megabytes {size : SizeRequest} (h : size.InRange) :
    ∃ argument, size.megabytes = .ok argument := by
  cases size with
  | max => exact ⟨_, rfl⟩
  | gb n => exact exists_megabytes_iff.2 (h n rfl)

/-- A value is read as a size exactly if it asks for one, and all others are refused, each for what
is wrong with it; so are the texts of values. A number of gigabytes is within the limit of what is
read exactly if its megabytes can be told. These are then below the size of a word and told exactly,
and so the megabytes of whatever is read can be told. -/
theorem ofValue_within_megabytes :
    (∀ value size, ofValue value = .ok size ↔ AskedBy size value) ∧
    (∀ value cause, ofValue value = .error cause ↔ RefusedFor cause value) ∧
    (∀ s size, ofText s = .ok size ↔
      ∃ value, Value.parse? s = some value ∧ AskedBy size value) ∧
    (∀ g : UInt64, (ofGb g = .ok (.gb g) ↔ g.toNat ≤ maxGb) ∧
      (g.toNat ≤ maxGb ↔ ∃ argument, (gb g).megabytes = .ok argument)) ∧
    (∀ (g : UInt64) (argument : String), (gb g).megabytes = .ok argument ↔
      g.toNat ≤ maxGb ∧ 1024 * g.toNat < UInt64.size ∧ argument = Nat.repr (1024 * g.toNat)) ∧
    ∀ value size, ofValue value = .ok size → ∃ argument, size.megabytes = .ok argument := by
  refine ⟨fun value size => ofValue_eq_ok_iff, fun value cause => ofValue_eq_error_iff,
    fun s size => ofText_eq_ok_iff, ?_, ?_, ?_⟩
  · intro g
    have hgb : ofGb g = .ok (.gb g) ↔ g.toNat ≤ maxGb := by
      rw [ofGb_eq_ok_iff, and_iff_left rfl]
    exact ⟨hgb, exists_megabytes_iff.symm⟩
  · intro g argument
    rw [megabytes_eq_ok_iff, ← le_maxGb_iff, ← and_assoc, and_self]
  · intro value size h
    exact (ofValue_eq_ok_iff.1 h).inRange.exists_megabytes

end RaidProvision.SizeRequest

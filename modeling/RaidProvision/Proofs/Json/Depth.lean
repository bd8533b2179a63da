import RaidProvision.Proofs.Json.Settled

/-!
# How deep a value may be

No more than `maxDepth` arrays and objects may stand inside one another when a text is read. `Holds`
says which value is written in a text, however deep it is. The limit makes no other difference: what
a reader with a limit takes off a text is what one with a greater limit takes off it, unless this is
too deep. So a text is read iff the value that it holds is not too deep.

* `readWritten_interprets`: readers with different limits, by induction on the smaller one.
* `Holds.unique`: a text holds one value at most.
* `parse?_of_holds`, `exists_holds_of_parse?`: which texts are read, and as what.
* `parse?_of_normal`: the texts of a value in normal form.
-/
namespace RaidProvision.Json

variable {ε δ : Type}

namespace Value

instance decidableWithin : ∀ depth value, Decidable (Within depth value)
  | 0, .array _ => .isFalse (by simp [Within])
  | 0, .object _ => .isFalse (by simp [Within])
  | depth + 1, .array elements =>
    have := decidableWithin depth
    inferInstanceAs (Decidable (∀ value ∈ elements, Within depth value))
  | depth + 1, .object members =>
    have := decidableWithin depth
    inferInstanceAs (Decidable (∀ m ∈ members, Within depth m.2))
  | _, .null => .isTrue (by simp [Within])
  | _, .boolean _ => .isTrue (by simp [Within])
  | _, .number _ => .isTrue (by simp [Within])
  | _, .text _ => .isTrue (by simp [Within])

/-- The value, unless it is deeper than `depth`. -/
def within? (depth : Nat) (value : Value) : Option Value :=
  if value.Within depth then some value else none

theorem within?_eq_some_iff {depth : Nat} {value other : Value} :
    within? depth value = some other ↔ value = other ∧ value.Within depth := by
  unfold within?
  split <;> simp [*]

theorem mapM_within? (depth : Nat) (elements : List Value) :
    elements.mapM (within? depth) =
      if ∀ value ∈ elements, Within depth value then some elements else none := by
  induction elements with
  | nil => simp
  | cons value rest ih =>
    rw [List.mapM_cons, ih, within?]
    simp only [List.forall_mem_cons]
    by_cases hvalue : Within depth value
    · simp only [hvalue, if_true, true_and, Option.bind_eq_bind, Option.bind_some]
      split <;> rfl
    · simp [hvalue]

end Value

/-- Puts a member behind the others, unless it is deeper than `depth`. -/
def Members.within? (depth : Nat) (held : Members) (member : String × Value) : Option Members :=
  (Value.within? depth member.2).map fun value => held ++ [(member.1, value)]

theorem foldlM_within? (depth : Nat) (members held : Members) :
    members.foldlM (Members.within? depth) held =
      if ∀ m ∈ members, Value.Within depth m.2 then some (held ++ members) else none := by
  induction members generalizing held with
  | nil => simp
  | cons m rest ih =>
    rw [List.foldlM_cons, Members.within?, Value.within?]
    simp only [List.forall_mem_cons]
    by_cases hm : Value.Within depth m.2
    · simp only [hm, if_true, true_and, Option.map_some, Option.bind_eq_bind, Option.bind_some,
        ih, List.append_assoc, List.singleton_append]
    · simp [hm]

/-- A value is too deep if there are brackets or braces where nothing may be opened. -/
theorem Value.within?_zero_madeOf :
    Value.MadeOf (Value.within? 0) (fun _ => none) fun _ => none where
  array _ := rfl
  object _ := rfl
  plain value harray hobject := by
    cases value with
    | array values => exact absurd rfl (harray values)
    | object held => exact absurd rfl (hobject held)
    | _ => rfl

/-- A value is too deep if a part of it is. -/
theorem Value.within?_succ_madeOf (depth : Nat) :
    Value.MadeOf (Value.within? (depth + 1)) (List.mapM (Value.within? depth))
      (List.foldlM (Members.within? depth) []) where
  array values := by
    rw [Value.mapM_within?]
    unfold Value.within?
    change (if ∀ value ∈ values, Value.Within depth value then _ else _) = _
    split <;> rfl
  object held := by
    rw [foldlM_within?]
    unfold Value.within?
    change (if ∀ m ∈ held, Value.Within depth m.2 then _ else _) = _
    split <;> rfl
  plain value harray hobject := by
    cases value with
    | array values => exact absurd rfl (harray values)
    | object held => exact absurd rfl (hobject held)
    | _ => rfl

/-- With a smaller limit the same is read, unless it is too deep. -/
theorem readWritten_interprets : ∀ {depth limit : Nat}, depth ≤ limit →
    (Value.readWritten (ε := ε) depth).Interprets (Value.readWritten (ε := δ) limit)
      (Value.within? depth)
  | 0, limit, _ => by
    obtain ⟨elements, members, hby⟩ := Value.readWritten_eq_readBy (ε := δ) limit
    rw [Value.readWritten, hby]
    refine readBy_interprets Value.within?_zero_madeOf ?_ ?_
    · intro cs
      cases (elements cs).toOption <;> rfl
    · intro cs
      cases (members cs).toOption <;> rfl
  | depth + 1, limit + 1, h => by
    have hvalue := @readWritten_interprets depth limit (Nat.le_of_succ_le_succ h)
    rw [Value.readWritten, Value.readWritten]
    refine readBy_interprets (Value.within?_succ_madeOf depth) (readArray_interprets hvalue) ?_
    refine readObject_interprets ?_ ?_ []
    · intro name held cause hcause
      cases hcause
    · intro name held reader hreader
      obtain rfl := Except.ok.inj hreader
      exact hvalue.map fun value => held ++ [(name, value)]

/-! ## Texts -/

/-- What a text holds, unless it is deeper than `depth`. -/
def Value.writtenWithin? (depth : Nat) (s : String) : Option Value :=
  (wholeText (ε := Empty) (Value.readWritten depth) s).toOption

/-- A text holds a value, however deep this is. -/
def Value.Holds (s : String) (written : Value) : Prop :=
  ∃ depth, Value.writtenWithin? depth s = some written

namespace Value

theorem writtenWithin?_of_le {depth limit : Nat} (h : depth ≤ limit) (s : String) :
    writtenWithin? depth s = (writtenWithin? limit s).bind (within? depth) :=
  wholeText_interprets (readWritten_interprets h) s

theorem writtenWithin?_eq_some_iff {depth : Nat} {s : String} {written : Value} :
    writtenWithin? depth s = some written ↔ Holds s written ∧ written.Within depth := by
  constructor
  · intro h
    refine ⟨⟨depth, h⟩, ?_⟩
    have hsame := writtenWithin?_of_le (Nat.le_refl depth) s
    rw [h, Option.bind_some] at hsame
    exact (within?_eq_some_iff.1 hsame.symm).2
  · rintro ⟨⟨other, hother⟩, hwithin⟩
    rw [writtenWithin?_of_le (Nat.le_max_right other depth),
      Option.bind_eq_some_iff]
    rw [writtenWithin?_of_le (Nat.le_max_left other depth), Option.bind_eq_some_iff] at hother
    obtain ⟨value, hvalue, hkeep⟩ := hother
    obtain ⟨rfl, -⟩ := within?_eq_some_iff.1 hkeep
    exact ⟨value, hvalue, within?_eq_some_iff.2 ⟨rfl, hwithin⟩⟩

/-- A text holds one value at most. -/
theorem Holds.unique {s : String} {written other : Value} (h : Holds s written)
    (hother : Holds s other) : written = other := by
  obtain ⟨depth, hdepth⟩ := h
  obtain ⟨limit, hlimit⟩ := hother
  rw [writtenWithin?_of_le (Nat.le_max_left depth limit), Option.bind_eq_some_iff] at hdepth
  rw [writtenWithin?_of_le (Nat.le_max_right depth limit), Option.bind_eq_some_iff] at hlimit
  obtain ⟨value, hvalue, hkeep⟩ := hdepth
  obtain ⟨value', hvalue', hkeep'⟩ := hlimit
  obtain rfl := Option.some.inj (hvalue.symm.trans hvalue')
  exact (within?_eq_some_iff.1 hkeep).1.symm.trans (within?_eq_some_iff.1 hkeep').1

theorem parse?_of_holds {s : String} {written : Value} (h : Holds s written) :
    parse? s = if written.Within maxDepth then some written.settled else none := by
  rw [parse?_eq_settle]
  split
  case isTrue hwithin =>
    rw [show written? s = some written from writtenWithin?_eq_some_iff.2 ⟨h, hwithin⟩]
    rfl
  case isFalse hdeep =>
    cases hwritten : written? s with
    | none => rfl
    | some other =>
      obtain ⟨hother, hwithin⟩ := writtenWithin?_eq_some_iff.1 hwritten
      exact absurd (h.unique hother ▸ hwithin) hdeep

theorem exists_holds_of_parse? {s : String} {value : Value} (h : parse? s = some value) :
    ∃ written, Holds s written ∧ written.Within maxDepth ∧ written.settled = value := by
  rw [parse?_eq_settle, Option.bind_eq_some_iff] at h
  obtain ⟨written, hwritten, hvalue⟩ := h
  obtain ⟨hholds, hwithin⟩ := writtenWithin?_eq_some_iff.1 hwritten
  exact ⟨written, hholds, hwithin, Option.some.inj hvalue⟩

/-- A text of a value holds it as it is settled. -/
theorem exists_holds_of_spells {depth : Nat} {value : Value} {s : String}
    (h : value.Within depth) (hs : Spells value s.toList) :
    ∃ written, Holds s written ∧ written.settled = value.settled := by
  have hread := wholeText_interprets (read_interprets (ε := Empty) (δ := Empty) depth) s
  rw [wholeText_of_takes (takes_settled depth value h) hs] at hread
  obtain ⟨written, hwritten, hvalue⟩ := Option.bind_eq_some_iff.1 hread.symm
  exact ⟨written, ⟨depth, hwritten⟩, Option.some.inj hvalue⟩

theorem within_of_parse? {s : String} {value : Value} (h : parse? s = some value) :
    value.Within maxDepth := by
  rw [parse?] at h
  split at h
  case h_1 value' hread =>
    obtain rfl := Option.some.inj h
    exact Normal.within (wholeText_yields (yields_read maxDepth) hread)
  case h_2 => cases h

/-- A value in normal form is read off its text unless it is too deep. -/
theorem parse?_of_normal {depth : Nat} {value : Value} {s : String} (h : value.Normal depth)
    (hs : Spells value s.toList) : parse? s = within? maxDepth value := by
  obtain ⟨written, hholds, hsettled⟩ := exists_holds_of_spells h.within hs
  rw [h.settled_eq] at hsettled
  have hread := parse?_of_holds hholds
  rw [hsettled] at hread
  unfold within?
  split
  case isTrue hwithin =>
    rw [parse?_of_spells hwithin hs, h.settled_eq]
  case isFalse hdeep =>
    cases hvalue : parse? s with
    | none => rfl
    | some other =>
      rw [hvalue] at hread
      split at hread
      case isTrue =>
        obtain rfl := Option.some.inj hread
        exact absurd (within_of_parse? hvalue) hdeep
      case isFalse => cases hread

end Value
end RaidProvision.Json

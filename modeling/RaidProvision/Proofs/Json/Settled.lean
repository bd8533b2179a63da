import RaidProvision.Proofs.Json.Normal
import RaidProvision.Proofs.Json.Written

/-!
# Values that are read off their texts

Whatever a value looks like, reading one of its texts settles it: the members of every object come
to stand in order of their names, and of those with the same name the last one is left. A value in
normal form is settled already.

* `takes_settled`: a value that is not too deep is read as it is settled, by induction on what may
  still be opened.
* `Value.Normal.settled_eq`, `takes_read`: a value in normal form is read as it is.
* `parse?_of_spells`: a whole text.
-/
namespace RaidProvision.Json

variable {ε α : Type}

theorem Value.settledAll_eq_map (elements : List Value) :
    Value.settledAll elements = elements.map Value.settled := by
  induction elements with
  | nil => rfl
  | cons value rest ih => rw [Value.settledAll, ih, List.map_cons]

/-- A value that is no deeper than `depth`. -/
def Value.Within : (depth : Nat) → Value → Prop
  | 0, .array _ => False
  | 0, .object _ => False
  | depth + 1, .array elements => ∀ value ∈ elements, Value.Within depth value
  | depth + 1, .object members => ∀ m ∈ members, Value.Within depth m.2
  | _, _ => True

theorem keyword_toList (word : String) (x : α) (rest : List Char) :
    keyword (ε := ε) word x (word.toList ++ rest) = .ok (x, rest) := by
  have hfirst : word.toList.isPrefixOf (word.toList ++ rest) = true :=
    List.isPrefixOf_iff_prefix.2 (List.prefix_append _ _)
  rw [keyword, if_pos hfirst, ← String.length_toList, List.drop_left]

/-- Members that are settled one by one are settled together. -/
theorem absorbs_settledMembers {value : Reader ε Value} {members : Members}
    (h : ∀ m ∈ members, Takes value m.2 m.2.settled) (held : Members) :
    Absorbs (settledMember value) held members (Value.settledMembers held members) := by
  induction members generalizing held with
  | nil => exact .nil held
  | cons m rest ih =>
    obtain ⟨name, first⟩ := m
    have htake := (h _ List.mem_cons_self).map (Members.insert name · held)
    exact .cons rfl htake (ih (fun m hm => h m (List.mem_cons_of_mem _ hm)) _)

/-- A value is read as it is settled. -/
theorem takes_settled : ∀ depth value, Value.Within depth value →
    Takes (Value.read (ε := ε) depth) value value.settled
  | depth, .null, _ => fun gap cs rest hg hs _ => by
    cases hs
    unfold Value.read
    simp only [skipSpace_spells hg .null]
    exact keyword_toList "null" _ rest
  | depth, .boolean b, _ => fun gap cs rest hg hs _ => by
    cases hs
    unfold Value.read
    simp only [skipSpace_spells hg (.boolean b)]
    cases b with
    | false => exact keyword_toList "false" _ rest
    | true => exact keyword_toList "true" _ rest
  | depth, .number n, _ => fun gap cs rest hg hs hr => by
    have hskip := skipSpace_spells hg hs rest
    cases hs with
    | number hn =>
      obtain ⟨c, ds, hcs, hc⟩ := hn.exists_cons
      have hfirst : (c = '-' || c.isDigit) = true := by simpa using hc
      have hother : ∀ d, d ≠ '-' → d.isDigit = false → c ≠ d := by
        rintro d hsign hdigit rfl
        simp [hsign, hdigit] at hfirst
      have hread := readNumber_write hn hr
      rw [hcs, List.cons_append] at hskip hread
      unfold Value.read
      rw [hcs, List.cons_append, hskip]
      split
      case h_7 heq =>
        obtain ⟨rfl, -⟩ := List.cons.inj heq
        rw [if_pos hfirst, Reader.map, readNumeral, hread]
        rfl
      case h_8 heq => exact absurd heq (List.cons_ne_nil _ _)
      all_goals
        exact absurd (List.cons.inj (by assumption)).1 (hother _ (by decide) (by decide))
  | depth, .text s, _ => fun gap cs rest hg hs _ => by
    cases hs
    unfold Value.read
    simp only [skipSpace_spells hg (.text s)]
    simp only [quote, List.cons_append, List.append_assoc, List.nil_append, Reader.map,
      readText_escaped]
    rfl
  | 0, .array _, h => absurd h (by simp [Value.Within])
  | 0, .object _, h => absurd h (by simp [Value.Within])
  | depth + 1, .array values, h => fun gap cs rest hg hs _ => by
    have hvalues : List.Forall₂ (Takes (Value.read (ε := ε) depth)) values
        (Value.settledAll values) := by
      rw [Value.settledAll_eq_map, List.forall₂_map_right_iff]
      exact List.forall₂_same.2 fun value hvalue => takes_settled depth value (h value hvalue)
    have hskip := skipSpace_spells hg hs rest
    obtain ⟨ds, rfl, hread⟩ := readArray_spells hvalues hs
    unfold Value.read
    simp only [hskip]
    simp only [List.cons_append, Reader.map, hread]
    rfl
  | depth + 1, .object members, h => fun gap cs rest hg hs _ => by
    have hmembers : Absorbs (settledMember (Value.read (ε := ε) depth)) [] members _ :=
      absorbs_settledMembers (fun m hm => takes_settled depth m.2 (h m hm)) []
    have hskip := skipSpace_spells hg hs rest
    obtain ⟨ds, rfl, hread⟩ := readObject_spells hmembers hs
    rw [Value.read_succ]
    unfold Value.readBy
    simp only [hskip]
    simp only [List.cons_append, Reader.map, hread]
    rfl

/-! ## Values in normal form -/

theorem Value.Normal.within : ∀ {depth : Nat} {value : Value}, value.Normal depth →
    value.Within depth
  | _, .null, _ => by simp [Value.Within]
  | _, .boolean _, _ => by simp [Value.Within]
  | _, .number _, _ => by simp [Value.Within]
  | _, .text _, _ => by simp [Value.Within]
  | 0, .array _, h => absurd h (by simp [Value.Normal])
  | 0, .object _, h => absurd h (by simp [Value.Normal])
  | _ + 1, .array _, h => fun value hvalue => (h value hvalue).within
  | _ + 1, .object _, h => fun m hm => (h.2 m hm).within

/-- Settled members in order come to stand behind those that are held. -/
theorem Value.settledMembers_of_sorted {members held : Members}
    (h : ∀ m ∈ members, m.2.settled = m.2) (hsorted : Members.Sorted (held ++ members)) :
    Value.settledMembers held members = held ++ members := by
  induction members generalizing held with
  | nil => rw [Value.settledMembers, List.append_nil]
  | cons m rest ih =>
    obtain ⟨name, value⟩ := m
    have hlast : ∀ m ∈ held, m.1 < name := fun m hm =>
      (List.pairwise_append.1 hsorted).2.2 m hm _ List.mem_cons_self
    have hvalue : value.settled = value := h _ List.mem_cons_self
    rw [List.append_cons] at hsorted ⊢
    rw [Value.settledMembers, hvalue, Members.insert_last hlast]
    exact ih (fun m hm => h m (List.mem_cons_of_mem _ hm)) hsorted

theorem Value.Normal.settled_eq : ∀ {depth : Nat} {value : Value}, value.Normal depth →
    value.settled = value
  | _, .null, _ => rfl
  | _, .boolean _, _ => rfl
  | _, .number _, _ => rfl
  | _, .text _, _ => rfl
  | 0, .array _, h => absurd h (by simp [Value.Normal])
  | 0, .object _, h => absurd h (by simp [Value.Normal])
  | _ + 1, .array elements, h => by
    have helements : elements.map Value.settled = elements.map id :=
      List.map_congr_left fun value hvalue => (h value hvalue).settled_eq
    rw [Value.settled, Value.settledAll_eq_map, helements, List.map_id]
  | _ + 1, .object members, h => by
    rw [Value.settled]
    exact congrArg Value.object
      (Value.settledMembers_of_sorted (fun m hm => (h.2 m hm).settled_eq) h.1)

/-- A value in normal form is read as it is. -/
theorem takes_read (depth : Nat) (value : Value) (h : Value.Normal depth value) :
    Takes (Value.read (ε := ε) depth) value value := by
  have htakes := takes_settled (ε := ε) depth value h.within
  rwa [h.settled_eq] at htakes

/-! ## Whole texts -/

theorem parse?_of_spells {value : Value} {s : String} (h : value.Within maxDepth)
    (hs : Spells value s.toList) : Value.parse? s = some value.settled := by
  rw [Value.parse?, wholeText_of_takes (takes_settled maxDepth value h) hs]

end RaidProvision.Json

import RaidProvision.Proofs.Json.Written
import RaidProvision.Proofs.Layout.ReadBack

/-!
# Layouts as they are written

What is read off a text of a layout is a function of the written value, that is, of its members in
the order in which they stand there. A known key that stands twice makes nothing of it; all others
are put together.

* `textPart_interprets`, `arrayPart_interprets`, `objectPart_interprets`, `optionalPart_interprets`,
  `checkedPart_interprets`: the parts.
* `LogicalDisk.ofWritten?`, `Layout.ofWritten?`, `Node.ofWritten?`: what is made of a written value.
* `Layout.toOption_ofText`, `Node.toOption_ofText`: that is what is read.
-/
namespace RaidProvision

open RaidProvision.Text RaidProvision.Json

variable {δ α β σ : Type}

/-- The elements of an array. -/
def Json.Value.elements? : Value → Option (List Value)
  | .array elements => some elements
  | _ => none

/-- The members of an object. -/
def Json.Value.members? : Value → Option Members
  | .object members => some members
  | _ => none

namespace Layout

/-- The reader of any value as it is written, where none is refused. -/
abbrev anyWritten (depth : Nat) : Reader Empty Value := Value.readWritten depth

/-- Null makes nothing, anything else what `make` makes of it. -/
def orNull (make : Value → Option α) : Value → Option (Option α)
  | .null => some none
  | value => (make value).map some

variable {depth : Nat}

theorem refuse_toOption (expected : String) (cs : List Char) :
    (refuse (α := α) expected cs).toOption = none := by
  cases hfound : readFound (ε := Defect) cs <;>
    simp [refuse, hfound, bind, Except.bind, Except.toOption, throw, throwThe,
      MonadExceptOf.throw]

theorem textPart_interprets : textPart.Interprets (anyWritten depth) Value.text? := by
  refine Reader.interprets_of_mark '"' ?_ ?_ ?_
  · intro value hvalue
    cases value <;> first | rfl | cases hvalue
  · intro cs hcs
    unfold textPart
    split
    case h_1 ds hds => exact absurd hds (hcs ds)
    case h_2 => exact refuse_toOption _ cs
  · intro cs ds hds
    obtain ⟨elements, members, hby⟩ := Value.readWritten_eq_readBy (ε := Empty) depth
    rw [hby]
    unfold textPart Value.readBy
    simp only [hds, Reader.map_toOption, readText_toOption (ε := Defect) (δ := Empty)]
    cases (readText (ε := Empty) ds).toOption <;> rfl

theorem arrayPart_interprets {element : Nat → PartReader α} {make : Value → Option α}
    (h : ∀ depth, (element depth).Interprets (anyWritten depth) make) :
    (arrayPart depth element).Interprets (anyWritten depth) fun value =>
      value.elements?.bind (List.mapM make) := by
  refine Reader.interprets_of_mark '[' ?_ ?_ ?_
  · intro value hvalue
    cases value <;> first | rfl | cases hvalue
  · intro cs hcs
    unfold arrayPart
    split
    case h_1 ds hds => exact absurd hds (hcs ds)
    case h_2 => exact refuse_toOption _ cs
  · intro cs ds hds
    unfold arrayPart
    cases depth with
    | zero =>
      simp only [hds, Value.readWritten, Value.readBy]
      rfl
    | succ depth =>
      simp only [hds, Value.readWritten, Value.readBy, Reader.map_toOption]
      rw [readArray_interprets (h depth) ds]
      cases (readArray (anyWritten depth) ds).toOption <;> rfl

/-- What is read under a name is made of its written value; if the name is refused, nothing is. -/
def Agrees (depth : Nat) (reader? : Except Defect (PartReader σ)) (make : Value → Option σ) :
    Prop :=
  match reader? with
  | .error _ => ∀ value, make value = none
  | .ok reader => reader.Interprets (anyWritten depth) make

theorem objectPart_interprets {structureName : String}
    {member : Nat → String → σ → Except Defect (PartReader σ)}
    {take : σ → String × Value → Option σ}
    (h : ∀ depth name state, Agrees depth (member depth name state) fun value =>
      take state (name, value)) (start : σ) :
    (objectPart depth structureName member start).Interprets (anyWritten depth) fun value =>
      value.members?.bind (List.foldlM take start) := by
  refine Reader.interprets_of_mark '\x7b' ?_ ?_ ?_
  · intro value hvalue
    cases value <;> first | rfl | cases hvalue
  · intro cs hcs
    unfold objectPart
    split
    case h_1 ds hds => exact absurd hds (hcs ds)
    case h_2 => exact refuse_toOption _ cs
  · intro cs ds hds
    unfold objectPart
    cases depth with
    | zero =>
      simp only [hds, Value.readWritten, Value.readBy]
      rfl
    | succ depth =>
      have hmembers := @readObject_interprets _ _ _ _ (member depth) (anyWritten depth) take ?_ ?_
        start ds
      · simp only [hds, Value.readWritten, Value.readBy, Reader.map_toOption, hmembers]
        cases (readObject (writtenMember (anyWritten depth)) [] ds).toOption <;> rfl
      · intro name state cause hcause value
        have hagrees := h depth name state
        rw [hcause] at hagrees
        exact hagrees value
      · intro name state reader hreader
        have hagrees := h depth name state
        rw [hreader] at hagrees
        exact hagrees

theorem orNull_of_ne_null {make : Value → Option α} {value : Value} (h : value ≠ .null) :
    orNull make value = (make value).map some := by
  unfold orNull
  split
  case h_1 => exact absurd rfl h
  case h_2 => rfl

theorem optionalPart_interprets {part : PartReader α} {make : Value → Option α}
    (h : part.Interprets (anyWritten depth) make) :
    (optionalPart part).Interprets (anyWritten depth) (orNull make) := by
  intro cs
  obtain ⟨elements, members, hby⟩ := Value.readWritten_eq_readBy (ε := Empty) depth
  unfold optionalPart
  split
  case h_1 ds hds =>
    have hwritten : anyWritten depth cs = keyword "null" .null (skipSpace cs) := by
      rw [anyWritten, hby]
      unfold Value.readBy
      simp only [hds]
    rw [hwritten]
    exact keyword_interprets "null" (orNull make) (by rfl) _
  case h_2 hcs =>
    rw [Reader.map_toOption, h cs]
    cases hread : anyWritten depth cs with
    | error fault => rfl
    | ok result =>
      obtain ⟨value, rest⟩ := result
      have hvalue : value ≠ .null := by
        rintro rfl
        rw [anyWritten, hby] at hread
        have hmark : Value.null.mark? = some 'n' := rfl
        obtain ⟨ds, hds⟩ := behind?_of_readBy hread hmark
        exact hcs ds hds
      simp only [Except.toOption, Option.bind_some, orNull_of_ne_null hvalue]
      cases make value <;> rfl

theorem checkedPart_toOption (part : PartReader α) (check : α → Except Defect β) (cs : List Char) :
    (checkedPart part check cs).toOption =
      (part cs).toOption.bind fun (x, rest) => (check x).toOption.map (·, rest) := by
  unfold checkedPart
  cases part cs with
  | error fault => rfl
  | ok result =>
    obtain ⟨x, rest⟩ := result
    cases hcheck : check x <;>
      simp [hcheck, bind, Except.bind, Except.toOption, pure, Except.pure, throw, throwThe,
        MonadExceptOf.throw]

theorem checkedPart_interprets {other : Reader δ Value} {part : PartReader α}
    {make : Value → Option α} (h : part.Interprets other make) (check : α → Except Defect β) :
    (checkedPart part check).Interprets other fun value =>
      (make value).bind fun x => (check x).toOption := by
  intro cs
  rw [checkedPart_toOption, h cs]
  cases (other cs).toOption with
  | none => rfl
  | some result =>
    obtain ⟨value, rest⟩ := result
    cases hmake : make value with
    | none => simp [hmake]
    | some x => cases hcheck : (check x).toOption <;> simp [hmake, hcheck]

/-- What is made of a member that must not have been there before. -/
def takeOnce (before : Option α) (make : Value → Option α) (set : α → σ) (value : Value) :
    Option σ :=
  match before with
  | some _ => none
  | none => (make value).map set

/-- What is made of a member that is not known. -/
def takeOther (extra : Members) (set : Members → σ) (member : String × Value) : Option σ :=
  some (set (extra.insert member.1 member.2.settled))

theorem takeOnce_map {τ : Type} (before : Option α) (make : Value → Option α) (set : α → σ)
    (value : Value) (f : σ → τ) : (takeOnce before make set value).map f =
      takeOnce before make (fun x => f (set x)) value := by
  cases before with
  | some _ => rfl
  | none => exact Option.map_map f set (make value)

theorem exists_of_takeOnce {before : Option α} {make : Value → Option α} {set : α → σ}
    {value : Value} {state : σ} (h : takeOnce before make set value = some state) :
    ∃ x, set x = state := by
  cases before with
  | some _ => cases h
  | none =>
    obtain ⟨x, -, hx⟩ := Option.map_eq_some_iff.1 h
    exact ⟨x, hx⟩

theorem once_agrees {part : PartReader α} {make : Value → Option α}
    (h : part.Interprets (anyWritten depth) make) (name : String) (before : Option α)
    (set : α → σ) : Agrees depth (once name before part set) (takeOnce before make set) := by
  cases before with
  | some _ => exact fun _ => rfl
  | none => exact h.map set

theorem other_agrees (depth : Nat) (name : String) (extra : Members) (set : Members → σ) :
    Agrees depth (other depth name extra set) fun value => takeOther extra set (name, value) :=
  (read_interprets depth).map fun value => set (extra.insert name value)

end Layout

/-! ## Entries -/

namespace SizeRequest

open Layout

/-- The size that a written value stands for. -/
def ofWritten? (value : Value) : Option SizeRequest := (ofValue value.settled).toOption

theorem part_interprets (depth : Nat) : (part depth).Interprets (anyWritten depth) ofWritten? :=
  checkedPart_interprets (read_interprets depth) ofValue

end SizeRequest

namespace LogicalDisk

open Layout

/-- The level or controller that a written value stands for. -/
def nameOfWritten? (value : Value) : Option (Option String) := (nameOf value.settled).toOption

theorem nameOf_interprets (depth : Nat) :
    (checkedPart (Value.read depth) nameOf).Interprets (anyWritten depth) nameOfWritten? :=
  checkedPart_interprets (read_interprets depth) nameOf

/-- The drives that a written value stands for. -/
def drivesOfWritten? (value : Value) : Option (List String) :=
  value.elements?.bind (List.mapM Value.text?)

/-- Puts a written member to what is known of an entry. -/
def take (draft : Draft) (m : String × Value) : Option Draft :=
  if m.1 = "size_gb" then
    takeOnce draft.size (orNull SizeRequest.ofWritten?) (fun x => { draft with size := some x }) m.2
  else if m.1 = "raid_level" then
    takeOnce draft.level nameOfWritten? (fun x => { draft with level := some x }) m.2
  else if m.1 = "physical_disks" then
    takeOnce draft.members (orNull drivesOfWritten?) (fun x => { draft with members := some x }) m.2
  else if m.1 = "controller" then
    takeOnce draft.controller nameOfWritten? (fun x => { draft with controller := some x }) m.2
  else takeOther draft.extra (fun extra => { draft with extra := extra }) m

/-- The entry that a written value stands for. -/
def ofWritten? (value : Value) : Option LogicalDisk :=
  (value.members?.bind (List.foldlM take .empty)).map ofDraft

theorem member_agrees (depth : Nat) (name : String) (draft : Draft) :
    Agrees depth (member depth name draft) fun value => take draft (name, value) := by
  unfold member take
  by_cases hsize : name = "size_gb"
  · simp only [if_pos hsize]
    exact once_agrees (optionalPart_interprets (SizeRequest.part_interprets depth)) name _ _
  by_cases hlevel : name = "raid_level"
  · simp only [if_neg hsize, if_pos hlevel]
    exact once_agrees (nameOf_interprets depth) name _ _
  by_cases hmembers : name = "physical_disks"
  · simp only [if_neg hsize, if_neg hlevel, if_pos hmembers]
    have hdrives : (arrayPart depth fun _ => textPart).Interprets (anyWritten depth)
        drivesOfWritten? := arrayPart_interprets fun _ => textPart_interprets
    exact once_agrees (optionalPart_interprets hdrives) name _ _
  by_cases hcontroller : name = "controller"
  · simp only [if_neg hsize, if_neg hlevel, if_neg hmembers, if_pos hcontroller]
    exact once_agrees (nameOf_interprets depth) name _ _
  simp only [if_neg hsize, if_neg hlevel, if_neg hmembers, if_neg hcontroller]
  exact other_agrees depth name _ _

theorem part_interprets (depth : Nat) : (part depth).Interprets (anyWritten depth) ofWritten? :=
  (objectPart_interprets member_agrees .empty).map ofDraft

end LogicalDisk

/-! ## Layouts and records -/

namespace Layout

/-- Puts a written member to what is known of a layout. -/
def take (draft : Draft) (m : String × Value) : Option Draft :=
  if m.1 = "logical_disks" then
    takeOnce draft.disks (fun value => value.elements?.bind (List.mapM LogicalDisk.ofWritten?))
      (fun x => { draft with disks := some x }) m.2
  else takeOther draft.extra (fun extra => { draft with extra := extra }) m

/-- The layout of what was read. -/
def ofDraft (draft : Draft) : Layout := ⟨draft.disks.getD [], draft.extra⟩

/-- The layout that a written value stands for. -/
def ofWritten? (value : Value) : Option Layout :=
  (value.members?.bind (List.foldlM take .empty)).map ofDraft

theorem member_agrees (depth : Nat) (name : String) (draft : Draft) :
    Agrees depth (member depth name draft) fun value => take draft (name, value) := by
  unfold member take
  by_cases hdisks : name = "logical_disks"
  · simp only [if_pos hdisks]
    exact once_agrees (arrayPart_interprets LogicalDisk.part_interprets) name _ _
  · simp only [if_neg hdisks]
    exact other_agrees depth name _ _

theorem part_interprets (depth : Nat) : (part depth).Interprets (anyWritten depth) ofWritten? :=
  (objectPart_interprets member_agrees .empty).map ofDraft

/-- What is read off the text of a layout is a function of its written value. -/
theorem toOption_ofText (s : String) :
    (ofText s).toOption = (Value.written? s).bind ofWritten? :=
  wholeText_of_interprets (part_interprets maxDepth) s

end Layout

namespace Node

open Layout

/-- Puts a written member to what is known of a record. -/
def take (draft : Draft) (m : String × Value) : Option Draft :=
  if m.1 = "uuid" then
    takeOnce draft.uuid (orNull Value.text?) (fun x => { draft with uuid := some x }) m.2
  else if m.1 = "target_raid_config" then
    takeOnce draft.layout (orNull Layout.ofWritten?) (fun x => { draft with layout := some x }) m.2
  else takeOther draft.extra (fun extra => { draft with extra := extra }) m

/-- The record that a written value stands for. -/
def ofWritten? (value : Value) : Option Node :=
  (value.members?.bind (List.foldlM take .empty)).map ofDraft

theorem member_agrees (depth : Nat) (name : String) (draft : Draft) :
    Agrees depth (member depth name draft) fun value => take draft (name, value) := by
  unfold member take
  by_cases huuid : name = "uuid"
  · simp only [if_pos huuid]
    exact once_agrees (optionalPart_interprets textPart_interprets) name _ _
  by_cases hlayout : name = "target_raid_config"
  · simp only [if_neg huuid, if_pos hlayout]
    exact once_agrees (optionalPart_interprets (Layout.part_interprets depth)) name _ _
  simp only [if_neg huuid, if_neg hlayout]
  exact other_agrees depth name _ _

theorem part_interprets (depth : Nat) : (part depth).Interprets (anyWritten depth) ofWritten? :=
  (objectPart_interprets member_agrees .empty).map ofDraft

/-- What is read off the text of a record is a function of its written value. -/
theorem toOption_ofText (s : String) :
    (ofText s).toOption = (Value.written? s).bind ofWritten? :=
  wholeText_of_interprets (part_interprets maxDepth) s

end Node
end RaidProvision

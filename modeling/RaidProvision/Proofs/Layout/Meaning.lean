import RaidProvision.Proofs.Json.Shadow
import RaidProvision.Proofs.Layout.ReadBack

/-!
# What a record says

A record is checked while it is read, part by part, and the first part that does not fit ends it.
So what is read is said by the text as a whole: the text is that of a JSON value, each key that is
known holds a value of its kind there or nothing, and each size is one that can be told. If one
entry asks for more, the others do not help: nothing is read.

* `Value.Says`, `SizeRequest.SaidBy`, `LogicalDisk.SaidBy`, `Layout.SaidBy`, `Node.SaidBy`: what a
  value has to be so that something is read off it.
* `LogicalDisk.part_shadows`, and for layouts and records alike: the readers beside that of any
  value.
* `Node.saidBy_of_ofText`: what is read off a text is said by its value.
* `Node.SaidBy.not_asksTooMuch`: no entry asks for more than can be told.
-/
namespace RaidProvision

open RaidProvision.Text RaidProvision.Json

/-! ## Members of an object -/

variable {α β σ : Type}

/-- What an object has under a name: nothing or null, or a value that says something. -/
def Json.Value.Says (value : Value) (name : String) (R : α → Value → Prop) : Option α → Prop
  | none => value.member? name = none ∨ value.member? name = some .null
  | some x => ∃ held, value.member? name = some held ∧ R x held

namespace Layout

/-- Null says nothing. -/
def Nullable (R : α → Value → Prop) : Option α → Value → Prop
  | none, value => value = .null
  | some x, value => R x value

/-- Under a name there is what was read there, if something was. -/
def Kept (R : α → Value → Prop) (held : Members) (name : String) : Option α → Prop
  | none => held.lookup name = none
  | some x => ∃ value, held.lookup name = some value ∧ R x value

theorem Kept.insert_self {R : α → Value → Prop} {x : α} {value : Value} (held : Members)
    (name : String) (h : R x value) : Kept R (held.insert name value) name (some x) :=
  ⟨value, by rw [Members.lookup_insert, if_pos rfl], h⟩

theorem Kept.insert_other {R : α → Value → Prop} {held : Members} {name other : String}
    {x : Option α} (h : Kept R held name x) (value : Value) (hne : name ≠ other) :
    Kept R (held.insert other value) name x := by
  have hlookup : (held.insert other value).lookup name = held.lookup name := by
    rw [Members.lookup_insert, if_neg hne]
  cases x with
  | none => exact hlookup.trans h
  | some x =>
    obtain ⟨found, hfound, hR⟩ := h
    exact ⟨found, hlookup.trans hfound, hR⟩

/-- What was read is what the object says. -/
theorem Kept.says {R : α → Value → Prop} {held : Members} {name : String} {x : Option (Option α)}
    (h : Kept (Nullable R) held name x) : (Value.object held).Says name R x.join := by
  cases x with
  | none => exact .inl h
  | some x =>
    obtain ⟨value, hvalue, hR⟩ := h
    cases x with
    | none =>
      obtain rfl : value = .null := hR
      exact .inr hvalue
    | some x => exact ⟨value, hvalue, hR⟩

/-! ## Parts beside any value -/

/-- The reader of any value, where none is refused. -/
abbrev anyValue (depth : Nat) : Reader Empty Value := Value.read depth

variable {depth : Nat}

theorem refuse_ne_ok {expected : String} {cs : List Char} {result : α × List Char} :
    refuse expected cs ≠ .ok result := by
  intro h
  cases hfound : readFound (ε := Defect) cs <;> simp [refuse, hfound, bind, Except.bind] at h

theorem textPart_shadows :
    textPart.Shadows (anyValue depth) fun s value => value = .text s := by
  intro cs s rest hs
  unfold textPart at hs
  split at hs
  case h_1 ds hquote =>
    obtain ⟨_, hread, rfl⟩ := readText_shadows (δ := Empty) ds s rest hs
    refine ⟨.text s, ?_, rfl⟩
    unfold anyValue Value.read
    simp only [hquote, Reader.map, hread, Except.map]
  case h_2 => exact absurd hs refuse_ne_ok

theorem arrayPart_shadows {element : Nat → PartReader α} {R : α → Value → Prop}
    (h : (element depth).Shadows (anyValue depth) R) :
    (arrayPart (depth + 1) element).Shadows (anyValue (depth + 1)) fun xs value =>
      ∃ values, value = .array values ∧ List.Forall₂ R xs values := by
  intro cs xs rest hxs
  unfold arrayPart at hxs
  split at hxs
  case h_1 ds hbracket =>
    obtain ⟨values, hread, hvalues⟩ := readArray_shadows h ds xs rest hxs
    refine ⟨.array values, ?_, values, rfl, hvalues⟩
    unfold anyValue Value.read
    simp only [hbracket, Reader.map, hread, Except.map]
  case h_2 => exact absurd hxs refuse_ne_ok

/-- What is read so far is said by the members so far, and what is made of it by the object. -/
theorem objectPart_shadows {structureName : String}
    {member : Nat → String → σ → Except Defect (PartReader σ)} {R : σ → Members → Prop}
    {make : σ → α} {S : α → Value → Prop} {s : σ}
    (h : ∀ {name s held reader}, R s held → member depth name s = .ok reader →
      reader.Shadows (Reader.map (Members.insert name · held) (anyValue depth)) R)
    (hs : R s []) (hmake : ∀ t held, R t held → S (make t) (.object held)) :
    (Reader.map make (objectPart (depth + 1) structureName member s)).Shadows
      (anyValue (depth + 1)) S := by
  refine Reader.Shadows.map_left ?_
  intro cs t rest ht
  unfold objectPart at ht
  split at ht
  case h_1 ds hbrace =>
    obtain ⟨held, hread, hR⟩ := readObject_shadows (fun _ _ _ _ => h) hs ds t rest ht
    refine ⟨.object held, ?_, hmake t held hR⟩
    unfold anyValue Value.read
    simp only [hbrace, Reader.map, hread, Except.map]
  case h_2 => exact absurd ht refuse_ne_ok

theorem optionalPart_shadows {part : PartReader α} {R : α → Value → Prop}
    (h : part.Shadows (anyValue depth) R) :
    (optionalPart part).Shadows (anyValue depth) (Nullable R) := by
  intro cs x rest hx
  unfold optionalPart at hx
  split at hx
  case h_1 ds hn =>
    obtain ⟨value, hread, hnull⟩ := keyword_shadows (δ := Empty) "null"
      (R := Nullable R) (x := none) (y := Value.null) rfl _ _ _ hx
    refine ⟨value, ?_, hnull⟩
    unfold anyValue Value.read
    simp only [hn] at hread ⊢
    exact hread
  case h_2 => exact Reader.Shadows.map_left (f := some) (R := Nullable R) h _ _ _ hx

theorem checkedPart_shadows {part : PartReader α} {check : α → Except Defect β}
    {R : α → Value → Prop} {S : β → Value → Prop} (h : part.Shadows (anyValue depth) R)
    (hcheck : ∀ x y value, R x value → check x = .ok y → S y value) :
    (checkedPart part check).Shadows (anyValue depth) S := by
  intro cs y rest hy
  unfold checkedPart at hy
  cases hx : part cs with
  | error fault => simp [hx, bind, Except.bind] at hy
  | ok result =>
    obtain ⟨x, ds⟩ := result
    obtain ⟨value, hread, hR⟩ := h cs x ds hx
    simp only [hx, bind, Except.bind] at hy
    split at hy
    case h_1 z hz =>
      obtain ⟨rfl, rfl⟩ : z = y ∧ ds = rest := by simpa [pure, Except.pure] using hy
      exact ⟨value, hread, hcheck x z value hR hz⟩
    case h_2 => simp [throw, throwThe, MonadExceptOf.throw] at hy

theorem once_shadows {name : String} {before : Option α} {part : PartReader α} {set : α → σ}
    {held : Members} {R : α → Value → Prop} {S : σ → Members → Prop} {reader : PartReader σ}
    (h : part.Shadows (anyValue depth) R)
    (hset : ∀ x value, R x value → S (set x) (held.insert name value))
    (honce : once name before part set = .ok reader) :
    reader.Shadows (Reader.map (Members.insert name · held) (anyValue depth)) S := by
  cases before with
  | some _ => simp [once] at honce
  | none =>
    obtain rfl := Except.ok.inj honce
    exact .map (h.mono hset)

theorem other_shadows {name : String} {extra held : Members} {set : Members → σ}
    {S : σ → Members → Prop} {reader : PartReader σ}
    (hset : ∀ value, S (set (extra.insert name value)) (held.insert name value))
    (hother : other depth name extra set = .ok reader) :
    reader.Shadows (Reader.map (Members.insert name · held) (anyValue depth)) S := by
  obtain rfl := Except.ok.inj hother
  refine .map ((read_shadows depth).mono ?_)
  rintro value _ rfl
  exact hset value

end Layout

/-! ## Sizes -/

/-- A value says a size. -/
inductive SizeRequest.SaidBy : SizeRequest → Value → Prop where
  | max {s : String} (h : sameFold s "max") : SaidBy .max (.text s)
  | number {n : UInt64} (h : n.toNat ≤ maxGb) : SaidBy (.gb n) (.nat n.toNat)
  | text {s : String} {n : UInt64} (hs : readUInt64 s = .ok n) (h : n.toNat ≤ maxGb) :
    SaidBy (.gb n) (.text s)

namespace SizeRequest

open Layout

theorem saidBy_of_ofValue {size : SizeRequest} {value : Value} (h : ofValue value = .ok size) :
    size.SaidBy value := by
  cases ofValue_eq_ok_iff.1 h with
  | max hmax => exact .max hmax
  | @number n hle =>
    have hn : (UInt64.ofNat n).toNat = n := UInt64.toNat_ofNat_of_lt' (lt_size_of_le_maxGb hle)
    have hsaid := SaidBy.number (n := .ofNat n) (by rwa [hn])
    rwa [hn] at hsaid
  | @text s n hs hle =>
    have hn : (UInt64.ofNat n).toNat = n := UInt64.toNat_ofNat_of_lt' (lt_size_of_le_maxGb hle)
    exact .text (readUInt64_eq_ok_iff.2 (by rwa [hn])) (by rwa [hn])

theorem part_shadows (depth : Nat) : (part depth).Shadows (anyValue depth) SaidBy := by
  refine checkedPart_shadows (read_shadows depth) ?_
  rintro value size _ rfl h
  exact saidBy_of_ofValue h

end SizeRequest

/-! ## Entries -/

namespace LogicalDisk

open Layout

/-- A value says a level or a controller. -/
inductive NamedBy : String → Value → Prop where
  | text (s : String) : NamedBy s (.text s)
  | number (n : Number) : NamedBy n.write (.number n)

/-- A value says which drives. -/
def MembersSaidBy (names : List String) (value : Value) : Prop := value = .array (names.map .text)

/-- A value says an entry. -/
structure SaidBy (disk : LogicalDisk) (value : Value) : Prop where
  isObject : ∃ members, value = .object members
  size : value.Says "size_gb" SizeRequest.SaidBy disk.size
  level : value.Says "raid_level" NamedBy disk.level
  members : value.Says "physical_disks" MembersSaidBy disk.members
  controller : value.Says "controller" NamedBy disk.controller

theorem namedBy_of_nameOf {value : Value} {name : Option String} (h : nameOf value = .ok name) :
    Nullable NamedBy name value := by
  unfold nameOf at h
  split at h
  case h_1 =>
    obtain rfl := Except.ok.inj h
    exact rfl
  case h_2 s =>
    obtain rfl := Except.ok.inj h
    exact .text s
  case h_3 n =>
    obtain rfl := Except.ok.inj h
    exact .number n
  case h_4 => simp at h

theorem nameOf_shadows (depth : Nat) :
    (checkedPart (Value.read depth) nameOf).Shadows (anyValue depth) (Nullable NamedBy) := by
  refine checkedPart_shadows (read_shadows depth) ?_
  rintro value name _ rfl h
  exact namedBy_of_nameOf h

theorem members_shadows (depth : Nat) :
    (optionalPart (arrayPart (depth + 1) fun _ => textPart)).Shadows (anyValue (depth + 1))
      (Nullable MembersSaidBy) := by
  refine optionalPart_shadows ((arrayPart_shadows textPart_shadows).mono ?_)
  rintro names value ⟨values, rfl, hnames⟩
  have htexts : List.Forall₂ Eq (names.map .text) values :=
    List.forall₂_map_left_iff.2 (hnames.imp fun _ _ h => h.symm)
  rw [List.forall₂_eq_eq_eq] at htexts
  rw [MembersSaidBy, htexts]

/-- What was read of an entry so far is what the members so far say. -/
structure Draft.Kept (draft : Draft) (held : Members) : Prop where
  size : Layout.Kept (Nullable SizeRequest.SaidBy) held "size_gb" draft.size
  level : Layout.Kept (Nullable NamedBy) held "raid_level" draft.level
  members : Layout.Kept (Nullable MembersSaidBy) held "physical_disks" draft.members
  controller : Layout.Kept (Nullable NamedBy) held "controller" draft.controller

theorem member_shadows {depth : Nat} {name : String} {draft : Draft} {held : Members}
    {reader : PartReader Draft} (h : draft.Kept held)
    (hreader : member (depth + 1) name draft = .ok reader) :
    reader.Shadows (Reader.map (Members.insert name · held) (anyValue (depth + 1)))
      Draft.Kept := by
  unfold member at hreader
  split at hreader
  case isTrue hname =>
    subst hname
    refine once_shadows (optionalPart_shadows (SizeRequest.part_shadows _)) ?_ hreader
    intro x value hx
    exact ⟨.insert_self held _ hx, h.level.insert_other value (by decide),
      h.members.insert_other value (by decide), h.controller.insert_other value (by decide)⟩
  split at hreader
  case isTrue hname =>
    subst hname
    refine once_shadows (nameOf_shadows _) ?_ hreader
    intro x value hx
    exact ⟨h.size.insert_other value (by decide), .insert_self held _ hx,
      h.members.insert_other value (by decide), h.controller.insert_other value (by decide)⟩
  split at hreader
  case isTrue hname =>
    subst hname
    refine once_shadows (members_shadows depth) ?_ hreader
    intro x value hx
    exact ⟨h.size.insert_other value (by decide), h.level.insert_other value (by decide),
      .insert_self held _ hx, h.controller.insert_other value (by decide)⟩
  split at hreader
  case isTrue hname =>
    subst hname
    refine once_shadows (nameOf_shadows _) ?_ hreader
    intro x value hx
    exact ⟨h.size.insert_other value (by decide), h.level.insert_other value (by decide),
      h.members.insert_other value (by decide), .insert_self held _ hx⟩
  refine other_shadows (fun value => ?_) hreader
  exact ⟨h.size.insert_other value (Ne.symm ‹_›), h.level.insert_other value (Ne.symm ‹_›),
    h.members.insert_other value (Ne.symm ‹_›), h.controller.insert_other value (Ne.symm ‹_›)⟩

theorem part_shadows (depth : Nat) : (part (depth + 2)).Shadows (anyValue (depth + 2)) SaidBy := by
  have hstart : Draft.empty.Kept [] := ⟨rfl, rfl, rfl, rfl⟩
  refine objectPart_shadows member_shadows hstart fun draft held hkept => ?_
  exact ⟨⟨held, rfl⟩, hkept.size.says, hkept.level.says, hkept.members.says,
    hkept.controller.says⟩

end LogicalDisk

/-! ## Layouts -/

namespace Layout

/-- A value says some entries. -/
def DisksSaidBy (disks : List LogicalDisk) (value : Value) : Prop :=
  ∃ elements, value = .array elements ∧ List.Forall₂ LogicalDisk.SaidBy disks elements

/-- A value says a layout. -/
structure SaidBy (layout : Layout) (value : Value) : Prop where
  isObject : ∃ members, value = .object members
  disks : (value.member? "logical_disks" = none ∧ layout.disks = []) ∨
    ∃ held, value.member? "logical_disks" = some held ∧ DisksSaidBy layout.disks held

theorem member_shadows {depth : Nat} {name : String} {draft : Draft} {held : Members}
    {reader : PartReader Draft} (h : Kept DisksSaidBy held "logical_disks" draft.disks)
    (hreader : member (depth + 3) name draft = .ok reader) :
    reader.Shadows (Reader.map (Members.insert name · held) (anyValue (depth + 3)))
      fun draft held => Kept DisksSaidBy held "logical_disks" draft.disks := by
  unfold member at hreader
  split at hreader
  case isTrue hname =>
    subst hname
    refine once_shadows (arrayPart_shadows (LogicalDisk.part_shadows depth)) ?_ hreader
    intro x value hx
    exact .insert_self held _ hx
  case isFalse hname =>
    refine other_shadows (fun value => ?_) hreader
    exact h.insert_other value (Ne.symm hname)

theorem part_shadows (depth : Nat) : (part (depth + 4)).Shadows (anyValue (depth + 4)) SaidBy := by
  have hstart : Kept DisksSaidBy [] "logical_disks" Draft.empty.disks := rfl
  refine objectPart_shadows member_shadows hstart fun draft held hkept => ?_
  refine ⟨⟨held, rfl⟩, ?_⟩
  cases hdisks : draft.disks with
  | none =>
    rw [hdisks] at hkept
    exact .inl ⟨hkept, rfl⟩
  | some disks =>
    rw [hdisks] at hkept
    exact .inr hkept

end Layout

/-! ## Records -/

namespace Node

open Layout

/-- A value says a record of a machine. -/
structure SaidBy (node : Node) (value : Value) : Prop where
  isObject : ∃ members, value = .object members
  uuid : value.Says "uuid" (fun s held => held = .text s) node.uuid
  layout : value.Says "target_raid_config" Layout.SaidBy node.layout

/-- What was read of a record so far is what the members so far say. -/
structure Draft.Kept (draft : Draft) (held : Members) : Prop where
  uuid : Layout.Kept (Nullable fun s held => held = .text s) held "uuid" draft.uuid
  layout : Layout.Kept (Nullable Layout.SaidBy) held "target_raid_config" draft.layout

theorem member_shadows {depth : Nat} {name : String} {draft : Draft} {held : Members}
    {reader : PartReader Draft} (h : draft.Kept held)
    (hreader : member (depth + 4) name draft = .ok reader) :
    reader.Shadows (Reader.map (Members.insert name · held) (anyValue (depth + 4)))
      Draft.Kept := by
  unfold member at hreader
  split at hreader
  case isTrue hname =>
    subst hname
    refine once_shadows (optionalPart_shadows textPart_shadows) ?_ hreader
    intro x value hx
    exact ⟨.insert_self held _ hx, h.layout.insert_other value (by decide)⟩
  split at hreader
  case isTrue hname =>
    subst hname
    refine once_shadows (optionalPart_shadows (Layout.part_shadows depth)) ?_ hreader
    intro x value hx
    exact ⟨h.uuid.insert_other value (by decide), .insert_self held _ hx⟩
  refine other_shadows (fun value => ?_) hreader
  exact ⟨h.uuid.insert_other value (Ne.symm ‹_›), h.layout.insert_other value (Ne.symm ‹_›)⟩

theorem part_shadows (depth : Nat) : (part (depth + 5)).Shadows (anyValue (depth + 5)) SaidBy := by
  have hstart : Draft.empty.Kept [] := ⟨rfl, rfl⟩
  refine objectPart_shadows member_shadows hstart fun draft held hkept => ?_
  exact ⟨⟨held, rfl⟩, hkept.uuid.says, hkept.layout.says⟩

/-- What is read as a record is said by the value of the text. -/
theorem saidBy_of_ofText {s : String} {node : Node} (h : ofText s = .ok node) :
    ∃ value, Value.parse? s = some value ∧ node.SaidBy value :=
  parse?_of_shadows (part_shadows (maxDepth - 5)) h

end Node

/-! ## Sizes that cannot be told -/

/-- A value asks for more gigabytes than can be told. -/
inductive Json.Value.IsTooLarge : Value → Prop where
  | number {n : Int} (h : SizeRequest.maxGb < n) : IsTooLarge (.number (.integer n))
  | text {s : String} {n : UInt64} (hs : readUInt64 s = .ok n) (h : SizeRequest.maxGb < n.toNat) :
    IsTooLarge (.text s)

/-- Some entry of a record asks for more gigabytes than can be told. -/
def Json.Value.AsksTooMuch (value : Value) : Prop :=
  ∃ layout elements entry size, value.member? "target_raid_config" = some layout ∧
    layout.member? "logical_disks" = some (.array elements) ∧ entry ∈ elements ∧
    entry.member? "size_gb" = some size ∧ size.IsTooLarge

theorem SizeRequest.SaidBy.not_isTooLarge {size : SizeRequest} {value : Value}
    (h : size.SaidBy value) : ¬ value.IsTooLarge := by
  intro hlarge
  cases h with
  | max hmax =>
    cases hlarge with
    | text hs hlt =>
      exact absurd (readUInt64_eq_ok_iff.1 hs) (not_numeral_of_sameFold_max hmax)
  | @number n hle =>
    cases hlarge with
    | number hlt => exact absurd hle (by omega)
  | text hs hle =>
    cases hlarge with
    | text hs' hlt =>
      obtain rfl := Except.ok.inj (hs.symm.trans hs')
      exact absurd hle (by omega)

theorem LogicalDisk.SaidBy.not_isTooLarge {disk : LogicalDisk} {value size : Value}
    (h : disk.SaidBy value) (hsize : value.member? "size_gb" = some size) : ¬ size.IsTooLarge := by
  have hsays := h.size
  cases hd : disk.size with
  | none =>
    rw [hd] at hsays
    rcases hsays with hnone | hnull
    · simp [hnone] at hsize
    · obtain rfl := Option.some.inj (hnull.symm.trans hsize)
      rintro ⟨⟩
  | some request =>
    rw [hd] at hsays
    obtain ⟨held, hheld, hsaid⟩ := hsays
    obtain rfl := Option.some.inj (hheld.symm.trans hsize)
    exact hsaid.not_isTooLarge

/-- If an entry asks for more than can be told, nothing is read off the whole record. -/
theorem Node.SaidBy.not_asksTooMuch {node : Node} {value : Value} (h : node.SaidBy value) :
    ¬ value.AsksTooMuch := by
  rintro ⟨target, elements, entry, size, htarget, helements, hentry, hsize, hlarge⟩
  have hsays := h.layout
  cases hl : node.layout with
  | none =>
    rw [hl] at hsays
    rcases hsays with hnone | hnull
    · simp [hnone] at htarget
    · obtain rfl := Option.some.inj (hnull.symm.trans htarget)
      simp [Value.member?] at helements
  | some layout =>
    rw [hl] at hsays
    obtain ⟨_, hheld, hlayout⟩ := hsays
    obtain rfl := Option.some.inj (hheld.symm.trans htarget)
    rcases hlayout.disks with ⟨hnone, -⟩ | ⟨_, hheld, found, rfl, hall⟩
    · simp [hnone] at helements
    · obtain rfl : found = elements := by simpa using hheld.symm.trans helements
      obtain ⟨i, hi, rfl⟩ := List.mem_iff_getElem.1 hentry
      have hdisk := hall.get (hall.length_eq ▸ hi) hi
      exact hdisk.not_isTooLarge hsize hlarge

end RaidProvision

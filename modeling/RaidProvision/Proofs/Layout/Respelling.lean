import Mathlib.Logic.Relation
import RaidProvision.Manager.Basic
import RaidProvision.Proofs.Layout.SizeLimit

/-!
# Spellings of a layout

A field of an entry may be written in several ways: a level or a controller as a number or as the
text of its digits, a size as a number or as text with a sign and zeros in front, `MAX` in any
letter case, and a field that is absent as null. Each way makes the same entry, so a layout may be
rewritten field by field, as often as one likes, and is still read as the same layout.

* `LogicalDisk.SameField`, `LogicalDisk.Rewrites`: one field is rewritten.
* `LogicalDisk.SameField.take_eq`, `LogicalDisk.Rewrites.ofWritten?_eq`: that makes no difference to
  the entry.
* `Layout.Respelled`: any number of fields is rewritten.
* `Layout.Respelled.ofWritten?_eq`: that makes no difference to the layout.
* `spelling_immaterial`: nor to what is read off texts, and to what is built.
-/
namespace RaidProvision

open RaidProvision.Text RaidProvision.Json RaidProvision.Layout

/-- Folding is the same if one element does the same in every state. -/
theorem foldlM_congr_at {α σ : Type} {take : σ → α → Option σ} {x y : α}
    (h : ∀ state, take state x = take state y) (before after : List α) (state : σ) :
    (before ++ x :: after).foldlM take state = (before ++ y :: after).foldlM take state := by
  rw [List.foldlM_append, List.foldlM_append]
  congr 1
  funext next
  rw [List.foldlM_cons, List.foldlM_cons, h next]

/-! ## Numbers in text -/

namespace SizeRequest

/-- The digits of a number, with zeros in front and perhaps a sign. -/
def spelling (plus : Bool) (zeros g : Nat) : String :=
  String.ofList ((if plus then ['+'] else []) ++ (List.replicate zeros '0' ++ Nat.toDigits 10 g))

theorem numeral_spelling (plus : Bool) (zeros g : Nat) : Numeral g (spelling plus zeros g) := by
  cases plus with
  | true => exact .inr ⟨_, by simp [spelling], (digits_toDigits g).zeros zeros⟩
  | false => exact .inl (by simpa [spelling] using (digits_toDigits g).zeros zeros)

theorem ofWritten?_eq_some_iff {value : Value} {size : SizeRequest} :
    ofWritten? value = some size ↔ AskedBy size value.settled := by
  rw [ofWritten?, toOption_eq_some_iff, ofValue_eq_ok_iff]

/-- Every spelling of a number in range stands for this number. -/
theorem ofWritten?_spelling (plus : Bool) (zeros : Nat) {g : Nat} (h : g ≤ maxGb) :
    ofWritten? (.text (spelling plus zeros g)) = some (.gb (UInt64.ofNat g)) :=
  ofWritten?_eq_some_iff.2 (.text (numeral_spelling plus zeros g) h)

/-- A number in range stands for itself. -/
theorem ofWritten?_nat {g : Nat} (h : g ≤ maxGb) :
    ofWritten? (.nat g) = some (.gb (UInt64.ofNat g)) :=
  ofWritten?_eq_some_iff.2 (.number h)

/-- `MAX` stands for all the space there is in any letter case. -/
theorem ofWritten?_max {s : String} (h : sameFold s "max") : ofWritten? (.text s) = some .max :=
  ofWritten?_eq_some_iff.2 (.max h)

end SizeRequest

namespace LogicalDisk

/-- Two spellings of a field. -/
inductive SameField : String → Value → Value → Prop where
  | name {key : String} (h : key = "raid_level" ∨ key = "controller") (n : Int) :
    SameField key (.number (.integer n)) (.text (toString n))
  | size {g : Nat} (h : g ≤ SizeRequest.maxGb) (plus : Bool) (zeros : Nat) :
    SameField "size_gb" (.nat g) (.text (SizeRequest.spelling plus zeros g))
  | max {s s' : String} (h : sameFold s "max") (h' : sameFold s' "max") :
    SameField "size_gb" (.text s) (.text s')

/-- The fields that may be absent. -/
inductive OptionalField where
  | size
  | level
  | members
  | controller

namespace OptionalField

def key : OptionalField → String
  | size => "size_gb"
  | level => "raid_level"
  | members => "physical_disks"
  | controller => "controller"

end OptionalField

/-- The members of an entry, with one field in another spelling. -/
inductive Rewrites : Members → Members → Prop where
  | field {key : String} {value value' : Value} (h : SameField key value value')
    (before after : Members) :
    Rewrites (before ++ (key, value) :: after) (before ++ (key, value') :: after)
  | null (field : OptionalField) {before after : Members}
    (h : ∀ m ∈ before ++ after, m.1 ≠ field.key) :
    Rewrites (before ++ after) (before ++ (field.key, .null) :: after)

theorem SameField.take_eq {key : String} {value value' : Value} (h : SameField key value value')
    (draft : Draft) : take draft (key, value) = take draft (key, value') := by
  cases h with
  | name hkey n =>
    have hname : nameOfWritten? (.number (.integer n)) = nameOfWritten? (.text (toString n)) := rfl
    rcases hkey with rfl | rfl
    · simp [take, hname, takeOnce]
    · simp [take, hname, takeOnce]
  | @size g hg plus zeros =>
    have hsize : orNull SizeRequest.ofWritten? (.nat g) =
        orNull SizeRequest.ofWritten? (.text (SizeRequest.spelling plus zeros g)) := by
      rw [orNull_of_ne_null (by simp [Value.nat]), orNull_of_ne_null (by simp),
        SizeRequest.ofWritten?_nat hg, SizeRequest.ofWritten?_spelling plus zeros hg]
    simp [take, hsize, takeOnce]
  | @max s s' hs hs' =>
    have hsize : orNull SizeRequest.ofWritten? (.text s) =
        orNull SizeRequest.ofWritten? (.text s') := by
      rw [orNull_of_ne_null (by simp), orNull_of_ne_null (by simp),
        SizeRequest.ofWritten?_max hs, SizeRequest.ofWritten?_max hs']
    simp [take, hsize, takeOnce]

/-- Nothing is known of a field. -/
def Draft.Lacks (draft : Draft) : OptionalField → Prop
  | .size => draft.size = none
  | .level => draft.level = none
  | .members => draft.members = none
  | .controller => draft.controller = none

/-- A field is known to be null. -/
def Draft.nullify (draft : Draft) : OptionalField → Draft
  | .size => { draft with size := some none }
  | .level => { draft with level := some none }
  | .members => { draft with members := some none }
  | .controller => { draft with controller := some none }

theorem take_null {draft : Draft} {field : OptionalField} (h : draft.Lacks field) :
    take draft (field.key, .null) = some (draft.nullify field) := by
  cases field with
  | size =>
    have hnone : draft.size = none := h
    simp [take, OptionalField.key, hnone, takeOnce, orNull, Draft.nullify]
  | level =>
    have hnone : draft.level = none := h
    simp [take, OptionalField.key, hnone, takeOnce, Draft.nullify]
    rfl
  | members =>
    have hnone : draft.members = none := h
    simp [take, OptionalField.key, hnone, takeOnce, orNull, Draft.nullify]
  | controller =>
    have hnone : draft.controller = none := h
    simp [take, OptionalField.key, hnone, takeOnce, Draft.nullify]
    rfl

/-- Whether a field is known to be null does not matter to the others. -/
theorem take_nullify (draft : Draft) {field : OptionalField} {m : String × Value}
    (h : m.1 ≠ field.key) :
    take (draft.nullify field) m = (take draft m).map (Draft.nullify · field) := by
  cases field with
  | size =>
    simp only [take, Draft.nullify, if_neg (show ¬ m.1 = "size_gb" from h)]
    split_ifs <;> first | rw [takeOnce_map] | rfl
  | level =>
    simp only [take, Draft.nullify, if_neg (show ¬ m.1 = "raid_level" from h)]
    split_ifs <;> first | rw [takeOnce_map] | rfl
  | members =>
    simp only [take, Draft.nullify, if_neg (show ¬ m.1 = "physical_disks" from h)]
    split_ifs <;> first | rw [takeOnce_map] | rfl
  | controller =>
    simp only [take, Draft.nullify, if_neg (show ¬ m.1 = "controller" from h)]
    split_ifs <;> first | rw [takeOnce_map] | rfl

theorem lacks_of_take {draft draft' : Draft} {field : OptionalField} {m : String × Value}
    (h : m.1 ≠ field.key) (hlacks : draft.Lacks field) (htake : take draft m = some draft') :
    draft'.Lacks field := by
  unfold take at htake
  split_ifs at htake with hsize hlevel hmembers hcontroller
  · obtain ⟨x, rfl⟩ := exists_of_takeOnce htake
    cases field with
    | size => exact absurd hsize h
    | _ => exact hlacks
  · obtain ⟨x, rfl⟩ := exists_of_takeOnce htake
    cases field with
    | level => exact absurd hlevel h
    | _ => exact hlacks
  · obtain ⟨x, rfl⟩ := exists_of_takeOnce htake
    cases field with
    | members => exact absurd hmembers h
    | _ => exact hlacks
  · obtain ⟨x, rfl⟩ := exists_of_takeOnce htake
    cases field with
    | controller => exact absurd hcontroller h
    | _ => exact hlacks
  · obtain rfl := Option.some.inj htake
    cases field <;> exact hlacks

/-- The members of an entry are taken with one field null as they are without this field. -/
theorem foldlM_take_nullify {field : OptionalField} {members : Members}
    (h : ∀ m ∈ members, m.1 ≠ field.key) (draft : Draft) :
    members.foldlM take (draft.nullify field) =
      (members.foldlM take draft).map (Draft.nullify · field) := by
  induction members generalizing draft with
  | nil => rfl
  | cons m rest ih =>
    have hrest := ih fun other hother => h other (List.mem_cons_of_mem _ hother)
    rw [List.foldlM_cons, List.foldlM_cons, take_nullify draft (h m List.mem_cons_self)]
    cases take draft m with
    | none => rfl
    | some next => exact hrest next

theorem lacks_of_foldlM_take {field : OptionalField} {members : Members}
    (h : ∀ m ∈ members, m.1 ≠ field.key) {draft draft' : Draft} (hlacks : draft.Lacks field)
    (htake : members.foldlM take draft = some draft') : draft'.Lacks field := by
  induction members generalizing draft with
  | nil =>
    obtain rfl := Option.some.inj htake
    exact hlacks
  | cons m rest ih =>
    rw [List.foldlM_cons] at htake
    obtain ⟨next, hnext, htake⟩ := Option.bind_eq_some_iff.1 htake
    exact ih (fun other hother => h other (List.mem_cons_of_mem _ hother))
      (lacks_of_take (h m List.mem_cons_self) hlacks hnext) htake

theorem ofDraft_nullify {draft : Draft} {field : OptionalField} (h : draft.Lacks field) :
    ofDraft (draft.nullify field) = ofDraft draft := by
  cases field <;> simp only [Draft.Lacks] at h <;> simp [ofDraft, Draft.nullify, h]

/-- An entry is the same with a field in another spelling. -/
theorem Rewrites.ofWritten?_eq {members members' : Members} (h : Rewrites members members') :
    ofWritten? (.object members) = ofWritten? (.object members') := by
  cases h with
  | @field key value value' hfield before after =>
    simp only [ofWritten?, Value.members?, Option.bind_some,
      foldlM_congr_at hfield.take_eq before after]
  | @null field before after habsent =>
    have hbefore : ∀ m ∈ before, m.1 ≠ field.key :=
      fun m hm => habsent m (List.mem_append_left _ hm)
    have hafter : ∀ m ∈ after, m.1 ≠ field.key :=
      fun m hm => habsent m (List.mem_append_right _ hm)
    simp only [ofWritten?, Value.members?, Option.bind_some]
    rw [List.foldlM_append, List.foldlM_append]
    cases hdraft : before.foldlM take .empty with
    | none => rfl
    | some draft =>
      have hlacks : draft.Lacks field :=
        lacks_of_foldlM_take hbefore (by cases field <;> rfl) hdraft
      simp only [Option.bind_eq_bind, Option.bind_some, List.foldlM_cons, take_null hlacks,
        foldlM_take_nullify hafter]
      cases hrest : after.foldlM take draft with
      | none => rfl
      | some last =>
        rw [Option.map_some, Option.map_some, Option.map_some,
          ofDraft_nullify (lacks_of_foldlM_take hafter hlacks hrest)]

end LogicalDisk

/-! ## Layouts and records -/

namespace Layout

/-- A layout with a field of one of its entries in another spelling. -/
inductive Rewrites : Value → Value → Prop where
  | entry {entry entry' : Members} (h : LogicalDisk.Rewrites entry entry')
    (before after : Members) (first last : List Value) :
    Rewrites
      (.object (before ++ ("logical_disks", .array (first ++ .object entry :: last)) :: after))
      (.object (before ++ ("logical_disks", .array (first ++ .object entry' :: last)) :: after))

/-- A layout with any number of fields in other spellings. -/
def Respelled : Value → Value → Prop := Relation.EqvGen Rewrites

theorem Rewrites.ofWritten?_eq {value value' : Value} (h : Rewrites value value') :
    ofWritten? value = ofWritten? value' := by
  cases h with
  | @entry entry entry' hentry before after first last =>
    have helements : (first ++ .object entry :: last).mapM LogicalDisk.ofWritten? =
        (first ++ .object entry' :: last).mapM LogicalDisk.ofWritten? := by
      rw [List.mapM_append, List.mapM_append, List.mapM_cons, List.mapM_cons,
        hentry.ofWritten?_eq]
    have htake : ∀ draft, take draft ("logical_disks", .array (first ++ .object entry :: last)) =
        take draft ("logical_disks", .array (first ++ .object entry' :: last)) := by
      intro draft
      simp [take, takeOnce, Value.elements?, helements]
    simp only [ofWritten?, Value.members?, Option.bind_some, foldlM_congr_at htake before after]

/-- A layout is the same with fields in other spellings. -/
theorem Respelled.ofWritten?_eq {value value' : Value} (h : Respelled value value') :
    ofWritten? value = ofWritten? value' := by
  induction h with
  | rel value value' h => exact h.ofWritten?_eq
  | refl value => rfl
  | symm value value' _ ih => exact ih.symm
  | trans value middle value' _ _ ih ih' => exact ih.trans ih'

theorem Respelled.ne_null {value value' : Value} (h : Respelled value value') :
    value = .null ↔ value' = .null := by
  induction h with
  | rel value value' h =>
    cases h with
    | entry => simp
  | refl value => rfl
  | symm value value' _ ih => exact ih.symm
  | trans value middle value' _ _ ih ih' => exact ih.trans ih'

/-- Texts whose written values make the same layout hold the same layout. -/
theorem ofText_eq_ok_iff {s : String} {value : Value} (hs : Value.written? s = some value)
    (layout : Layout) : ofText s = .ok layout ↔ ofWritten? value = some layout := by
  have hread := toOption_ofText s
  rw [hs, Option.bind_some] at hread
  rw [← hread, toOption_eq_some_iff]

end Layout

namespace Node

open Layout

/-- A record with a layout in other spellings. -/
inductive Respelled : Value → Value → Prop where
  | layout {value value' : Value} (h : Layout.Respelled value value') (before after : Members) :
    Respelled (.object (before ++ ("target_raid_config", value) :: after))
      (.object (before ++ ("target_raid_config", value') :: after))

/-- A record is the same with its layout in other spellings. -/
theorem Respelled.ofWritten?_eq {value value' : Value} (h : Respelled value value') :
    ofWritten? value = ofWritten? value' := by
  cases h with
  | @layout layout layout' hlayout before after =>
    have hmade : orNull Layout.ofWritten? layout = orNull Layout.ofWritten? layout' := by
      by_cases hnull : layout = .null
      · rw [hnull, hlayout.ne_null.1 hnull]
      · rw [orNull_of_ne_null hnull, orNull_of_ne_null (mt hlayout.ne_null.2 hnull),
          hlayout.ofWritten?_eq]
    have htake : ∀ draft, take draft ("target_raid_config", layout) =
        take draft ("target_raid_config", layout') := by
      intro draft
      simp [take, takeOnce, hmade]
    simp only [ofWritten?, Value.members?, Option.bind_some, foldlM_congr_at htake before after]

theorem ofText_eq_ok_iff {s : String} {value : Value} (hs : Value.written? s = some value)
    (node : Node) : ofText s = .ok node ↔ ofWritten? value = some node := by
  have hread := toOption_ofText s
  rw [hs, Option.bind_some] at hread
  rw [← hread, toOption_eq_some_iff]

end Node

/-! ## Building -/

/-- **Spelling does not matter.** However many fields of the entries of a layout are written in
another way, the same layout is read, and a machine with this layout in its record is built in the
same way: with the same commands, on every host, and with the same result. -/
theorem spelling_immaterial {value value' : Value} (h : Layout.Respelled value value') :
    (∀ s s', Value.written? s = some value → Value.written? s' = some value' →
      ∀ layout, Layout.ofText s = .ok layout ↔ Layout.ofText s' = .ok layout) ∧
    ∀ before after s s',
      Value.written? s = some (.object (before ++ ("target_raid_config", value) :: after)) →
      Value.written? s' = some (.object (before ++ ("target_raid_config", value') :: after)) →
      (∀ node, Node.ofText s = .ok node ↔ Node.ofText s' = .ok node) ∧
      ∀ (manager : Manager) (host : Host),
        (Node.ofText s).toOption.map (fun node => (manager.create node).run host) =
          (Node.ofText s').toOption.map fun node => (manager.create node).run host := by
  refine ⟨?_, ?_⟩
  · intro s s' hs hs' layout
    rw [Layout.ofText_eq_ok_iff hs, Layout.ofText_eq_ok_iff hs', h.ofWritten?_eq]
  · intro before after s s' hs hs'
    have hnode := (Node.Respelled.layout h before after).ofWritten?_eq
    refine ⟨?_, ?_⟩
    · intro node
      rw [Node.ofText_eq_ok_iff hs, Node.ofText_eq_ok_iff hs', hnode]
    · intro manager host
      rw [Node.toOption_ofText, Node.toOption_ofText, hs, hs', Option.bind_some, Option.bind_some,
        hnode]

section Sample

/-- Two entries in the usual spellings. -/
def usualText : String :=
  "\x7b\"logical_disks\": [\x7b\"size_gb\": 100, \"raid_level\": 1, " ++
    "\"physical_disks\": [\"0 0\"], \"controller\": \"1\"\x7d, " ++
    "\x7b\"size_gb\": \"MAX\", \"raid_level\": \"0\"\x7d]\x7d"

/-- The same entries in other spellings. -/
def unusualText : String :=
  "\x7b\"logical_disks\": [\x7b\"size_gb\": \"+0100\", \"raid_level\": \"1\", " ++
    "\"physical_disks\": [\"0 0\"], \"controller\": 1\x7d, " ++
    "\x7b\"size_gb\": \"mAx\", \"controller\": null, \"raid_level\": \"0\"\x7d]\x7d"

/-- The written value of a layout with two entries. -/
def sample (size level controller : Value) (second : Members) : Value :=
  .object [("logical_disks", .array [
    .object [("size_gb", size), ("raid_level", level),
      ("physical_disks", .array [.text "0 0"]), ("controller", controller)],
    .object second])]

def usual : Value :=
  sample (.nat 100) (.nat 1) (.text "1") [("size_gb", .text "MAX"), ("raid_level", .text "0")]

def unusual : Value :=
  sample (.text "+0100") (.text "1") (.nat 1)
    [("size_gb", .text "mAx"), ("controller", .null), ("raid_level", .text "0")]

theorem usual_respelled : Layout.Respelled usual unusual := by
  have hsize : ∀ second, Layout.Rewrites (sample (.nat 100) (.nat 1) (.text "1") second)
      (sample (.text "+0100") (.nat 1) (.text "1") second) := fun second =>
    .entry (.field (.size (g := 100) (by decide +kernel) true 1) [] _) [] [] [] [.object second]
  have hlevel : ∀ second, Layout.Rewrites (sample (.text "+0100") (.nat 1) (.text "1") second)
      (sample (.text "+0100") (.text "1") (.text "1") second) := fun second =>
    .entry (.field (.name (.inl rfl) 1) [("size_gb", .text "+0100")] _) [] [] [] [.object second]
  have hcontroller : ∀ second, Layout.Rewrites
      (sample (.text "+0100") (.text "1") (.nat 1) second)
      (sample (.text "+0100") (.text "1") (.text "1") second) := fun second =>
    .entry (.field (.name (.inr rfl) 1) [("size_gb", .text "+0100"), ("raid_level", .text "1"),
      ("physical_disks", .array [.text "0 0"])] []) [] [] [] [.object second]
  have hmax : Layout.Rewrites (sample (.text "+0100") (.text "1") (.nat 1)
        [("size_gb", .text "MAX"), ("raid_level", .text "0")])
      (sample (.text "+0100") (.text "1") (.nat 1)
        [("size_gb", .text "mAx"), ("raid_level", .text "0")]) :=
    .entry (.field (.max (by decide) (by decide)) [] _) [] [] [.object _] []
  have hnull : Layout.Rewrites (sample (.text "+0100") (.text "1") (.nat 1)
        [("size_gb", .text "mAx"), ("raid_level", .text "0")]) unusual :=
    .entry (@LogicalDisk.Rewrites.null .controller [("size_gb", .text "mAx")]
      [("raid_level", .text "0")] (by simp [LogicalDisk.OptionalField.key])) [] [] [.object _] []
  exact .trans _ _ _ (.rel _ _ (hsize _)) (.trans _ _ _ (.rel _ _ (hlevel _)) (.trans _ _ _
    (.symm _ _ (.rel _ _ (hcontroller _))) (.trans _ _ _ (.rel _ _ hmax) (.rel _ _ hnull))))

theorem written?_usualText : Value.written? usualText = some usual := by
  decide +kernel

theorem written?_unusualText : Value.written? unusualText = some unusual := by
  decide +kernel

theorem spelling_immaterial_sample : Layout.Respelled usual unusual ∧
    (Layout.ofText usualText).toOption.isSome ∧
    ∀ layout, Layout.ofText usualText = .ok layout ↔ Layout.ofText unusualText = .ok layout :=
  ⟨usual_respelled, by decide +kernel, (spelling_immaterial usual_respelled).1 usualText
    unusualText written?_usualText written?_unusualText⟩

end Sample

end RaidProvision

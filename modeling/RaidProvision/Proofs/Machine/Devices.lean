import Mathlib.Data.List.ReduceOption
import Mathlib.Logic.ExistsUnique
import RaidProvision.Proofs.Json.Depth
import RaidProvision.Proofs.Machine.Styles

/-!
# Devices one by one

A listing is an object with an array of elements. Whatever these are, each of them stands for a
device or for none on its own: `Describes` says for which one, given what the members tell
(`TellsSize`, `TellsFlag`, `TellsText`), and `Picks` goes through the elements in order. What stands
inside of an element, such as the children of a device, is looked at no further. So no element can
make a listing fail, or change what is read from another one.

Only two things are not as one might expect: a text that nests too deep is no listing, even if this
is in a member that does not count, and a name is taken with its blanks.

* `describes_iff`, `picks_iff`: one element and all elements.
* `ofText_eq_ok_iff_picks`: which texts are listings, and of which devices.
* `ofText_append`, `ofText_congr`: two arrays one behind the other, and elements that differ in what
  is not looked at.
* `devices_per_element`: all of this.
* `listing_refused_for_depth`: a listing that is too deep, and a name with a blank.
-/
namespace RaidProvision.BlockDevice

open RaidProvision.Text RaidProvision.Json

/-! ## What a member tells -/

/-- A member tells a size: by a number, by digits with blanks around them, or, if it is neither, by
nothing at all. -/
inductive TellsSize : Option Value → UInt64 → Prop where
  | number (n : UInt64) : TellsSize (some (.nat n.toNat)) n
  | text {s : String} {n : UInt64} (h : Numeral n.toNat (trim s)) : TellsSize (some (.text s)) n
  | nothing {member : Option Value} (hnumber : ∀ n : UInt64, member ≠ some (.nat n.toNat))
    (htext : ∀ (s : String) (n : UInt64), member = some (.text s) → ¬ Numeral n.toNat (trim s)) :
    TellsSize member 0

/-- A member tells a flag: a boolean, a text that says whether it is set, or nothing. -/
inductive TellsFlag : Option Value → Bool → Prop where
  | boolean (b : Bool) : TellsFlag (some (.boolean b)) b
  | set {s : String} (h : trim s = "1") : TellsFlag (some (.text s)) true
  | notSet {s : String} (h : trim s ≠ "1") : TellsFlag (some (.text s)) false
  | nothing {member : Option Value} (hboolean : ∀ b, member ≠ some (.boolean b))
    (htext : ∀ s, member ≠ some (.text s)) : TellsFlag member false

/-- A member tells a text, or that there is none. -/
inductive TellsText : Option Value → Option String → Prop where
  | text {s : String} (h : trim s ≠ "") : TellsText (some (.text s)) (some (trim s))
  | blank {s : String} (h : trim s = "") : TellsText (some (.text s)) none
  | nothing {member : Option Value} (htext : ∀ s, member ≠ some (.text s)) : TellsText member none

theorem sizeOf_of_tells {member : Option Value} {n : UInt64} (h : TellsSize member n) :
    sizeOf (member.getD .null) = n := by
  cases h with
  | number => exact sizeOf_nat n
  | @text s _ h =>
    rw [Option.getD_some, sizeOf_text, readUInt64_eq_ok_iff.2 h]
    rfl
  | nothing hnumber htext =>
    cases member with
    | none => rfl
    | some value =>
      rw [Option.getD_some, sizeOf]
      cases hword : value.word? with
      | some n => exact absurd (congrArg some (Value.word?_eq_some_iff.1 hword)) (hnumber n)
      | none =>
        cases value with
        | text s =>
          cases hread : readUInt64 (trim s) with
          | ok n => exact absurd (readUInt64_eq_ok_iff.1 hread) (htext s n rfl)
          | error cause => simp [Value.text?, hread, Except.toOption]
        | _ => rfl

theorem tellsSize_sizeOf (member : Option Value) :
    TellsSize member (sizeOf (member.getD .null)) := by
  by_cases hnumber : ∃ n : UInt64, member = some (.nat n.toNat)
  · obtain ⟨n, rfl⟩ := hnumber
    have htold : TellsSize (some (.nat n.toNat)) n := .number n
    rwa [sizeOf_of_tells htold]
  by_cases htext : ∃ (s : String) (n : UInt64), member = some (.text s) ∧ Numeral n.toNat (trim s)
  · obtain ⟨s, n, rfl, hs⟩ := htext
    have htold : TellsSize (some (.text s)) n := .text hs
    rwa [sizeOf_of_tells htold]
  have htold : TellsSize member 0 :=
    .nothing (fun n h => hnumber ⟨n, h⟩) fun s n h hs => htext ⟨s, n, h, hs⟩
  rwa [sizeOf_of_tells htold]

theorem tellsSize_iff {member : Option Value} {n : UInt64} :
    TellsSize member n ↔ sizeOf (member.getD .null) = n :=
  ⟨sizeOf_of_tells, fun h => h ▸ tellsSize_sizeOf member⟩

theorem tellsFlag_iff {member : Option Value} {b : Bool} :
    TellsFlag member b ↔ flagOf (member.getD .null) = b := by
  constructor
  · intro h
    cases h with
    | boolean => rfl
    | set h => simp [flagOf, Value.boolean?, Value.text?, h]
    | notSet h => simp [flagOf, Value.boolean?, Value.text?, h]
    | nothing hboolean htext =>
      cases member with
      | none => rfl
      | some value =>
        cases value with
        | boolean b => exact absurd rfl (hboolean b)
        | text s => exact absurd rfl (htext s)
        | _ => rfl
  · rintro rfl
    cases member with
    | none => exact .nothing (by simp) (by simp)
    | some value =>
      cases value with
      | boolean b => exact .boolean b
      | text s =>
        have hflag : flagOf (.text s) = (trim s == "1") := rfl
        rw [Option.getD_some, hflag]
        by_cases hs : trim s = "1"
        · simpa [hs] using TellsFlag.set hs
        · rw [beq_eq_false_iff_ne.2 hs]
          exact .notSet hs
      | _ => exact .nothing (by simp) (by simp)

theorem tellsText_iff {member : Option Value} {text : Option String} :
    TellsText member text ↔ textOf (member.getD .null) = text := by
  constructor
  · intro h
    cases h with
    | text h => simp [textOf, Value.text?, h]
    | blank h => simp [textOf, Value.text?, h]
    | nothing htext =>
      cases member with
      | none => rfl
      | some value =>
        cases value with
        | text s => exact absurd rfl (htext s)
        | _ => rfl
  · rintro rfl
    cases member with
    | none => exact .nothing (by simp)
    | some value =>
      cases value with
      | text s =>
        by_cases hs : trim s = ""
        · simpa [textOf, Value.text?, hs] using TellsText.blank hs
        · simpa [textOf, Value.text?, hs] using TellsText.text hs
      | _ => exact .nothing (by simp)

/-! ## What an element stands for -/

/-- An element stands for a device. Its name is taken as it is, and the other texts are trimmed. -/
structure Describes (element : Value) (d : BlockDevice) : Prop where
  name : element.member? "name" = some (.text d.name)
  name_ne_empty : d.name ≠ ""
  kind : element.member? "type" = some (.text "disk")
  size : TellsSize (element.member? "size") d.size
  model : TellsText (element.member? "model") d.model
  serial : TellsText (element.member? "serial") d.serial
  vendor : TellsText (element.member? "vendor") d.vendor
  rotational : TellsFlag (element.member? "rota") d.rotational
  transport : TellsText (element.member? "tran") d.transport

theorem ofValue_of_isNamedDisk {element : Value} {name : String}
    (hname : element.member? "name" = some (.text name)) (hne : name ≠ "")
    (hkind : element.member? "type" = some (.text "disk")) :
    ofValue element = some {
      name
      size := sizeOf ((element.member? "size").getD .null)
      model := textOf ((element.member? "model").getD .null)
      serial := textOf ((element.member? "serial").getD .null)
      vendor := textOf ((element.member? "vendor").getD .null)
      rotational := flagOf ((element.member? "rota").getD .null)
      transport := textOf ((element.member? "tran").getD .null) } := by
  simp [ofValue, hname, hkind, Value.text?, hne]

theorem describes_iff {element : Value} {d : BlockDevice} :
    Describes element d ↔ ofValue element = some d := by
  constructor
  · intro h
    rw [ofValue_of_isNamedDisk h.name h.name_ne_empty h.kind, tellsSize_iff.1 h.size,
      tellsText_iff.1 h.model, tellsText_iff.1 h.serial, tellsText_iff.1 h.vendor,
      tellsFlag_iff.1 h.rotational, tellsText_iff.1 h.transport]
  · intro h
    obtain ⟨⟨name, hname, hne⟩, hkind⟩ := (isSome_ofValue_iff element).1 (by rw [h]; rfl)
    rw [ofValue_of_isNamedDisk hname hne hkind] at h
    obtain rfl := Option.some.inj h
    exact ⟨hname, hne, hkind, tellsSize_iff.2 rfl, tellsText_iff.2 rfl, tellsText_iff.2 rfl,
      tellsText_iff.2 rfl, tellsFlag_iff.2 rfl, tellsText_iff.2 rfl⟩

/-- The texts of a device that may be missing. -/
def texts (d : BlockDevice) : List String :=
  [d.model, d.serial, d.vendor, d.transport].reduceOption

theorem TellsText.trimmed {member : Option Value} {text : Option String}
    (h : TellsText member text) : ∀ s ∈ text, s ≠ "" ∧ trim s = s := by
  cases h with
  | text h =>
    rintro _ ⟨⟩
    exact ⟨h, trim_trim _⟩
  | blank => simp
  | nothing => simp

theorem Describes.trimmed {element : Value} {d : BlockDevice} (h : Describes element d) :
    ∀ s ∈ d.texts, s ≠ "" ∧ trim s = s := by
  intro s hs
  rw [texts, List.reduceOption_mem_iff] at hs
  simp only [List.mem_cons, List.not_mem_nil, or_false] at hs
  rcases hs with hs | hs | hs | hs
  · exact h.model.trimmed s hs.symm
  · exact h.serial.trimmed s hs.symm
  · exact h.vendor.trimmed s hs.symm
  · exact h.transport.trimmed s hs.symm

/-! ## All elements -/

/-- The devices of some elements: those of the elements that are disks with a name, in order. -/
inductive Picks : List Value → List BlockDevice → Prop where
  | nil : Picks [] []
  | skip {element : Value} {rest : List Value} {devices : List BlockDevice}
    (h : ¬ IsNamedDisk element) (hrest : Picks rest devices) : Picks (element :: rest) devices
  | take {element : Value} {d : BlockDevice} {rest : List Value} {devices : List BlockDevice}
    (h : Describes element d) (hrest : Picks rest devices) : Picks (element :: rest) (d :: devices)

theorem picks_ofValues (elements : List Value) : Picks elements (ofValues elements) := by
  induction elements with
  | nil => exact .nil
  | cons element rest ih =>
    cases hd : ofValue element with
    | none =>
      have hnone : ¬ IsNamedDisk element := by
        rw [← isSome_ofValue_iff, hd]
        simp
      rw [ofValues, List.filterMap_cons_none hd]
      exact .skip hnone ih
    | some d =>
      rw [ofValues, List.filterMap_cons_some hd]
      exact .take (describes_iff.2 hd) ih

theorem picks_iff {elements : List Value} {devices : List BlockDevice} :
    Picks elements devices ↔ ofValues elements = devices := by
  constructor
  · intro h
    induction h with
    | nil => rfl
    | @skip element rest devices h hrest ih =>
      have hnone : ofValue element = none := by
        rwa [← Option.not_isSome_iff_eq_none, isSome_ofValue_iff]
      rw [ofValues, List.filterMap_cons_none hnone]
      exact ih
    | take h hrest ih =>
      rw [ofValues, List.filterMap_cons_some (describes_iff.1 h)]
      exact congrArg _ ih
  · rintro rfl
    exact picks_ofValues elements

theorem Picks.exists_describes {elements : List Value} {devices : List BlockDevice}
    (h : Picks elements devices) : ∀ d ∈ devices, ∃ element ∈ elements, Describes element d := by
  induction h with
  | nil => simp
  | skip _ _ ih =>
    intro d hd
    obtain ⟨element, hmem, h⟩ := ih d hd
    exact ⟨element, List.mem_cons_of_mem _ hmem, h⟩
  | take h _ ih =>
    intro d hd
    rcases List.mem_cons.1 hd with rfl | hd
    · exact ⟨_, List.mem_cons_self, h⟩
    · obtain ⟨element, hmem, h⟩ := ih d hd
      exact ⟨element, List.mem_cons_of_mem _ hmem, h⟩

/-! ## Listings -/

theorem ofListing_eq_ok_iff {value : Value} {devices : List BlockDevice} :
    ofListing value = .ok devices ↔
      ∃ elements, value.member? "blockdevices" = some (.array elements) ∧
        Picks elements devices := by
  simp only [picks_iff, ofListing]
  split
  case h_1 elements helements => simp [helements]
  case h_2 hother =>
    constructor
    · rintro ⟨⟩
    · rintro ⟨elements, helements, -⟩
      exact absurd helements (hother elements)

/-- A text that holds a value is a listing iff the value is one and is not too deep. -/
theorem ofText_eq_ok_iff_picks {s : String} {written : Value} (h : Value.Holds s written)
    (devices : List BlockDevice) :
    ofText s = .ok devices ↔
      written.Within maxDepth ∧ ∃ elements,
        written.settled.member? "blockdevices" = some (.array elements) ∧
          Picks elements devices := by
  rw [← ofListing_eq_ok_iff, ofText, Value.parse?_of_holds h]
  by_cases hwithin : written.Within maxDepth <;> simp [hwithin]

theorem ofText_of_not_holds {s : String} (h : ∀ written, ¬ Value.Holds s written) :
    ofText s = .error .blockDevicesMalformed := by
  cases hvalue : Value.parse? s with
  | none => rw [ofText, hvalue]
  | some value =>
    obtain ⟨written, hholds, -⟩ := Value.exists_holds_of_parse? hvalue
    exact absurd hholds (h written)

section
variable {s t : String} {xs ys : List Value}

theorem ofText_of_lists (h : Lists s xs) : ofText s = .ok (ofValues xs) :=
  ofText_eq_ok_iff.2 ⟨xs, h, rfl⟩

theorem ofText_append {both : String} (hs : Lists s xs) (ht : Lists t ys)
    (hboth : Lists both (xs ++ ys)) :
    ∃ ds es, ofText s = .ok ds ∧ ofText t = .ok es ∧ ofText both = .ok (ds ++ es) := by
  refine ⟨_, _, ofText_of_lists hs, ofText_of_lists ht, ?_⟩
  rw [ofText_of_lists hboth, ofValues_append]

/-- The members of an element that are looked at. -/
def columns : List String := ["name", "type", "size", "model", "serial", "vendor", "rota", "tran"]

/-- Two elements are the same in all members that are looked at. -/
def SameColumns (element other : Value) : Prop :=
  ∀ name ∈ columns, element.member? name = other.member? name

theorem SameColumns.ofValue_eq {element other : Value} (h : SameColumns element other) :
    ofValue element = ofValue other := by
  simp only [SameColumns, columns, List.forall_mem_cons] at h
  obtain ⟨hname, hkind, hsize, hmodel, hserial, hvendor, hrota, htran, -⟩ := h
  simp only [ofValue, hname, hkind, hsize, hmodel, hserial, hvendor, hrota, htran]

/-- Whatever the children of a device are, its element is the same. -/
theorem sameColumns_children (members : Members) (children : Value) :
    SameColumns (.object (members.insert "children" children)) (.object members) := by
  intro name hname
  have hne : name ≠ "children" := by
    rintro rfl
    revert hname
    decide
  rw [Value.member?, Value.member?, Members.lookup_insert, if_neg hne]

theorem ofText_congr (hs : Lists s xs) (ht : Lists t ys) (h : List.Forall₂ SameColumns xs ys) :
    ofText s = ofText t := by
  rw [ofText_of_lists hs, ofText_of_lists ht]
  congr 1
  clear hs ht
  unfold ofValues
  induction h with
  | nil => rfl
  | cons hfirst _ ih => rw [List.filterMap_cons, List.filterMap_cons, hfirst.ofValue_eq, ih]

end

/-- A text is read iff the value that it holds is not too deep and is an object with an array of
elements, whatever these are. The devices are then those of the elements, in order and each from its
own element alone: the elements of two arrays are read one behind the other as they are read apart,
and nothing else in an element makes a difference, be it other devices inside of it. All texts of a
device but its name are trimmed, and none is empty. -/
theorem devices_per_element :
    (∀ s written, Value.Holds s written → ∀ devices, ofText s = .ok devices ↔
      written.Within maxDepth ∧ ∃ elements,
        written.settled.member? "blockdevices" = some (.array elements) ∧
          Picks elements devices) ∧
    (∀ s, (∀ written, ¬ Value.Holds s written) → ofText s = .error .blockDevicesMalformed) ∧
    (∀ value devices, ofListing value = .ok devices ↔ ∃ elements,
      value.member? "blockdevices" = some (.array elements) ∧ Picks elements devices) ∧
    (∀ elements, ∃! devices, Picks elements devices) ∧
    (∀ s t both xs ys, Lists s xs → Lists t ys → Lists both (xs ++ ys) →
      ∃ ds es, ofText s = .ok ds ∧ ofText t = .ok es ∧ ofText both = .ok (ds ++ es)) ∧
    (∀ s t xs ys, Lists s xs → Lists t ys → List.Forall₂ SameColumns xs ys →
      ofText s = ofText t) ∧
    (∀ (members : Members) (children : Value),
      SameColumns (.object (members.insert "children" children)) (.object members)) ∧
    ∀ elements devices, Picks elements devices → ∀ d ∈ devices,
      (∃ element ∈ elements, Describes element d) ∧ ∀ s ∈ d.texts, s ≠ "" ∧ trim s = s := by
  refine ⟨fun s written h => ofText_eq_ok_iff_picks h, fun s h => ofText_of_not_holds h,
    fun value devices => ofListing_eq_ok_iff, ?_, fun s t both xs ys => ofText_append,
    fun s t xs ys => ofText_congr, sameColumns_children, ?_⟩
  · intro elements
    exact ⟨_, picks_ofValues elements, fun devices h => (picks_iff.1 h).symm⟩
  · intro elements devices h d hd
    obtain ⟨element, hmem, hdescribes⟩ := h.exists_describes d hd
    exact ⟨⟨element, hmem, hdescribes⟩, hdescribes.trimmed⟩

/-! ## Two listings -/

/-- So many generations of children. -/
def generations : Nat → Value
  | 0 => .array []
  | n + 1 => .array [.object [("children", generations n)]]

theorem numbers_generations (n : Nat) : (generations n).numbers = [] := by
  induction n with
  | zero => rfl
  | succ n ih => simp [generations, Value.numbers, elementNumbers, memberNumbers, ih]

theorem normal_generations (n : Nat) : (generations n).Normal (2 * n + 1) := by
  induction n with
  | zero => simp [generations, Value.Normal]
  | succ n ih =>
    change (generations (n + 1)).Normal (2 * n + 1 + 1 + 1)
    simpa [generations, Value.Normal, Members.Sorted] using ih

/-- A disk with the children of `generations`. -/
def withGenerations (n : Nat) : Value :=
  .object [("children", generations n), ("name", .text "sda"), ("type", .text "disk")]

/-- A listing with one disk, and one level deeper than what is read. -/
def deepListing : Value :=
  .object [("blockdevices", .array [withGenerations 62])]

/-- A listing with a disk whose name begins with a blank. -/
def paddedListing : Value :=
  .object [("blockdevices", .array [.object [("name", .text " sda"), ("type", .text "disk")]])]

theorem normal_deepListing : deepListing.Normal (maxDepth + 1) := by
  have hchildren : (generations 62).Normal 125 := normal_generations 62
  have hsorted : Members.Sorted
      [("children", generations 62), ("name", .text "sda"), ("type", .text "disk")] := by
    simp only [Members.Sorted, List.pairwise_cons, List.forall_mem_cons]
    decide
  have hdisk : (withGenerations 62).Normal 126 :=
    ⟨hsorted, by simpa [Value.Normal] using hchildren⟩
  simpa [deepListing, maxDepth, Value.Normal, Members.Sorted] using hdisk

theorem spells_deepListing : Spells deepListing deepListing.write.toList := by
  have hnumbers : deepListing.numbers = [] := by
    simp [deepListing, withGenerations, Value.numbers, elementNumbers, memberNumbers,
      numbers_generations]
  rw [Value.write, String.toList_ofList]
  exact spells_characters (by simp [hnumbers])

/-- An object with an array of devices need not be read: here the children of a disk are too deep.
And the name of a device that is read need not be trimmed. -/
theorem listing_refused_for_depth :
    (∃ written elements, Value.Holds deepListing.write written ∧
      written.settled.member? "blockdevices" = some (.array elements) ∧
      ofText deepListing.write = .error .blockDevicesMalformed) ∧
    ofText paddedListing.write = .ok [⟨" sda", 0, none, none, none, false, none⟩] ∧
    trim " sda" ≠ " sda" := by
  have hdeep : ¬ deepListing.Within maxDepth := by decide +kernel
  have hread : Value.parse? deepListing.write = none := by
    rw [Value.parse?_of_normal normal_deepListing spells_deepListing, Value.within?, if_neg hdeep]
  obtain ⟨written, hholds, hsettled⟩ :=
    Value.exists_holds_of_spells normal_deepListing.within spells_deepListing
  rw [normal_deepListing.settled_eq] at hsettled
  refine ⟨⟨written, [withGenerations 62], hholds, ?_, ?_⟩, ?_, ?_⟩
  · rw [hsettled]
    rfl
  · rw [ofText, hread]
  · decide +kernel
  · decide +kernel

end RaidProvision.BlockDevice

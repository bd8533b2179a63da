import RaidProvision.Proofs.Json.Settled
import RaidProvision.Proofs.Machine.Isolation
import RaidProvision.Proofs.Report.KeyValue
import RaidProvision.Proofs.Text.Unsigned

/-!
# Listings of several versions

Newer versions of `lsblk` print a size as a number, a flag as a boolean and null for what is
missing; older ones print all of it as text, with blanks where they like. An element shows a device
(`ShowsDevice`) if each of its members shows what it stands for in one way or the other. Devices
that are shown are listed as they are, so two listings of the same devices are read alike.

* `sizeOf_of_shows`, `flagOf_of_shows`, `textOf_of_shows`: one member, in any style.
* `ShowsDevice.ofValue_eq`, `ofText_of_shown`: one device, and all devices of a listing.
* `Writes.showsDevice`, `shown_of_spells`: every text of a written listing shows the devices.
* `styles_alike`: listings of the same devices are read alike.
-/
namespace RaidProvision.BlockDevice

open RaidProvision.Text RaidProvision.Json

/-! ## Members -/

/-- A value shows a size: a number, or its digits with blanks around them. -/
inductive ShowsSize (n : UInt64) : Value → Prop where
  | number : ShowsSize n (.nat n.toNat)
  | text {s : String} {before ds after : List Char} (hs : s.toList = before ++ (ds ++ after))
    (hbefore : ∀ c ∈ before, isBlank c) (hds : Digits n.toNat ds)
    (hafter : ∀ c ∈ after, isBlank c) : ShowsSize n (.text s)

/-- A value shows a flag: a boolean, or a digit. -/
inductive ShowsFlag : Bool → Value → Prop where
  | boolean (b : Bool) : ShowsFlag b (.boolean b)
  | one : ShowsFlag true (.text "1")
  | zero : ShowsFlag false (.text "0")

/-- A value shows a text, or that there is none: null, or blanks if there are any. -/
inductive ShowsText : Option String → Value → Prop where
  | text (s : String) : ShowsText (some s) (.text s)
  | null : ShowsText none .null
  | blank {s : String} (hs : ∀ c ∈ s.toList, isBlank c) : ShowsText none (.text s)

/-- A text without the blanks around it, if anything is left. -/
def told (text : Option String) : Option String :=
  text.bind fun s => if trim s = "" then none else some (trim s)

theorem sizeOf_nat (n : UInt64) : sizeOf (.nat n.toNat) = n := by
  rw [sizeOf, Value.word?_nat]

theorem sizeOf_text (s : String) : sizeOf (.text s) = (readUInt64 (trim s)).toOption.getD 0 := rfl

theorem sizeOf_of_shows {n : UInt64} {value : Value} (h : ShowsSize n value) :
    sizeOf value = n := by
  cases h with
  | number => exact sizeOf_nat n
  | @text s before ds after hs hbefore hds hafter =>
    have hblank : ∀ c ∈ ds, isBlank c = false := fun c hc => isBlank_of_isDigit (hds.isDigit c hc)
    have htrim : (trim s).toList = ds := by
      rw [toList_trim, hs, strip_append_left_of_blank hbefore, strip_append_of_blank hafter,
        strip_of_not_blank hblank]
    have hread : readUInt64 (trim s) = .ok n :=
      readUInt64_eq_ok_iff.2 (.inl (by rwa [htrim]))
    rw [sizeOf_text, hread]
    rfl

theorem flagOf_of_shows {b : Bool} {value : Value} (h : ShowsFlag b value) : flagOf value = b := by
  cases h with
  | boolean => rfl
  | one => decide +kernel
  | zero => decide +kernel

theorem trim_of_blank {s : String} (h : ∀ c ∈ s.toList, isBlank c) : trim s = "" := by
  rw [← String.toList_inj, toList_trim, ← List.nil_append s.toList, strip_append_of_blank h]
  rfl

theorem textOf_of_shows {text : Option String} {value : Value} (h : ShowsText text value) :
    textOf value = told text := by
  cases h with
  | text s => by_cases hs : trim s = "" <;> simp [textOf, told, Value.text?, hs]
  | null => rfl
  | blank hs => simp [textOf, told, Value.text?, trim_of_blank hs]

/-! ## Devices -/

/-- What the system knows of a device. -/
structure Entry where
  name : String
  kind : String
  size : UInt64
  model : Option String
  serial : Option String
  vendor : Option String
  rotational : Bool
  transport : Option String

/-- The disk that a device is, if it is one and has a name. -/
def Entry.disk? (e : Entry) : Option BlockDevice :=
  if e.name ≠ "" ∧ e.kind = "disk" then
    some {
      name := e.name
      size := e.size
      model := told e.model
      serial := told e.serial
      vendor := told e.vendor
      rotational := e.rotational
      transport := told e.transport }
  else none

/-- An element shows a device: each member in its own style. -/
structure ShowsDevice (e : Entry) (element : Value) : Prop where
  name : element.member? "name" = some (.text e.name)
  kind : element.member? "type" = some (.text e.kind)
  size : ∃ value, element.member? "size" = some value ∧ ShowsSize e.size value
  model : ∃ value, element.member? "model" = some value ∧ ShowsText e.model value
  serial : ∃ value, element.member? "serial" = some value ∧ ShowsText e.serial value
  vendor : ∃ value, element.member? "vendor" = some value ∧ ShowsText e.vendor value
  rotational : ∃ value, element.member? "rota" = some value ∧ ShowsFlag e.rotational value
  transport : ∃ value, element.member? "tran" = some value ∧ ShowsText e.transport value

theorem ShowsDevice.ofValue_eq {e : Entry} {element : Value} (h : ShowsDevice e element) :
    ofValue element = e.disk? := by
  obtain ⟨size, hsize, hshows⟩ := h.size
  obtain ⟨model, hmodel, hmodelText⟩ := h.model
  obtain ⟨serial, hserial, hserialText⟩ := h.serial
  obtain ⟨vendor, hvendor, hvendorText⟩ := h.vendor
  obtain ⟨rota, hrota, hflag⟩ := h.rotational
  obtain ⟨tran, htran, htranText⟩ := h.transport
  simp only [ofValue, h.name, h.kind, hsize, hmodel, hserial, hvendor, hrota, htran,
    Option.getD_some, Value.text?, sizeOf_of_shows hshows, textOf_of_shows hmodelText,
    textOf_of_shows hserialText, textOf_of_shows hvendorText, flagOf_of_shows hflag,
    textOf_of_shows htranText, Entry.disk?]
  by_cases hname : e.name = ""
  · simp [hname]
  by_cases hkind : e.kind = "disk"
  · simp [hname, hkind]
  · simp [hname, hkind]

/-- A listing shows some devices, in order. -/
def Shown (entries : List Entry) (listing : String) : Prop :=
  ∃ elements, Lists listing elements ∧ List.Forall₂ ShowsDevice entries elements

theorem ofText_of_shown {entries : List Entry} {listing : String} (h : Shown entries listing) :
    ofText listing = .ok (entries.filterMap Entry.disk?) := by
  obtain ⟨elements, hlists, hshows⟩ := h
  refine ofText_eq_ok_iff.2 ⟨elements, hlists, ?_⟩
  clear hlists
  unfold ofValues
  induction hshows with
  | nil => rfl
  | cons hfirst _ ih => rw [List.filterMap_cons, List.filterMap_cons, hfirst.ofValue_eq, ih]

/-! ## Written listings -/

/-- A row of a listing: the columns that are asked for, in order, each in its own style. -/
inductive Writes (e : Entry) : Value → Prop where
  | row {size model serial rota tran vendor : Value} (hsize : ShowsSize e.size size)
    (hmodel : ShowsText e.model model) (hserial : ShowsText e.serial serial)
    (hrota : ShowsFlag e.rotational rota) (htran : ShowsText e.transport tran)
    (hvendor : ShowsText e.vendor vendor) :
    Writes e (.object [("name", .text e.name), ("type", .text e.kind), ("size", size),
      ("model", model), ("serial", serial), ("rota", rota), ("tran", tran), ("vendor", vendor)])

/-- A listing of some rows. -/
def listingOf (rows : List Value) : Value := .object [("blockdevices", .array rows)]

/-- A value that comes back from each of its texts, with nothing in it to be sorted. -/
structure IsPlain (value : Value) : Prop where
  within : ∀ depth, value.Within depth
  settled_eq : value.settled = value
  exact_numbers : ∀ n ∈ value.numbers, n.Exact

theorem isPlain_text (s : String) : IsPlain (.text s) :=
  ⟨fun depth => by simp [Value.Within], rfl, List.forall_mem_nil _⟩

theorem isPlain_boolean (b : Bool) : IsPlain (.boolean b) :=
  ⟨fun depth => by simp [Value.Within], rfl, List.forall_mem_nil _⟩

theorem isPlain_null : IsPlain .null :=
  ⟨fun depth => by simp [Value.Within], rfl, List.forall_mem_nil _⟩

theorem isPlain_nat (n : UInt64) : IsPlain (.nat n.toNat) :=
  ⟨fun depth => by simp [Value.nat, Value.Within], rfl,
    List.forall_mem_singleton.2 ⟨by omega, Int.ofNat_lt.2 n.toNat_lt_size⟩⟩

theorem ShowsSize.isPlain {n : UInt64} {value : Value} (h : ShowsSize n value) :
    IsPlain value := by
  cases h with
  | number => exact isPlain_nat n
  | text => exact isPlain_text _

theorem ShowsFlag.isPlain {b : Bool} {value : Value} (h : ShowsFlag b value) : IsPlain value := by
  cases h with
  | boolean => exact isPlain_boolean b
  | one => exact isPlain_text "1"
  | zero => exact isPlain_text "0"

theorem ShowsText.isPlain {text : Option String} {value : Value} (h : ShowsText text value) :
    IsPlain value := by
  cases h with
  | text s => exact isPlain_text s
  | null => exact isPlain_null
  | @blank s => exact isPlain_text s

theorem Writes.within {e : Entry} {row : Value} (h : Writes e row) (depth : Nat) :
    row.Within (depth + 1) := by
  cases h with
  | row hsize hmodel hserial hrota htran hvendor =>
    simp [Value.Within, hsize.isPlain.within, hmodel.isPlain.within, hserial.isPlain.within,
      hrota.isPlain.within, htran.isPlain.within, hvendor.isPlain.within]

theorem Writes.exact_numbers {e : Entry} {row : Value} (h : Writes e row) :
    ∀ n ∈ row.numbers, n.Exact := by
  cases h with
  | row hsize hmodel hserial hrota htran hvendor =>
    rw [Value.numbers]
    simp only [memberNumbers, List.forall_mem_append]
    exact ⟨List.forall_mem_nil _, List.forall_mem_nil _, hsize.isPlain.exact_numbers,
      hmodel.isPlain.exact_numbers, hserial.isPlain.exact_numbers, hrota.isPlain.exact_numbers,
      htran.isPlain.exact_numbers, hvendor.isPlain.exact_numbers, List.forall_mem_nil _⟩

/-- A row shows its device, once its columns are sorted. -/
theorem Writes.showsDevice {e : Entry} {row : Value} (h : Writes e row) :
    ShowsDevice e row.settled := by
  cases h with
  | row hsize hmodel hserial hrota htran hvendor =>
    constructor
    all_goals
      simp only [Value.settled, Value.settledMembers, Value.member?, Members.lookup_insert,
        hsize.isPlain.settled_eq, hmodel.isPlain.settled_eq, hserial.isPlain.settled_eq,
        hrota.isPlain.settled_eq, htran.isPlain.settled_eq, hvendor.isPlain.settled_eq]
      simp [*]

section
variable {entries : List Entry} {rows : List Value}

theorem forall_mem_rows {P : Value → Prop} (h : List.Forall₂ Writes entries rows)
    (hrow : ∀ e row, Writes e row → P row) : ∀ row ∈ rows, P row := by
  induction h with
  | nil => exact List.forall_mem_nil _
  | cons hfirst _ ih => exact List.forall_mem_cons.2 ⟨hrow _ _ hfirst, ih⟩

theorem shown_of_spells (h : List.Forall₂ Writes entries rows) {listing : String}
    (hs : Spells (listingOf rows) listing.toList) : Shown entries listing := by
  have hrows : ∀ row ∈ rows, row.Within (maxDepth - 2) :=
    forall_mem_rows h fun _ _ hrow => hrow.within _
  have hwithin : (listingOf rows).Within maxDepth := List.forall_mem_singleton.2 hrows
  refine ⟨rows.map Value.settled, ⟨_, parse?_of_spells hwithin hs, ?_⟩, ?_⟩
  · rw [← Value.settledAll_eq_map]
    rfl
  · rw [List.forall₂_map_right_iff]
    exact h.imp fun _ _ hrow => hrow.showsDevice

theorem shown_write (h : List.Forall₂ Writes entries rows) :
    Shown entries (listingOf rows).write := by
  refine shown_of_spells h ?_
  rw [Value.write, String.toList_ofList]
  refine spells_characters ?_
  rw [listingOf, Value.numbers, memberNumbers, memberNumbers, List.append_nil, Value.numbers,
    elementNumbers_eq]
  intro n hn
  obtain ⟨row, hrow, hn⟩ := List.mem_flatMap.1 hn
  exact forall_mem_rows h (fun _ _ hrow => hrow.exact_numbers) row hrow n hn

end

/-! ## The two styles -/

/-- A flag as a digit. -/
def digitOf (b : Bool) : String := if b then "1" else "0"

/-- The row of a device, as newer versions print it, or as older ones do: all as text. -/
def Entry.row (e : Entry) (old : Bool) : Value :=
  let text (t : Option String) : Value := if old then .text (t.getD "") else Value.ofText? t
  .object [("name", .text e.name), ("type", .text e.kind),
    ("size", if old then .text (Nat.repr e.size.toNat) else .nat e.size.toNat),
    ("model", text e.model), ("serial", text e.serial),
    ("rota", if old then .text (digitOf e.rotational) else .boolean e.rotational),
    ("tran", text e.transport), ("vendor", text e.vendor)]

theorem showsText_old (t : Option String) : ShowsText t (.text (t.getD "")) := by
  cases t with
  | none => exact .blank (by simp)
  | some s => exact .text s

theorem showsText_new (t : Option String) : ShowsText t (Value.ofText? t) := by
  cases t with
  | none => exact .null
  | some s => exact .text s

theorem Entry.writes_row (e : Entry) (old : Bool) : Writes e (e.row old) := by
  have hblank : ∀ c ∈ ([] : List Char), isBlank c := by simp
  cases old with
  | false =>
    exact .row .number (showsText_new _) (showsText_new _) (.boolean _) (showsText_new _)
      (showsText_new _)
  | true =>
    have hflag : ShowsFlag e.rotational (.text (digitOf e.rotational)) := by
      cases e.rotational with
      | false => exact .zero
      | true => exact .one
    have hsize : ShowsSize e.size (.text (Nat.repr e.size.toNat)) :=
      .text (by simp) hblank (digits_repr _) hblank
    exact .row hsize (showsText_old _) (showsText_old _) hflag (showsText_old _) (showsText_old _)

/-- Rows in any styles. -/
def rowsOf (styled : List (Entry × Bool)) : List Value := styled.map fun (e, old) => e.row old

theorem writes_rowsOf (styled : List (Entry × Bool)) :
    List.Forall₂ Writes (styled.map Prod.fst) (rowsOf styled) := by
  rw [rowsOf, List.forall₂_map_left_iff, List.forall₂_map_right_iff]
  exact List.forall₂_same.2 fun entry _ => entry.1.writes_row entry.2

/-- A listing that shows some devices is read as these, whatever the style of each member; so two
listings of the same devices are read alike. Any text of rows with the columns in order shows the
devices of these rows, and any choice of a style for each device gives such rows. -/
theorem styles_alike (entries : List Entry) :
    (∀ s, Shown entries s → ofText s = .ok (entries.filterMap Entry.disk?)) ∧
    (∀ s t, Shown entries s → Shown entries t → ofText s = ofText t) ∧
    (∀ rows s, List.Forall₂ Writes entries rows → Spells (listingOf rows) s.toList →
      Shown entries s) ∧
    ∀ styled : List (Entry × Bool), styled.map Prod.fst = entries →
      Shown entries (listingOf (rowsOf styled)).write := by
  refine ⟨fun s hs => ofText_of_shown hs, ?_, fun rows s h hs => shown_of_spells h hs, ?_⟩
  · intro s t hs ht
    rw [ofText_of_shown hs, ofText_of_shown ht]
  · rintro styled rfl
    exact shown_write (writes_rowsOf styled)

/-- A disk that has no serial number, and a drive for media. -/
def sampleEntries : List Entry :=
  [⟨"sda", "disk", 960197124096, some "SSD ", none, some "ATA     ", false, some "sata"⟩,
    ⟨"sr0", "rom", 1073741312, some "CDROM", none, none, true, some "usb"⟩]

/-- Both devices in both styles. -/
theorem styles_alike_sampleEntries :
    let new := (listingOf (rowsOf (sampleEntries.map (·, false)))).write
    let mixed := (listingOf (rowsOf (sampleEntries.zip [true, false]))).write
    new ≠ mixed ∧ ofText new = ofText mixed ∧
      ofText mixed =
        .ok [⟨"sda", 960197124096, some "SSD", none, some "ATA", false, some "sata"⟩] := by
  obtain ⟨hread, halike, -, hshown⟩ := styles_alike sampleEntries
  have hnew := hshown (sampleEntries.map (·, false)) (by rfl)
  have hmixed := hshown (sampleEntries.zip [true, false]) (by rfl)
  refine ⟨by decide +kernel, halike _ _ hnew hmixed, ?_⟩
  rw [hread _ hmixed]
  decide +kernel

end RaidProvision.BlockDevice

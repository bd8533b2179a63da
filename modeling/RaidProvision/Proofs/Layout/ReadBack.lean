import RaidProvision.Layout.Json
import RaidProvision.Proofs.Json.Settled
import RaidProvision.Proofs.Layout.AskedSize

/-!
# Layouts read back

What is read as a layout or a record of a machine can be written and read again without change. A
level or a controller given as number is text from the first reading on, `MAX` has its one spelling,
null is absent, and the keys that are not known stand in order and are none of the known ones
(`Members.Unknown`), so nothing of it happens twice.

* `Layout.Sound`, `Node.Sound`: what holds of everything that is read.
* `LogicalDisk.yields_part`, `LogicalDisk.takes_part`, and for layouts and records alike: what is
  read is sound, and what is sound is read off its texts as it is.
* `readBack_ofText`: both written forms of what was read give it back.
-/
namespace RaidProvision

open RaidProvision.Text RaidProvision.Json

/-! ## Parts of a fixed kind -/

namespace Layout

variable {α β σ : Type}

theorem takes_textPart (s : String) : Takes textPart (.text s) s := by
  intro gap cs rest hg hs _
  have hskip := skipSpace_spells hg hs rest
  cases hs
  simp only [quote, List.cons_append, List.append_assoc, List.nil_append] at hskip ⊢
  simp only [textPart, hskip, readText_escaped]

theorem takes_arrayPart {element : Nat → PartReader α} {depth : Nat} {values : List Value}
    {xs : List α} (h : List.Forall₂ (Takes (element depth)) values xs) :
    Takes (arrayPart (depth + 1) element) (.array values) xs := by
  intro gap cs rest hg hs _
  have hskip := skipSpace_spells hg hs rest
  obtain ⟨ds, rfl, hread⟩ := readArray_spells h hs
  rw [List.cons_append] at hskip ⊢
  simp only [arrayPart, hskip, hread]

theorem takes_objectPart {structureName : String}
    {member : Nat → String → σ → Except Defect (PartReader σ)} {depth : Nat} {s t : σ}
    {members : List (String × Value)} (h : Absorbs (member depth) s members t) :
    Takes (objectPart (depth + 1) structureName member s) (.object members) t := by
  intro gap cs rest hg hs _
  have hskip := skipSpace_spells hg hs rest
  obtain ⟨ds, rfl, hread⟩ := readObject_spells h hs
  rw [List.cons_append] at hskip ⊢
  simp only [objectPart, hskip, hread]

theorem takes_optionalPart {part : PartReader α} {value : Value} {x : α}
    (h : Takes part value x) (hnull : value ≠ .null) :
    Takes (optionalPart part) value (some x) := by
  intro gap cs rest hg hs hr
  have hskip := skipSpace_spells hg hs rest
  obtain ⟨c, ds, hcs, -, -, hn⟩ := hs.exists_cons
  unfold optionalPart
  split
  case h_1 heq =>
    rw [hskip, hcs, List.cons_append] at heq
    exact absurd (hn (List.cons.inj heq).1) hnull
  case h_2 => exact h.map some gap cs rest hg hs hr

theorem takes_checkedPart {part : PartReader α} {check : α → Except Defect β} {value : Value}
    {x : α} {y : β} (h : Takes part value x) (hcheck : check x = .ok y) :
    Takes (checkedPart part check) value y := by
  intro gap cs rest hg hs hr
  simp only [checkedPart, h gap cs rest hg hs hr, bind, Except.bind, hcheck]
  rfl

theorem refuse_yields {expected : String} {P : α → Prop} :
    (refuse (α := α) expected).Yields P := by
  intro cs x rest h
  cases hfound : readFound (ε := Defect) cs <;> simp [refuse, hfound, bind, Except.bind] at h

theorem arrayPart_yields {element : Nat → PartReader α} {depth : Nat} {P : α → Prop}
    (h : (element depth).Yields P) :
    (arrayPart (depth + 1) element).Yields fun xs => ∀ x ∈ xs, P x := by
  intro cs xs rest hxs
  unfold arrayPart at hxs
  split at hxs
  case h_1 => exact readArray_yields h _ _ _ hxs
  case h_2 => exact refuse_yields (P := fun xs => ∀ x ∈ xs, P x) _ _ _ hxs

theorem objectPart_yields {structureName : String}
    {member : Nat → String → σ → Except Defect (PartReader σ)} {depth : Nat} {P : σ → Prop}
    {s : σ} (h : ∀ name s reader, P s → member depth name s = .ok reader → reader.Yields P)
    (hs : P s) : (objectPart (depth + 1) structureName member s).Yields P := by
  intro cs t rest ht
  unfold objectPart at ht
  split at ht
  case h_1 => exact readObject_yields h hs _ _ _ ht
  case h_2 => exact refuse_yields _ _ _ ht

theorem optionalPart_yields {part : PartReader α} {P : α → Prop} (h : part.Yields P) :
    (optionalPart part).Yields fun x => ∀ y, x = some y → P y := by
  intro cs x rest hx
  unfold optionalPart at hx
  split at hx
  case h_1 =>
    exact keyword_yields (P := fun x => ∀ y, x = some y → P y) (fun y hy => by simp at hy) _ _ _ hx
  case h_2 =>
    refine Reader.Yields.map (P := fun x => ∀ y, x = some y → P y) ?_ _ _ _ hx
    intro cs x rest hx y hy
    exact Option.some.inj hy ▸ h cs x rest hx

theorem checkedPart_yields {part : PartReader α} {check : α → Except Defect β} {P : β → Prop}
    (h : ∀ x y, check x = .ok y → P y) : (checkedPart part check).Yields P := by
  intro cs y rest hy
  unfold checkedPart at hy
  cases hx : part cs with
  | error fault => simp [hx, bind, Except.bind] at hy
  | ok result =>
    obtain ⟨x, ds⟩ := result
    simp only [hx, bind, Except.bind] at hy
    split at hy
    case h_1 z hz =>
      obtain ⟨rfl, -⟩ : z = y ∧ ds = rest := by simpa [pure, Except.pure] using hy
      exact h x _ hz
    case h_2 => simp [throw, throwThe, MonadExceptOf.throw] at hy

theorem once_yields {name : String} {before : Option α} {part : PartReader α} {set : α → σ}
    {P : σ → Prop} {reader : PartReader σ} (h : part.Yields fun x => P (set x))
    (honce : once name before part set = .ok reader) : reader.Yields P := by
  cases before with
  | some _ => simp [once] at honce
  | none =>
    obtain rfl := Except.ok.inj honce
    exact h.map

end Layout

/-! ## Keys that are not known -/

/-- Members in order, none with one of the known names, with values that are no deeper than
`depth`. -/
structure Json.Members.Unknown (known : List String) (depth : Nat) (members : Members) : Prop where
  sorted : members.Sorted
  name : ∀ m ∈ members, m.1 ∉ known
  normal : ∀ m ∈ members, m.2.Normal depth

namespace Layout

variable {known : List String} {depth : Nat} {σ : Type}

theorem unknown_nil : Members.Unknown known depth [] where
  sorted := List.Pairwise.nil
  name := List.forall_mem_nil _
  normal := List.forall_mem_nil _

theorem other_yields {name : String} {extra : Members} {set : Members → σ} {P : σ → Prop}
    {reader : PartReader σ} (hextra : extra.Unknown known depth) (hname : name ∉ known)
    (hset : ∀ extra, Members.Unknown known depth extra → P (set extra))
    (h : other depth name extra set = .ok reader) : reader.Yields P := by
  obtain rfl := Except.ok.inj h
  refine Reader.Yields.map fun cs value rest hvalue => hset _ ⟨hextra.sorted.insert _ _, ?_, ?_⟩
  · intro m hm
    rcases Members.mem_insert hm with rfl | hm
    · exact hname
    · exact hextra.name m hm
  · intro m hm
    rcases Members.mem_insert hm with rfl | hm
    · exact yields_read depth cs value rest hvalue
    · exact hextra.normal m hm

theorem absorbs_unknown (member : String → σ → Except Defect (PartReader σ))
    (set : Members → σ) {extra : Members} (hextra : extra.Unknown known depth)
    (hmember : ∀ name ∉ known, ∀ held, member name (set held) =
      other depth name held set) : Absorbs member (set []) extra (set extra) :=
  .of_sorted set [] (fun m hm held => hmember m.1 (hextra.name m hm) held)
    (fun m hm => takes_read depth m.2 (hextra.normal m hm)) hextra.sorted

/-- A member that is there is absorbed, one that is not changes nothing. -/
theorem absorbs_given {α : Type} (member : String → σ → Except Defect (PartReader σ))
    (name : String) (write : α → Value) (set : Option (Option α) → σ)
    {part : PartReader (Option α)} {x : Option α}
    (hmember : member name (set none) = .ok (Reader.map (fun y => set (some y)) part))
    (htakes : ∀ y, x = some y → Takes part (write y) (some y)) :
    Absorbs member (set none) (LogicalDisk.given name write x) (set (x.map some)) := by
  cases x with
  | none => exact .nil _
  | some y => exact .cons hmember ((htakes y rfl).map _) (.nil _)

end Layout

/-! ## Sizes -/

namespace SizeRequest

open Layout

/-- A size that is read: all the space there is, or a number of gigabytes in range. -/
def InRange (size : SizeRequest) : Prop := ∀ n, size = gb n → n.toNat ≤ maxGb

theorem AskedBy.inRange {size : SizeRequest} {value : Value} (h : AskedBy size value) :
    size.InRange := by
  have hgb {n : Nat} (hle : n ≤ maxGb) : (gb (.ofNat n)).InRange := by
    intro m hm
    obtain rfl := SizeRequest.gb.inj hm
    rwa [UInt64.toNat_ofNat_of_lt' (lt_size_of_le_maxGb hle)]
  cases h with
  | max =>
    intro n hn
    cases hn
  | number hle => exact hgb hle
  | text _ hle => exact hgb hle

theorem ofValue_toValue {size : SizeRequest} (h : size.InRange) :
    ofValue size.toValue = .ok size := by
  rw [ofValue_eq_ok_iff]
  cases size with
  | max => exact .max (by decide)
  | gb n =>
    have hasked : AskedBy (.gb (.ofNat n.toNat)) (.nat n.toNat) := .number (h n rfl)
    rwa [UInt64.ofNat_toNat] at hasked

theorem part_yields (depth : Nat) : (part depth).Yields InRange :=
  checkedPart_yields fun _ _ h => (ofValue_eq_ok_iff.1 h).inRange

theorem takes_part (depth : Nat) {size : SizeRequest} (h : size.InRange) :
    Takes (part depth) size.toValue size := by
  refine takes_checkedPart (takes_read depth _ ?_) (ofValue_toValue h)
  cases size <;> simp [toValue, Value.nat, Value.Normal]

theorem toValue_ne_null (size : SizeRequest) : size.toValue ≠ .null := by
  cases size <;> simp [toValue, Value.nat]

end SizeRequest

/-! ## Entries -/

namespace LogicalDisk

open Layout

/-- The keys of an entry that are known. -/
def knownKeys : List String := ["size_gb", "raid_level", "physical_disks", "controller"]

/-- An entry that is read, when `depth` is what may be opened inside it. -/
structure Sound (depth : Nat) (disk : LogicalDisk) : Prop where
  size : ∀ size, disk.size = some size → size.InRange
  extra : disk.extra.Unknown knownKeys depth

theorem member_yields {depth : Nat} {name : String} {draft : Draft} {reader : PartReader Draft}
    (h : (ofDraft draft).Sound depth) (hreader : member depth name draft = .ok reader) :
    reader.Yields fun draft => (ofDraft draft).Sound depth := by
  unfold member at hreader
  split at hreader
  case isTrue =>
    refine once_yields ?_ hreader
    intro cs x rest hx
    exact ⟨optionalPart_yields (SizeRequest.part_yields depth) cs x rest hx, h.extra⟩
  split at hreader
  case isTrue =>
    refine once_yields ?_ hreader
    exact fun _ _ _ _ => ⟨h.size, h.extra⟩
  split at hreader
  case isTrue =>
    refine once_yields ?_ hreader
    exact fun _ _ _ _ => ⟨h.size, h.extra⟩
  split at hreader
  case isTrue =>
    refine once_yields ?_ hreader
    exact fun _ _ _ _ => ⟨h.size, h.extra⟩
  refine other_yields h.extra ?_ ?_ hreader
  case refine_2 => exact fun extra hextra => ⟨h.size, hextra⟩
  simp only [knownKeys, List.mem_cons, List.not_mem_nil, or_false, not_or]
  exact ⟨‹_›, ‹_›, ‹_›, ‹_›⟩

theorem yields_part (depth : Nat) : (part (depth + 1)).Yields (Sound depth) :=
  (objectPart_yields (fun _ _ _ h => member_yields h)
    ⟨by simp [ofDraft, Draft.empty], unknown_nil⟩).map

theorem member_other {depth : Nat} {name : String} (h : name ∉ knownKeys) (draft : Draft) :
    member depth name draft =
      other depth name draft.extra fun extra => { draft with extra := extra } := by
  simp only [knownKeys, List.mem_cons, List.not_mem_nil, or_false, not_or] at h
  rw [member, if_neg h.1, if_neg h.2.1, if_neg h.2.2.1, if_neg h.2.2.2]

theorem takes_nameOf (depth : Nat) (s : String) :
    Takes (checkedPart (Value.read depth) nameOf) (.text s) (some s) :=
  takes_checkedPart (takes_read depth _ (by simp [Value.Normal])) rfl

theorem takes_members (depth : Nat) (names : List String) :
    Takes (optionalPart (arrayPart (depth + 1) fun _ => textPart))
      (.array (names.map .text)) (some names) := by
  refine takes_optionalPart (takes_arrayPart ?_) (by simp)
  exact List.forall₂_map_left_iff.2 (List.forall₂_same.2 fun s _ => takes_textPart s)

/-- A sound entry is read as it is. -/
theorem takes_part {depth : Nat} {disk : LogicalDisk} (h : disk.Sound (depth + 1)) :
    Takes (part (depth + 2)) disk.toValue disk := by
  obtain ⟨size, level, members, controller, extra⟩ := disk
  have hsize := absorbs_given (member (depth + 1)) "size_gb" SizeRequest.toValue
    (fun x => ⟨x, none, none, none, []⟩) rfl
    fun y hy => takes_optionalPart (SizeRequest.takes_part _ (h.size y hy)) y.toValue_ne_null
  have hlevel := absorbs_given (member (depth + 1)) "raid_level" .text
    (fun x => ⟨size.map some, x, none, none, []⟩) rfl
    fun s (_ : level = some s) => takes_nameOf (depth + 1) s
  have hmembers := absorbs_given (member (depth + 1)) "physical_disks" _
    (fun x => ⟨size.map some, level.map some, x, none, []⟩) rfl
    fun names (_ : members = some names) => takes_members depth names
  have hcontroller := absorbs_given (member (depth + 1)) "controller" .text
    (fun x => ⟨size.map some, level.map some, members.map some, x, []⟩) rfl
    fun s (_ : controller = some s) => takes_nameOf (depth + 1) s
  have hextra := absorbs_unknown (member (depth + 1))
    (fun extra => ⟨size.map some, level.map some, members.map some, controller.map some, extra⟩)
    h.extra fun name hname held => member_other hname _
  have hall := (((hsize.append hlevel).append hmembers).append hcontroller).append hextra
  have hdraft : ofDraft ⟨size.map some, level.map some, members.map some, controller.map some,
      extra⟩ = ⟨size, level, members, controller, extra⟩ := by
    cases size <;> cases level <;> cases members <;> cases controller <;> rfl
  have htakes : Takes (part (depth + 2)) _ _ := (takes_objectPart hall).map ofDraft
  rw [hdraft] at htakes
  exact htakes

/-- The numbers under keys that are not known. -/
def otherNumbers (disk : LogicalDisk) : List Number := memberNumbers disk.extra

end LogicalDisk

/-! ## Layouts -/

namespace Layout

/-- A layout that is read, when `depth` is what may be opened inside its entries. -/
structure Sound (depth : Nat) (layout : Layout) : Prop where
  disks : ∀ disk ∈ layout.disks, disk.Sound depth
  extra : layout.extra.Unknown ["logical_disks"] (depth + 2)

theorem member_yields {depth : Nat} {name : String} {draft : Draft} {reader : PartReader Draft}
    (h : Sound depth ⟨draft.disks.getD [], draft.extra⟩)
    (hreader : member (depth + 2) name draft = .ok reader) :
    reader.Yields fun draft => Sound depth ⟨draft.disks.getD [], draft.extra⟩ := by
  unfold member at hreader
  split at hreader
  case isTrue =>
    refine once_yields ?_ hreader
    intro cs disks rest hdisks
    exact ⟨arrayPart_yields (LogicalDisk.yields_part depth) cs disks rest hdisks, h.extra⟩
  refine other_yields h.extra ?_ ?_ hreader
  case refine_2 => exact fun extra hextra => ⟨h.disks, hextra⟩
  simpa using ‹name ≠ _›

theorem yields_part (depth : Nat) : (part (depth + 3)).Yields (Sound depth) :=
  (objectPart_yields (fun _ _ _ h => member_yields h)
    ⟨List.forall_mem_nil _, unknown_nil⟩).map

/-- A sound layout is read as it is. -/
theorem takes_part {depth : Nat} {layout : Layout} (h : layout.Sound (depth + 1)) :
    Takes (part (depth + 4)) layout.toValue layout := by
  obtain ⟨disks, extra⟩ := layout
  have hentries : List.Forall₂ (Takes (LogicalDisk.part (depth + 2)))
      (disks.map LogicalDisk.toValue) disks :=
    List.forall₂_map_left_iff.2
      (List.forall₂_same.2 fun disk hdisk => LogicalDisk.takes_part (h.disks disk hdisk))
  have hdisks : Absorbs (member (depth + 3)) ⟨none, []⟩
      [("logical_disks", .array (disks.map LogicalDisk.toValue))] ⟨some disks, []⟩ :=
    .cons rfl ((takes_arrayPart hentries).map fun disks => (⟨some disks, []⟩ : Draft)) (.nil _)
  have hextra := absorbs_unknown (member (depth + 3)) (fun extra => ⟨some disks, extra⟩) h.extra
    fun name hname held => if_neg (by simpa using hname)
  exact (takes_objectPart (hdisks.append hextra)).map _

/-- The numbers under keys that are not known, those of the entries included. -/
def otherNumbers (layout : Layout) : List Number :=
  layout.disks.flatMap LogicalDisk.otherNumbers ++ memberNumbers layout.extra

end Layout

/-! ## Records of machines -/

namespace Node

open Layout

/-- The keys of a record that are known. -/
def knownKeys : List String := ["uuid", "target_raid_config"]

/-- A record that is read, when `depth` is what may be opened inside the entries of its layout. -/
structure Sound (depth : Nat) (node : Node) : Prop where
  layout : ∀ layout, node.layout = some layout → layout.Sound depth
  extra : node.extra.Unknown knownKeys (depth + 3)

/-- The record of what was read. -/
def ofDraft (draft : Draft) : Node := ⟨draft.uuid.join, draft.layout.join, draft.extra⟩

theorem member_yields {depth : Nat} {name : String} {draft : Draft} {reader : PartReader Draft}
    (h : (ofDraft draft).Sound depth) (hreader : member (depth + 3) name draft = .ok reader) :
    reader.Yields fun draft => (ofDraft draft).Sound depth := by
  unfold member at hreader
  split at hreader
  case isTrue =>
    refine once_yields ?_ hreader
    exact fun _ _ _ _ => ⟨h.layout, h.extra⟩
  split at hreader
  case isTrue =>
    refine once_yields ?_ hreader
    intro cs layout rest hlayout
    exact ⟨optionalPart_yields (Layout.yields_part depth) cs layout rest hlayout, h.extra⟩
  refine other_yields h.extra ?_ ?_ hreader
  case refine_2 => exact fun extra hextra => ⟨h.layout, hextra⟩
  simp only [knownKeys, List.mem_cons, List.not_mem_nil, or_false, not_or]
  exact ⟨‹_›, ‹_›⟩

theorem yields_part (depth : Nat) : (part (depth + 4)).Yields (Sound depth) :=
  Reader.Yields.map (f := ofDraft) (objectPart_yields (fun _ _ _ h => member_yields h)
    ⟨by simp [ofDraft, Draft.empty], unknown_nil⟩)

theorem member_other {depth : Nat} {name : String} (h : name ∉ knownKeys) (draft : Draft) :
    member depth name draft =
      other depth name draft.extra fun extra => { draft with extra := extra } := by
  simp only [knownKeys, List.mem_cons, List.not_mem_nil, or_false, not_or] at h
  rw [member, if_neg h.1, if_neg h.2]

/-- A sound record is read as it is. -/
theorem takes_part {depth : Nat} {node : Node} (h : node.Sound (depth + 1)) :
    Takes (part (depth + 5)) node.toValue node := by
  obtain ⟨uuid, layout, extra⟩ := node
  have huuid := absorbs_given (member (depth + 4)) "uuid" .text (fun x => ⟨x, none, []⟩) rfl
    fun s (_ : uuid = some s) => takes_optionalPart (takes_textPart s) (by simp)
  have hlayout := absorbs_given (member (depth + 4)) "target_raid_config" Layout.toValue
    (fun x => ⟨uuid.map some, x, []⟩) rfl
    fun layout hl => takes_optionalPart (Layout.takes_part (h.layout layout hl))
      (by simp [Layout.toValue])
  have hextra := absorbs_unknown (member (depth + 4))
    (fun extra => ⟨uuid.map some, layout.map some, extra⟩) h.extra
    fun name hname held => member_other hname _
  have hdraft : ofDraft ⟨uuid.map some, layout.map some, extra⟩ = ⟨uuid, layout, extra⟩ := by
    cases uuid <;> cases layout <;> rfl
  have htakes : Takes (part (depth + 5)) _ _ :=
    (takes_objectPart ((huuid.append hlayout).append hextra)).map ofDraft
  rw [hdraft] at htakes
  exact htakes

/-- The numbers under keys that are not known, those of the layout included. -/
def otherNumbers (node : Node) : List Number :=
  (node.layout.elim [] Layout.otherNumbers) ++ memberNumbers node.extra

end Node

/-! ## Whole texts -/

/-- All numbers among members are read as they were written. -/
def Json.Members.Exact (members : Members) : Prop := ∀ n ∈ memberNumbers members, n.Exact

theorem Json.Members.Exact.append {front back : Members} (hf : front.Exact) (hb : back.Exact) :
    Members.Exact (front ++ back) := by
  rw [Members.Exact, memberNumbers_eq, List.flatMap_append, List.forall_mem_append,
    ← memberNumbers_eq, ← memberNumbers_eq]
  exact ⟨hf, hb⟩

theorem LogicalDisk.exact_given {α : Type} (name : String) {write : α → Value} {x : Option α}
    (h : ∀ y, x = some y → ∀ n ∈ (write y).numbers, n.Exact) :
    Members.Exact (given name write x) := by
  cases x with
  | none => exact List.forall_mem_nil _
  | some y =>
    rw [Members.Exact, given, memberNumbers, memberNumbers, List.append_nil]
    exact h y rfl

theorem SizeRequest.exact_toValue (size : SizeRequest) :
    ∀ n ∈ size.toValue.numbers, n.Exact := by
  intro n hn
  cases size with
  | max => simp [toValue, Value.numbers] at hn
  | gb count =>
    obtain rfl : n = .integer count.toNat := by simpa [toValue, Value.nat, Value.numbers] using hn
    exact ⟨by omega, Int.ofNat_lt.2 count.toNat_lt_size⟩

/-- The numbers of an entry are its size and those under keys that are not known. -/
theorem LogicalDisk.exact_toValue {disk : LogicalDisk} (h : ∀ n ∈ disk.otherNumbers, n.Exact) :
    ∀ n ∈ disk.toValue.numbers, n.Exact := by
  have hnames : ∀ names : List String, (Value.array (names.map .text)).numbers = [] := by
    intro names
    rw [Value.numbers, elementNumbers_eq, List.flatMap_map]
    exact List.flatMap_eq_nil_iff.2 fun s _ => rfl
  have hsize : Members.Exact (given "size_gb" SizeRequest.toValue disk.size) :=
    exact_given _ fun size _ => size.exact_toValue
  have hlevel : Members.Exact (given "raid_level" .text disk.level) :=
    exact_given _ fun s _ => List.forall_mem_nil _
  have hmembers : Members.Exact
      (given "physical_disks" (fun names => .array (names.map .text)) disk.members) :=
    exact_given _ fun names _ => by rw [hnames]; exact List.forall_mem_nil _
  have hcontroller : Members.Exact (given "controller" .text disk.controller) :=
    exact_given _ fun s _ => List.forall_mem_nil _
  exact (((hsize.append hlevel).append hmembers).append hcontroller).append h

theorem Layout.exact_toValue {layout : Layout} (h : ∀ n ∈ layout.otherNumbers, n.Exact) :
    ∀ n ∈ layout.toValue.numbers, n.Exact := by
  rw [otherNumbers, List.forall_mem_append] at h
  rw [toValue, Value.numbers, memberNumbers, List.forall_mem_append]
  refine ⟨?_, h.2⟩
  rw [Value.numbers, elementNumbers_eq]
  intro n hn
  obtain ⟨value, hvalue, hn⟩ := List.mem_flatMap.1 hn
  obtain ⟨disk, hdisk, rfl⟩ := List.mem_map.1 hvalue
  exact LogicalDisk.exact_toValue (fun n hn => h.1 n (List.mem_flatMap.2 ⟨disk, hdisk, hn⟩)) n hn

theorem Node.exact_toValue {node : Node} (h : ∀ n ∈ node.otherNumbers, n.Exact) :
    ∀ n ∈ node.toValue.numbers, n.Exact := by
  rw [otherNumbers, List.forall_mem_append] at h
  have huuid : Members.Exact (LogicalDisk.given "uuid" .text node.uuid) :=
    LogicalDisk.exact_given _ fun s _ => List.forall_mem_nil _
  have hlayout : Members.Exact
      (LogicalDisk.given "target_raid_config" Layout.toValue node.layout) := by
    refine LogicalDisk.exact_given _ fun layout hl => Layout.exact_toValue ?_
    have hnumbers := h.1
    rwa [hl] at hnumbers
  exact (huuid.append hlayout).append h.2

/-- Read from either of its written forms `x` is the same, and what is read is written the same. -/
def ReadBack {α : Type} (read : String → Except (Fault Layout.Defect) α) (toValue : α → Value)
    (x : α) : Prop :=
  ∀ write ∈ [Value.write, Value.writeLines],
    read (write (toValue x)) = .ok x ∧
      (read (write (toValue x))).map (fun y => write (toValue y)) = .ok (write (toValue x))

theorem ReadBack.of_takes {α : Type} {reader : Layout.PartReader α} {toValue : α → Value} {x : α}
    (h : Takes reader (toValue x) x) (hexact : ∀ n ∈ (toValue x).numbers, n.Exact) :
    ReadBack (wholeText reader) toValue x := by
  have hread : ∀ write ∈ [Value.write, Value.writeLines],
      wholeText reader (write (toValue x)) = .ok x := by
    intro write hwrite
    simp only [List.mem_cons, List.not_mem_nil, or_false] at hwrite
    rcases hwrite with rfl | rfl
    · refine wholeText_of_takes h ?_
      rw [Value.write, String.toList_ofList]
      exact spells_characters hexact
    · refine wholeText_of_takes h ?_
      rw [Value.writeLines, String.toList_ofList]
      exact spells_lineCharacters 0 hexact
  intro write hwrite
  rw [hread write hwrite]
  exact ⟨rfl, rfl⟩

theorem Layout.sound_of_ofText {s : String} {layout : Layout} (h : ofText s = .ok layout) :
    layout.Sound (maxDepth - 3) :=
  wholeText_yields (yields_part (maxDepth - 3)) h

theorem Node.sound_of_ofText {s : String} {node : Node} (h : ofText s = .ok node) :
    node.Sound (maxDepth - 4) :=
  wholeText_yields (yields_part (maxDepth - 4)) h

theorem Layout.readBack_of_sound {layout : Layout} (h : layout.Sound (maxDepth - 3))
    (hexact : ∀ n ∈ layout.otherNumbers, n.Exact) : ReadBack ofText toValue layout :=
  .of_takes (@takes_part (maxDepth - 4) layout h) (exact_toValue hexact)

theorem Node.readBack_of_sound {node : Node} (h : node.Sound (maxDepth - 4))
    (hexact : ∀ n ∈ node.otherNumbers, n.Exact) : ReadBack ofText toValue node :=
  .of_takes (@takes_part (maxDepth - 5) node h) (exact_toValue hexact)

/-- A text read as a layout or as a record of a machine, with none but integers of 64 bits under the
keys that are not known: what was read is read back, and written again, as it is. -/
theorem readBack_ofText (s : String) :
    (∀ layout, Layout.ofText s = .ok layout → (∀ n ∈ layout.otherNumbers, n.Exact) →
      ReadBack Layout.ofText Layout.toValue layout) ∧
    (∀ node, Node.ofText s = .ok node → (∀ n ∈ node.otherNumbers, n.Exact) →
      ReadBack Node.ofText Node.toValue node) := by
  refine ⟨fun layout hread hexact => ?_, fun node hread hexact => ?_⟩
  · exact Layout.readBack_of_sound (Layout.sound_of_ofText hread) hexact
  · exact Node.readBack_of_sound (Node.sound_of_ofText hread) hexact

/-- A record of a machine that is read as a layout as well. -/
def nestedText : String :=
  "\x7b\"logical_disks\": [\x7b\"raid_level\": 1, \"tag\": \x7b\"b\": -7, \"a\": []\x7d\x7d], " ++
    "\"target_raid_config\": \x7b\"logical_disks\": [\x7b\"size_gb\": \"max\"\x7d]\x7d\x7d"

theorem readBack_ofText_nestedText :
    ∃ layout node, Layout.ofText nestedText = .ok layout ∧ Node.ofText nestedText = .ok node ∧
      ReadBack Layout.ofText Layout.toValue layout ∧ ReadBack Node.ofText Node.toValue node := by
  have hlayout : (Layout.ofText nestedText).toOption.map Layout.otherNumbers =
      some [.integer (-7)] := by
    decide +kernel
  have hnode : (Node.ofText nestedText).toOption.map Node.otherNumbers =
      some [.integer 1, .integer (-7)] := by
    decide +kernel
  obtain ⟨hlayouts, hnodes⟩ := readBack_ofText nestedText
  cases hl : Layout.ofText nestedText with
  | error fault => simp [hl, Except.toOption] at hlayout
  | ok layout =>
    cases hn : Node.ofText nestedText with
    | error fault => simp [hn, Except.toOption] at hnode
    | ok node =>
      rw [hl] at hlayout
      rw [hn] at hnode
      refine ⟨layout, node, rfl, rfl, hlayouts layout hl ?_, hnodes node hn ?_⟩
      · rw [Option.some.inj hlayout]
        simp [Number.Exact, UInt64.size]
      · rw [Option.some.inj hnode]
        simp [Number.Exact, UInt64.size]

end RaidProvision

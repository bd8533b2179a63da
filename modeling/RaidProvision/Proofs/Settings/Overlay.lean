import RaidProvision.Proofs.Toml.Statements
import RaidProvision.Settings.Toml

/-!
# Settings over the standard ones

A document may give some settings and leave out others, in any order and between any other keys and
tables. Each setting is looked at alone: what the document gives for its key is what it holds, and
if nothing is given it keeps its standard value. One key with something it does not take spoils them
all. A group of settings may also be an array, which gives the first of them by their positions.

* `Group`: how a group of settings is read, setting by setting; `toolPaths_group`,
  `inspection_group` and `logging_group`.
* `isSome_ofDocument_iff`, `overlaid_of_ofDocument`, `ofDocument_congr`: the tree of a document.
* `overlays_of_readDocument`: what a text says, statement by statement.
* `ofText_overlays`: every tree and every text.
* `settings_by_position`: a setting need not be given by its key.
-/
namespace RaidProvision

open RaidProvision.Toml

/-! ## Keys -/

/-- What a key takes. -/
inductive Kind where
  | text
  /-- The natural numbers below a bound. -/
  | natural (bound : Nat)

/-- Whether a key of a kind takes a value. -/
inductive Kind.Fits : Kind → Value → Prop where
  | text (s : String) : Fits .text (.text s)
  | natural {bound n : Nat} : n < bound → Fits (.natural bound) (.integer n)

/-- A key of a group of settings. -/
structure Key (σ : Type) where
  /-- Which setting of the group it is. -/
  position : Nat
  name : String
  kind : Kind
  /-- The value that says what the settings hold, if they hold anything. -/
  shown : σ → Option Value

def ToolPaths.keys : List (Key ToolPaths) := [
  ⟨0, "arcconf", .text, fun t => some (.text t.arcconf)⟩,
  ⟨1, "megacli", .text, fun t => some (.text t.megacli)⟩,
  ⟨2, "ipmitool", .text, fun t => some (.text t.ipmitool)⟩,
  ⟨3, "dmidecode", .text, fun t => some (.text t.dmidecode)⟩,
  ⟨4, "lsblk", .text, fun t => some (.text t.lsblk)⟩,
  ⟨5, "curl", .text, fun t => some (.text t.curl)⟩]

def Inspection.keys : List (Key Inspection) := [
  ⟨0, "callback_url", .text, fun i => some (.text i.callbackUrl)⟩,
  ⟨1, "bmc_retries", .natural UInt32.size, fun i => some (.integer i.retries.toNat)⟩,
  ⟨2, "bmc_retry_interval_sec", .natural UInt64.size,
    fun i => some (.integer i.retryInterval.toNat)⟩]

def Logging.keys : List (Key Logging) := [
  ⟨0, "level", .text, fun l => some (.text l.level)⟩,
  ⟨1, "path", .text, fun l => l.path.map Value.text⟩]

variable {α σ : Type}

/-- Whether a key of a kind takes what is given for it. -/
def Kind.Takes (kind : Kind) : Option Occupant → Prop
  | none => True
  | some (.value v) => kind.Fits v
  | some .table => False
  | some .tables => False

/-- Settings hold what is given for a key, or what is standard if nothing is. -/
def Overlaid (shown : σ → Option Value) (standard settings : σ) : Option Occupant → Prop
  | none => shown settings = shown standard
  | some (.value v) => shown settings = some v
  | some .table => False
  | some .tables => False

/-- What is given stands for one value that the key takes. -/
theorem Kind.takes_iff (kind : Kind) (given : Option Occupant) :
    kind.Takes given ↔ ∀ found, given = some found → ∃ v, found = .value v ∧ kind.Fits v := by
  cases given with
  | none => exact iff_of_true trivial nofun
  | some found => cases found <;> simp [Kind.Takes]

/-! ## One key -/

/-- A reader of items takes what fits a kind, and what it reads shows as the value. -/
structure Kind.ReadBy (kind : Kind) (read : Item → Option α) (shown : α → Option Value) : Prop where
  isSome_iff : ∀ v, (read (.value v)).isSome ↔ kind.Fits v
  shown_eq : ∀ {v a}, read (.value v) = some a → shown a = some v
  other : ∀ item, (∀ v, item ≠ .value v) → read item = none

theorem text_readBy : Kind.text.ReadBy Item.text? (fun s => some (.text s)) where
  isSome_iff v := by
    cases v with
    | text s => exact ⟨fun _ => .text s, fun _ => rfl⟩
    | _ => exact ⟨nofun, nofun⟩
  shown_eq {v s} h := by
    cases v with
    | text s => cases h; rfl
    | _ => cases h
  other item h := by
    cases item with
    | value v => exact absurd rfl (h v)
    | _ => rfl

theorem path_readBy :
    Kind.text.ReadBy (fun item => item.text?.map some) (Option.map Value.text) where
  isSome_iff v := by
    rw [Option.isSome_map, text_readBy.isSome_iff]
  shown_eq {v path} h := by
    obtain ⟨s, hs, rfl⟩ := Option.map_eq_some_iff.1 h
    exact text_readBy.shown_eq hs
  other item h := by
    rw [text_readBy.other item h, Option.map_none]

theorem fits_integer_iff {bound : Nat} {n : Int} :
    (Kind.natural bound).Fits (.integer n) ↔ 0 ≤ n ∧ n < bound := by
  constructor
  · rintro ⟨h⟩
    omega
  · rintro ⟨h0, hbound⟩
    obtain ⟨m, rfl⟩ := Int.eq_ofNat_of_zero_le h0
    exact .natural (Int.ofNat_lt.1 hbound)

/-- Words of any size are read alike. -/
theorem natural_readBy {size : Nat} {read : Item → Option α} {ofNat : Nat → α} {toNat : α → Nat}
    (hword : ∀ n, n < size → toNat (ofNat n) = n)
    (hinteger : ∀ n : Int,
      read (.value (.integer n)) = if 0 ≤ n && n < size then some (ofNat n.toNat) else none)
    (hother : ∀ item, (∀ n, item ≠ .value (.integer n)) → read item = none) :
    (Kind.natural size).ReadBy read (fun w => some (.integer (toNat w))) where
  isSome_iff v := by
    by_cases hv : ∃ n, v = .integer n
    · obtain ⟨n, rfl⟩ := hv
      rw [fits_integer_iff, hinteger]
      simp
    · rw [hother (.value v) fun n heq => hv ⟨n, Item.value.inj heq⟩]
      refine ⟨nofun, ?_⟩
      rintro ⟨h⟩
      exact absurd ⟨_, rfl⟩ hv
  shown_eq {v w} h := by
    by_cases hv : ∃ n, v = .integer n
    · obtain ⟨n, rfl⟩ := hv
      rw [hinteger] at h
      split at h
      case isTrue hn =>
        obtain ⟨h0, hsize⟩ : 0 ≤ n ∧ n < size := by simpa using hn
        cases h
        rw [hword _ (by omega), Int.toNat_of_nonneg h0]
      case isFalse => cases h
    · rw [hother (.value v) fun n heq => hv ⟨n, Item.value.inj heq⟩] at h
      cases h
  other item h := hother item fun n => h _

theorem word32_readBy :
    (Kind.natural UInt32.size).ReadBy Item.word32? (fun w => some (.integer w.toNat)) := by
  refine natural_readBy (fun _ h => UInt32.toNat_ofNat_of_lt' h) (fun _ => rfl) fun item h => ?_
  unfold Item.word32?
  split
  case h_1 n => exact absurd rfl (h n)
  case h_2 => rfl

theorem word64_readBy :
    (Kind.natural UInt64.size).ReadBy Item.word64? (fun w => some (.integer w.toNat)) := by
  refine natural_readBy (fun _ h => UInt64.toNat_ofNat_of_lt' h) (fun _ => rfl) fun item h => ?_
  unfold Item.word64?
  split
  case h_1 n => exact absurd rfl (h n)
  case h_2 => rfl

/-- What stands for a setting among the fields of a group. -/
def Toml.Fields.occupant? (fields : Fields) (position : Nat) (name : String) : Option Occupant :=
  (fields.get? position name).bind fun item => item.occupant? []

namespace Kind.ReadBy

variable {kind : Kind} {read : Item → Option α} {shown : α → Option Value} {item : Item}

/-- An item is taken for what it is seen as. -/
theorem isSome_iff_takes (h : kind.ReadBy read shown) (item : Item) :
    (read item).isSome ↔ kind.Takes (item.occupant? []) := by
  cases item with
  | value v =>
    rw [h.isSome_iff]
    cases v with
    | table dotted members => exact ⟨nofun, False.elim⟩
    | _ => exact Iff.rfl
  | table origin entries =>
    rw [h.other (.table origin entries) fun _ => nofun]
    exact ⟨nofun, False.elim⟩
  | tables earlier last =>
    rw [h.other (.tables earlier last) fun _ => nofun]
    exact ⟨nofun, False.elim⟩

theorem overlaid_of_read (h : kind.ReadBy read shown) {standard a : α}
    (hread : read item = some a) : Overlaid shown standard a (item.occupant? []) := by
  have htakes := (h.isSome_iff_takes item).1 (Option.isSome_of_eq_some hread)
  cases item with
  | value v =>
    cases v with
    | table dotted members => exact htakes.elim
    | _ => exact h.shown_eq hread
  | table origin entries => exact htakes.elim
  | tables earlier last => exact htakes.elim

theorem isSome_getOr (h : kind.ReadBy read shown) (fields : Fields) (position : Nat)
    (name : String) (standard : α) : (fields.getOr position name read standard).isSome ↔
      kind.Takes (fields.occupant? position name) := by
  rw [Fields.getOr, Fields.occupant?]
  cases fields.get? position name with
  | none => exact ⟨fun _ => trivial, fun _ => rfl⟩
  | some item => exact h.isSome_iff_takes item

theorem overlaid_of_getOr (h : kind.ReadBy read shown) {fields : Fields} {position : Nat}
    {name : String} {standard a : α} (hread : fields.getOr position name read standard = some a) :
    Overlaid shown standard a (fields.occupant? position name) := by
  rw [Fields.getOr] at hread
  rw [Fields.occupant?]
  cases hget : fields.get? position name with
  | none =>
    rw [hget] at hread
    cases hread
    rfl
  | some item =>
    rw [hget] at hread
    exact h.overlaid_of_read hread

end Kind.ReadBy

/-! ## One group -/

/-- A group of settings is read setting by setting, and its keys are all there is to it. -/
structure Group (keys : List (Key σ)) (read : Fields → Option σ) (standard : σ) : Prop where
  isSome_iff : ∀ fields, (read fields).isSome ↔
    ∀ key ∈ keys, key.kind.Takes (fields.occupant? key.position key.name)
  overlaid : ∀ {fields settings}, read fields = some settings → ∀ key ∈ keys,
    Overlaid key.shown standard settings (fields.occupant? key.position key.name)
  ext : ∀ {a b : σ}, (∀ key ∈ keys, key.shown a = key.shown b) → a = b
  /-- There is a first setting. -/
  first : ∃ key ∈ keys, key.position = 0

/-- A step that is taken whatever comes before it does not depend on it. -/
theorem isSome_bind_iff {β : Type} {first : Option α} {next : α → Option β} {p : Prop}
    (h : ∀ a, (next a).isSome ↔ p) : (first.bind next).isSome ↔ first.isSome ∧ p := by
  cases first with
  | none => exact ⟨nofun, nofun⟩
  | some a => exact (h a).trans ⟨fun hp => ⟨rfl, hp⟩, And.right⟩

theorem toolPaths_group : Group ToolPaths.keys ToolPaths.ofFields .standard where
  isSome_iff fields := by
    have hsteps : (ToolPaths.ofFields fields).isSome ↔ _ :=
      isSome_bind_iff fun _ => isSome_bind_iff fun _ => isSome_bind_iff fun _ =>
        isSome_bind_iff fun _ => isSome_bind_iff fun _ => isSome_bind_iff fun _ =>
          iff_of_true rfl trivial
    rw [hsteps]
    simp [text_readBy.isSome_getOr, ToolPaths.keys]
  overlaid {fields t} h := by
    obtain ⟨_, harcconf, h⟩ := Option.bind_eq_some_iff.1 h
    obtain ⟨_, hmegacli, h⟩ := Option.bind_eq_some_iff.1 h
    obtain ⟨_, hipmitool, h⟩ := Option.bind_eq_some_iff.1 h
    obtain ⟨_, hdmidecode, h⟩ := Option.bind_eq_some_iff.1 h
    obtain ⟨_, hlsblk, h⟩ := Option.bind_eq_some_iff.1 h
    obtain ⟨_, hcurl, h⟩ := Option.bind_eq_some_iff.1 h
    cases h
    simp only [ToolPaths.keys, List.forall_mem_cons]
    exact ⟨text_readBy.overlaid_of_getOr harcconf, text_readBy.overlaid_of_getOr hmegacli,
      text_readBy.overlaid_of_getOr hipmitool, text_readBy.overlaid_of_getOr hdmidecode,
      text_readBy.overlaid_of_getOr hlsblk, text_readBy.overlaid_of_getOr hcurl, nofun⟩
  ext {a b} h := by
    obtain ⟨_, _, _, _, _, _⟩ := a
    obtain ⟨_, _, _, _, _, _⟩ := b
    simpa [ToolPaths.keys] using h
  first := ⟨_, List.mem_cons_self, rfl⟩

theorem inspection_group : Group Inspection.keys Inspection.ofFields .standard where
  isSome_iff fields := by
    have hsteps : (Inspection.ofFields fields).isSome ↔ _ :=
      isSome_bind_iff fun _ => isSome_bind_iff fun _ => isSome_bind_iff fun _ =>
        iff_of_true rfl trivial
    rw [hsteps]
    simp [text_readBy.isSome_getOr, word32_readBy.isSome_getOr, word64_readBy.isSome_getOr,
      Inspection.keys]
  overlaid {fields i} h := by
    obtain ⟨_, hcallback, h⟩ := Option.bind_eq_some_iff.1 h
    obtain ⟨_, hretries, h⟩ := Option.bind_eq_some_iff.1 h
    obtain ⟨_, hinterval, h⟩ := Option.bind_eq_some_iff.1 h
    cases h
    simp only [Inspection.keys, List.forall_mem_cons]
    exact ⟨text_readBy.overlaid_of_getOr hcallback, word32_readBy.overlaid_of_getOr hretries,
      word64_readBy.overlaid_of_getOr hinterval, nofun⟩
  ext {a b} h := by
    obtain ⟨_, _, _⟩ := a
    obtain ⟨_, _, _⟩ := b
    simpa [Inspection.keys, Int.ofNat_inj, UInt32.toNat_inj, UInt64.toNat_inj] using h
  first := ⟨_, List.mem_cons_self, rfl⟩

theorem logging_group : Group Logging.keys Logging.ofFields .standard where
  isSome_iff fields := by
    have hsteps : (Logging.ofFields fields).isSome ↔ _ :=
      isSome_bind_iff fun _ => isSome_bind_iff fun _ => iff_of_true rfl trivial
    rw [hsteps]
    simp [text_readBy.isSome_getOr, path_readBy.isSome_getOr, Logging.keys]
  overlaid {fields i} h := by
    obtain ⟨_, hlevel, h⟩ := Option.bind_eq_some_iff.1 h
    obtain ⟨_, hpath, h⟩ := Option.bind_eq_some_iff.1 h
    cases h
    simp only [Logging.keys, List.forall_mem_cons]
    exact ⟨text_readBy.overlaid_of_getOr hlevel, path_readBy.overlaid_of_getOr hpath, nofun⟩
  ext {a b} h := by
    obtain ⟨_, _⟩ := a
    obtain ⟨_, _⟩ := b
    have htext : Function.Injective Value.text := fun _ _ => Value.text.inj
    simpa [Logging.keys, (Option.map_injective htext).eq_iff] using h
  first := ⟨_, List.mem_cons_self, rfl⟩

/-! ## All groups -/

namespace Settings

/-- A setting by its place in a document. -/
structure Known where
  group : String
  position : Nat
  name : String
  kind : Kind
  /-- The value that says what is held, if anything is. -/
  shown : Settings → Option Value

/-- The key of a setting in the table of its group. -/
def Known.place (k : Known) : List String := [k.group, k.name]

/-- A key of a group. -/
def known (group : String) (held : Settings → σ) (key : Key σ) : Known :=
  ⟨group, key.position, key.name, key.kind, fun settings => key.shown (held settings)⟩

/-- The groups of settings. -/
def groups : List String := ["tools", "inspection", "log"]

/-- Every setting there is. -/
def allKnown : List Known :=
  ToolPaths.keys.map (known "tools" tools) ++ Inspection.keys.map (known "inspection" inspection) ++
    Logging.keys.map (known "log" log)

/-- Whether what stands for a group may give settings: nothing and tables may, and of the other
values arrays, dates and times. -/
def Admissible : Option Occupant → Prop
  | none => True
  | some .table => True
  | some (.value (.array _)) => True
  | some (.value (.moment _)) => True
  | some _ => False

/-- What a tree gives for a setting: what stands under its key, or at its position if its group is
an array. -/
def given? (document : Entries) (group : String) (position : Nat) (name : String) :
    Option Occupant :=
  match document.occupant? [group] with
  | some (.value (.array elements)) => elements[position]?.bind fun v => v.occupant? []
  | _ => document.occupant? [group, name]

theorem get?_map {β : Type} (held : Keyed α) (f : α → β) (key : String) :
    Keyed.get? (held.map fun (name, x) => (name, f x)) key = (held.get? key).map f := by
  induction held with
  | nil => rfl
  | cons e rest ih =>
    obtain ⟨name, x⟩ := e
    simp only [Keyed.get?, List.map_cons, List.lookup_cons] at ih ⊢
    cases key == name with
    | true => rfl
    | false => exact ih

/-- Nothing stands below a value that is no table. -/
theorem occupant?_below_value {document : Entries} {group : String} {v : Value}
    (h : document.occupant? [group] = some (.value v)) (name : String) :
    document.occupant? [group, name] = none := by
  rw [Entries.occupant?] at h ⊢
  cases hget : document.get? group with
  | none => rfl
  | some item =>
    rw [hget, Option.bind_some] at h
    rw [Option.bind_some]
    cases item with
    | table origin entries => cases h
    | tables earlier last => cases h
    | value w =>
      cases w with
      | table dotted members => cases h
      | _ => rfl

section
variable {document : Entries} {group : String} {fields : Fields}

/-- Nothing that is not admissible is read as a group, except for an array of tables. -/
theorem occupant?_of_group?_eq_none (h : group? document group = none) :
    ¬ Admissible (document.occupant? [group]) := by
  rw [group?] at h
  rw [Entries.occupant?]
  cases hget : document.get? group with
  | none => rw [hget] at h; cases h
  | some item =>
    rw [hget] at h
    rw [Option.bind_some]
    cases item with
    | value v =>
      cases v with
      | array elements => cases h
      | moment written => cases h
      | table dotted members => cases h
      | _ => exact False.elim
    | table origin entries => cases h
    | tables earlier last => cases h

/-- What is read as a group gives what the tree gives. An array of tables gives tables. -/
theorem occupant?_of_group?_eq_some (h : group? document group = some fields) :
    (Admissible (document.occupant? [group]) ∧
      ∀ position name, fields.occupant? position name = given? document group position name) ∨
    (document.occupant? [group] = some .tables ∧
      ∀ name, fields.occupant? 0 name = some .table) := by
  rw [group?] at h
  simp only [given?]
  rw [Entries.occupant?]
  cases hget : document.get? group with
  | none =>
    rw [hget] at h
    cases h
    exact .inl ⟨trivial, fun _ _ => by simp [Entries.occupant?, hget]; rfl⟩
  | some item =>
    rw [hget] at h
    rw [Option.bind_some]
    simp only [Entries.occupant?, hget, Option.bind_some]
    cases item with
    | table origin entries =>
      cases h
      exact .inl ⟨trivial, fun _ _ => rfl⟩
    | tables earlier last =>
      cases h
      refine .inr ⟨rfl, fun name => ?_⟩
      cases earlier <;> rfl
    | value v =>
      cases v with
      | table dotted members =>
        cases h
        refine .inl ⟨trivial, fun position name => ?_⟩
        simp only [Fields.occupant?, Fields.get?, get?_map, Option.bind_map]
        rfl
      | array elements =>
        cases h
        refine .inl ⟨trivial, fun position name => ?_⟩
        simp only [Fields.occupant?, Fields.get?, List.getElem?_map, Option.bind_map]
        rfl
      | moment written =>
        cases h
        exact .inl ⟨trivial, fun _ _ => rfl⟩
      | _ => cases h

end

/-- What a tree gives for a setting. -/
def Known.given? (k : Known) (document : Entries) : Option Occupant :=
  Settings.given? document k.group k.position k.name

theorem isSome_group_iff {keys : List (Key σ)} {read : Fields → Option σ} {standard : σ}
    (hgroup : Group keys read standard) (held : Settings → σ) (document : Entries)
    (group : String) :
    ((group? document group).bind read).isSome ↔
      Admissible (document.occupant? [group]) ∧
        ∀ k ∈ keys.map (known group held), k.kind.Takes (k.given? document) := by
  rw [List.forall_mem_map]
  cases hfields : group? document group with
  | none => exact iff_of_false nofun fun h => occupant?_of_group?_eq_none hfields h.1
  | some fields =>
    rw [Option.bind_some, hgroup.isSome_iff]
    rcases occupant?_of_group?_eq_some hfields with ⟨hadmissible, hgiven⟩ | ⟨htables, hfirst⟩
    · simp only [hgiven, known, Known.given?, hadmissible, true_and]
    · obtain ⟨key, hkey, hposition⟩ := hgroup.first
      rw [htables]
      refine iff_of_false (fun h => ?_) fun h => h.1
      have htakes := h key hkey
      rw [hposition, hfirst] at htakes
      exact htakes

theorem overlaid_of_group {keys : List (Key σ)} {read : Fields → Option σ}
    {held : Settings → σ} (hgroup : Group keys read (held .standard)) {document : Entries}
    {group : String} {settings : Settings}
    (h : (group? document group).bind read = some (held settings)) :
    ∀ k ∈ keys.map (known group held), Overlaid k.shown .standard settings (k.given? document) := by
  have hadmissible := ((isSome_group_iff hgroup held document group).1
    (Option.isSome_of_eq_some h)).1
  obtain ⟨fields, hfields, hread⟩ := Option.bind_eq_some_iff.1 h
  rw [List.forall_mem_map]
  intro key hkey
  have hoverlaid := hgroup.overlaid hread key hkey
  rcases occupant?_of_group?_eq_some hfields with ⟨-, hgiven⟩ | ⟨htables, -⟩
  · rw [hgiven] at hoverlaid
    simp only [known, Known.given?]
    generalize given? document group key.position key.name = given at hoverlaid ⊢
    cases given with
    | none => exact hoverlaid
    | some found => cases found <;> exact hoverlaid
  · rw [htables] at hadmissible
    exact hadmissible.elim

/-- The three groups are read one by one. -/
theorem ofDocument_eq (document : Entries) :
    ofDocument document =
      ((group? document "tools").bind ToolPaths.ofFields).bind fun tools =>
        ((group? document "inspection").bind Inspection.ofFields).bind fun inspection =>
          ((group? document "log").bind Logging.ofFields).bind fun log =>
            some ⟨tools, inspection, log⟩ := by
  simp only [Option.bind_assoc]
  rfl

theorem isSome_ofDocument_iff (document : Entries) :
    (ofDocument document).isSome ↔
      (∀ group ∈ groups, Admissible (document.occupant? [group])) ∧
        ∀ k ∈ allKnown, k.kind.Takes (k.given? document) := by
  have hsteps : (ofDocument document).isSome ↔ _ :=
    ofDocument_eq document ▸ isSome_bind_iff fun _ => isSome_bind_iff fun _ =>
      isSome_bind_iff fun _ => iff_of_true rfl trivial
  rw [hsteps, isSome_group_iff toolPaths_group Settings.tools,
    isSome_group_iff inspection_group Settings.inspection,
    isSome_group_iff logging_group Settings.log]
  simp only [allKnown, groups, List.forall_mem_append, List.forall_mem_cons]
  constructor
  · rintro ⟨⟨htools, hpaths⟩, ⟨hinspection, hservice⟩, ⟨hlog, hlogging⟩, -⟩
    exact ⟨⟨htools, hinspection, hlog, nofun⟩, ⟨hpaths, hservice⟩, hlogging⟩
  · rintro ⟨⟨htools, hinspection, hlog, -⟩, ⟨hpaths, hservice⟩, hlogging⟩
    exact ⟨⟨htools, hpaths⟩, ⟨hinspection, hservice⟩, ⟨hlog, hlogging⟩, trivial⟩

theorem overlaid_of_ofDocument {document : Entries} {settings : Settings}
    (h : ofDocument document = some settings) :
    ∀ k ∈ allKnown, Overlaid k.shown .standard settings (k.given? document) := by
  rw [ofDocument_eq] at h
  obtain ⟨tools, htools, h⟩ := Option.bind_eq_some_iff.1 h
  obtain ⟨inspection, hinspection, h⟩ := Option.bind_eq_some_iff.1 h
  obtain ⟨log, hlog, h⟩ := Option.bind_eq_some_iff.1 h
  cases h
  simp only [allKnown, List.forall_mem_append]
  exact ⟨⟨overlaid_of_group toolPaths_group htools,
    overlaid_of_group inspection_group hinspection⟩, overlaid_of_group logging_group hlog⟩

/-- Settings are nothing more than what shows of them. -/
theorem ext_shown {a b : Settings} (h : ∀ k ∈ allKnown, k.shown a = k.shown b) : a = b := by
  simp only [allKnown, List.forall_mem_append, List.forall_mem_map] at h
  obtain ⟨⟨htools, hinspection⟩, hlog⟩ := h
  obtain ⟨_, _, _⟩ := a
  obtain ⟨_, _, _⟩ := b
  rw [mk.injEq]
  exact ⟨toolPaths_group.ext htools, inspection_group.ext hinspection, logging_group.ext hlog⟩

/-- What is overlaid by the same is the same. -/
theorem Overlaid.unique {shown : σ → Option Value} {standard a b : σ} {given : Option Occupant}
    (ha : Overlaid shown standard a given) (hb : Overlaid shown standard b given) :
    shown a = shown b := by
  cases given with
  | none => exact Eq.trans ha (Eq.symm hb)
  | some found =>
    cases found with
    | value v => exact Eq.trans ha (Eq.symm hb)
    | table => exact ha.elim
    | tables => exact ha.elim

/-- Documents that give the same for every setting, and have admissible groups or not, hold the same
settings. -/
theorem ofDocument_congr {document other : Entries}
    (hgroups : ∀ group ∈ groups,
      Admissible (document.occupant? [group]) ↔ Admissible (other.occupant? [group]))
    (hkeys : ∀ k ∈ allKnown, k.given? document = k.given? other) :
    ofDocument document = ofDocument other := by
  have hsome : (ofDocument document).isSome ↔ (ofDocument other).isSome := by
    rw [isSome_ofDocument_iff, isSome_ofDocument_iff]
    refine and_congr (forall₂_congr hgroups) (forall₂_congr fun k hk => ?_)
    rw [hkeys k hk]
  cases hsettings : ofDocument document with
  | none =>
    rw [hsettings] at hsome
    exact (Option.not_isSome_iff_eq_none.1 fun h => nomatch hsome.2 h).symm
  | some settings =>
    rw [hsettings] at hsome
    obtain ⟨others, hothers⟩ := Option.isSome_iff_exists.1 (hsome.1 rfl)
    rw [hothers, Option.some.injEq]
    refine ext_shown fun k hk => ?_
    have hleft := overlaid_of_ofDocument hsettings k hk
    rw [hkeys k hk] at hleft
    exact Overlaid.unique hleft (overlaid_of_ofDocument hothers k hk)

/-- The settings in a tree are the standard ones with what it gives in their place, however the tree
was written. -/
structure OverlaysTree (document : Entries) : Prop where
  isSome_iff : (ofDocument document).isSome ↔
    (∀ group ∈ groups, Admissible (document.occupant? [group])) ∧
      ∀ k ∈ allKnown, k.kind.Takes (k.given? document)
  overlaid : ∀ {settings}, ofDocument document = some settings →
    ∀ k ∈ allKnown, Overlaid k.shown .standard settings (k.given? document)
  alike : ∀ {other : Entries},
    (∀ group ∈ groups,
      Admissible (document.occupant? [group]) ↔ Admissible (other.occupant? [group])) →
    (∀ k ∈ allKnown, k.given? document = k.given? other) →
    ofDocument document = ofDocument other

theorem overlaysTree (document : Entries) : OverlaysTree document where
  isSome_iff := isSome_ofDocument_iff document
  overlaid := overlaid_of_ofDocument
  alike := ofDocument_congr

/-! ## Texts -/

/-- What a text gives for a setting: what it says of its key, or, if it says that the group is an
array, the element at the position of the setting. -/
inductive Gives (text : String) (k : Known) (found : Occupant) : Prop where
  | byKey (h : Says text k.place found)
  | byPosition {elements : List Value} {v : Value}
    (h : Says text [k.group] (.value (.array elements))) (hat : elements[k.position]? = some v)
    (hfound : v.occupant? [] = some found)

/-- Every setting is given something it takes, if anything, and nothing stands where a group may be
that no group is read from. -/
structure WellTyped (text : String) : Prop where
  groups : ∀ group ∈ groups, ∀ found, Says text [group] found → Admissible (some found)
  keys : ∀ k ∈ allKnown, ∀ found, Gives text k found → ∃ v, found = .value v ∧ k.kind.Fits v

/-- Something put where it matters to a setting: at its key or further on, or something other than a
table with a header in the place of a group or on the way to it. -/
inductive Concerns (p : Placement) : Prop where
  | key (k : Known) (hk : k ∈ allKnown) (hon : k.place <+: p.way)
  | group (group : String) (hgroup : group ∈ groups) (hon : p.way <+: [group])
    (hcontent : p.content ≠ .table)

/-- The settings in a text are the standard ones with what it gives in their place. -/
structure Overlays (text : String) : Prop where
  /-- Settings are read unless something is given that is not taken. -/
  isSome_iff : (ofText text).isSome ↔ WellTyped text
  /-- What is given is held. -/
  given : ∀ {settings}, ofText text = some settings → ∀ k ∈ allKnown, ∀ v,
    Gives text k (.value v) → k.shown settings = some v
  /-- What is left out is standard. -/
  leftOut : ∀ {settings}, ofText text = some settings → ∀ k ∈ allKnown,
    (∀ found, ¬ Gives text k found) → k.shown settings = k.shown standard
  /-- Nothing but what is given matters. -/
  alike : ∀ {other}, (readDocument other).isSome →
    (∀ group ∈ groups, (∀ found, Says text [group] found → Admissible (some found)) ↔
      ∀ found, Says other [group] found → Admissible (some found)) →
    (∀ k ∈ allKnown, ∀ found, Gives text k found ↔ Gives other k found) →
    ofText text = ofText other
  /-- No other keys and tables matter, no table that is opened or not, no order. -/
  anyOrder : ∀ {other placed others}, (readDocument other).isSome →
    placements? text = some placed → placements? other = some others →
    (∀ p, Concerns p → (p ∈ placed ↔ p ∈ others)) → ofText text = ofText other

section
variable {text other : String} {document : Entries}

theorem place_ne_nil (k : Known) : k.place ≠ [] := List.cons_ne_nil _ _

theorem given?_eq_some_iff (h : readDocument text = some document) (k : Known)
    (found : Occupant) : k.given? document = some found ↔ Gives text k found := by
  have hkey := occupant?_eq_some_iff h (place_ne_nil k) found
  have hgroup : ∀ v, document.occupant? [k.group] = some (.value v) ↔ _ := fun v =>
    occupant?_eq_some_iff h (List.cons_ne_nil _ _) (.value v)
  rw [Known.given?, Settings.given?]
  split
  case h_1 elements harray =>
    constructor
    · intro hgiven
      obtain ⟨v, hat, hfound⟩ := Option.bind_eq_some_iff.1 hgiven
      exact .byPosition ((hgroup _).1 harray) hat hfound
    · rintro (hsaid | ⟨hsaid, hat, hfound⟩)
      · have hnone := occupant?_below_value harray k.name
        cases hnone.symm.trans (hkey.2 hsaid)
      · cases harray.symm.trans ((hgroup _).2 hsaid)
        rw [hat]
        exact hfound
  case h_2 hno =>
    constructor
    · exact fun hgiven => .byKey (hkey.1 hgiven)
    · rintro (hsaid | ⟨hsaid, -, -⟩)
      · exact hkey.2 hsaid
      · exact absurd ((hgroup _).2 hsaid) (hno _)

theorem admissible_iff (h : readDocument text = some document) (group : String) :
    Admissible (document.occupant? [group]) ↔
      ∀ found, Says text [group] found → Admissible (some found) := by
  have hsaid := fun found => occupant?_eq_some_iff h (List.cons_ne_nil group []) found
  simp only [← hsaid]
  cases document.occupant? [group] with
  | none => exact iff_of_true trivial nofun
  | some found => simp

theorem takes_iff (h : readDocument text = some document) (k : Known) :
    k.kind.Takes (k.given? document) ↔
      ∀ found, Gives text k found → ∃ v, found = .value v ∧ k.kind.Fits v := by
  rw [Kind.takes_iff]
  exact forall_congr' fun found => imp_congr_left (given?_eq_some_iff h k found)

theorem isSome_ofText_iff (h : readDocument text = some document) :
    (ofText text).isSome ↔ WellTyped text := by
  rw [ofText, h, Option.bind_some, isSome_ofDocument_iff]
  simp only [admissible_iff h, takes_iff h]
  exact ⟨fun ⟨hgroups, hkeys⟩ => ⟨hgroups, hkeys⟩, fun ⟨hgroups, hkeys⟩ => ⟨hgroups, hkeys⟩⟩

/-- Texts that give the same for every setting, and have admissible groups or not, hold the same
settings. -/
theorem ofText_congr (h : (readDocument text).isSome) (hother : (readDocument other).isSome)
    (hgroups : ∀ group ∈ groups, (∀ found, Says text [group] found → Admissible (some found)) ↔
      ∀ found, Says other [group] found → Admissible (some found))
    (hkeys : ∀ k ∈ allKnown, ∀ found, Gives text k found ↔ Gives other k found) :
    ofText text = ofText other := by
  obtain ⟨document, hdocument⟩ := Option.isSome_iff_exists.1 h
  obtain ⟨second, hsecond⟩ := Option.isSome_iff_exists.1 hother
  rw [ofText, ofText, hdocument, hsecond, Option.bind_some, Option.bind_some]
  refine ofDocument_congr (fun group hgroup => ?_) fun k hk => Option.ext fun found => ?_
  · rw [admissible_iff hdocument, admissible_iff hsecond]
    exact hgroups group hgroup
  · rw [given?_eq_some_iff hdocument, given?_eq_some_iff hsecond]
    exact hkeys k hk found

theorem group_mem_groups {k : Known} (h : k ∈ allKnown) : k.group ∈ groups := by
  simp only [allKnown, List.mem_append, List.mem_map] at h
  rcases h with (⟨_, _, rfl⟩ | ⟨_, _, rfl⟩) | ⟨_, _, rfl⟩ <;> simp [known, groups]

/-- What says something of a group other than that it is a table matters. -/
theorem concerns_of_saidBy_group {p : Placement} {group : String} (hgroup : group ∈ groups)
    {found : Occupant} (h : SaidBy p [group] found) (hfound : found ≠ .table) : Concerns p := by
  rcases h with ⟨rest, hplace, hcontent⟩ | ⟨-, -, htable⟩
  · refine .group group hgroup ⟨rest, hplace.symm⟩ fun htable => ?_
    rw [htable] at hcontent
    cases rest with
    | nil => exact hfound (Option.some.inj hcontent).symm
    | cons key rest => cases hcontent
  · exact absurd htable hfound

/-- What says something of the key of a setting matters. -/
theorem concerns_of_saidBy_place {p : Placement} {k : Known} (hk : k ∈ allKnown)
    {found : Occupant} (h : SaidBy p k.place found) : Concerns p := by
  rcases h with ⟨rest, hplace, hcontent⟩ | ⟨hon, -, -⟩
  · rcases List.prefix_concat_iff.1 (⟨rest, hplace.symm⟩ : p.way <+: [k.group] ++ [k.name])
      with heq | hon
    · exact .key k hk (heq ▸ List.prefix_rfl)
    · refine .group k.group (group_mem_groups hk) hon fun htable => ?_
      rw [htable] at hcontent
      cases rest with
      | nil =>
        rw [List.append_nil] at hplace
        rw [← hplace] at hon
        exact absurd hon.length_le (by simp [Known.place])
      | cons key rest => cases hcontent
  · exact .key k hk hon

/-- What is said of a place is said by the placements that say it. -/
theorem says_congr {placed others : List Placement} (hplaced : placements? text = some placed)
    (hothers : placements? other = some others) {place : List String} {found : Occupant}
    (h : ∀ p, SaidBy p place found → (p ∈ placed ↔ p ∈ others)) :
    Says text place found ↔ Says other place found := by
  simp only [Says, hplaced, hothers, Option.mem_some_iff, exists_eq_left', Stated]
  exact exists_congr fun p => and_congr_left (h p)

section
variable {placed others : List Placement} (hplaced : placements? text = some placed)
  (hothers : placements? other = some others)
  (hsame : ∀ p, Concerns p → (p ∈ placed ↔ p ∈ others))
include hplaced hothers hsame

/-- Texts that put the same where it matters say the same of a group, but for its being a table. -/
theorem says_group_congr {group : String} (hgroup : group ∈ groups) (found : Occupant)
    (hfound : found ≠ .table) : Says text [group] found ↔ Says other [group] found :=
  says_congr hplaced hothers fun p hsaid => hsame p (concerns_of_saidBy_group hgroup hsaid hfound)

theorem admissible_congr {group : String} (hgroup : group ∈ groups) :
    (∀ found, Says text [group] found → Admissible (some found)) ↔
      ∀ found, Says other [group] found → Admissible (some found) := by
  refine forall_congr' fun found => ?_
  by_cases hfound : found = .table
  · subst hfound
    exact iff_of_true (fun _ => trivial) fun _ => trivial
  · exact imp_congr_left (says_group_congr hplaced hothers hsame hgroup found hfound)

/-- They give the same for every setting. -/
theorem gives_congr {k : Known} (hk : k ∈ allKnown) (found : Occupant) :
    Gives text k found ↔ Gives other k found := by
  have hplace : Says text k.place found ↔ Says other k.place found :=
    says_congr hplaced hothers fun p hsaid => hsame p (concerns_of_saidBy_place hk hsaid)
  have harray := fun elements => says_group_congr hplaced hothers hsame (group_mem_groups hk)
    (.value (.array elements)) nofun
  constructor
  · rintro (hsaid | ⟨hsaid, hat, hfound⟩)
    · exact .byKey (hplace.1 hsaid)
    · exact .byPosition ((harray _).1 hsaid) hat hfound
  · rintro (hsaid | ⟨hsaid, hat, hfound⟩)
    · exact .byKey (hplace.2 hsaid)
    · exact .byPosition ((harray _).2 hsaid) hat hfound

end

theorem overlays_of_readDocument (h : (readDocument text).isSome) : Overlays text := by
  obtain ⟨document, hdocument⟩ := Option.isSome_iff_exists.1 h
  have hoverlaid {settings : Settings} (hsettings : ofText text = some settings) :
      ∀ k ∈ allKnown, Overlaid k.shown .standard settings (k.given? document) := by
    rw [ofText, hdocument, Option.bind_some] at hsettings
    exact overlaid_of_ofDocument hsettings
  refine ⟨isSome_ofText_iff hdocument, ?_, ?_, fun hother => ofText_congr h hother, ?_⟩
  · intro settings hsettings k hk v hgives
    have hheld := hoverlaid hsettings k hk
    rwa [(given?_eq_some_iff hdocument k _).2 hgives] at hheld
  · intro settings hsettings k hk hnothing
    have hheld := hoverlaid hsettings k hk
    have hnone : k.given? document = none := by
      rw [Option.eq_none_iff_forall_ne_some]
      exact fun found hfound => hnothing found ((given?_eq_some_iff hdocument k _).1 hfound)
    rwa [hnone] at hheld
  · intro other placed others hother hplaced hothers hsame
    exact ofText_congr h hother (fun group => admissible_congr hplaced hothers hsame)
      fun k => gives_congr hplaced hothers hsame

end

/-- **Settings are the standard ones with what is given in their place.** So it is for every tree,
and for every text that is a document: if it gives each setting only what it takes, the setting is
what is given or else its standard value, and if not, no settings are read at all. -/
theorem ofText_overlays :
    (∀ document, OverlaysTree document) ∧
    ∀ text, (readDocument text).isSome → Overlays text :=
  ⟨overlaysTree, fun _ h => overlays_of_readDocument h⟩

/-- A text with some settings of each group, out of order, and with other keys and tables. -/
def partialText : String :=
  "log.level = 'debug'\n\n[retired]\nkeys = [0.5, \x7b on = 1979-05-27 \x7d,]\n\n[[disks]]\n" ++
    "slot = 1\n[[disks]]\n\n[inspection]\nbmc_retries = 0x10 # at most\nunknown = '''\n[tools]\n" ++
    "curl = 1\n'''\n\n[tools]\nmegacli = \"\"\"\\\n  /usr/bin/megacli\"\"\"\n"

/-- A text with one number more than a word holds. -/
def outOfRangeText : String := "[tools]\ncurl = 'curl'\n[inspection]\nbmc_retries = 4294967296\n"

theorem ofText_overlays_partialText :
    (readDocument partialText).isSome ∧ (readDocument outOfRangeText).isSome ∧
    ofText partialText = some { standard with
      tools.megacli := "/usr/bin/megacli"
      inspection.retries := 16
      log.level := "debug" } ∧
    WellTyped partialText ∧ ¬ WellTyped outOfRangeText := by
  have hpartial : (readDocument partialText).isSome := by decide +kernel
  have hrange : (readDocument outOfRangeText).isSome := by decide +kernel
  have hsettings : ofText partialText = some { standard with
      tools.megacli := "/usr/bin/megacli"
      inspection.retries := 16
      log.level := "debug" } := by decide +kernel
  have hnone : ofText outOfRangeText = none := by decide +kernel
  refine ⟨hpartial, hrange, hsettings, ?_, ?_⟩
  · rw [← (ofText_overlays.2 _ hpartial).isSome_iff, hsettings]
    rfl
  · rw [← (ofText_overlays.2 _ hrange).isSome_iff, hnone]
    nofun

/-- A text whose tools are an array. -/
def arrayText : String := "tools = ['/x']\n"

/-- A text with one array in another under a key that is not known. -/
def nestedText (depth : Nat) : String :=
  String.ofList ("deep = ".toList ++ List.replicate depth '[' ++ List.replicate depth ']')

theorem not_says_arrayText {k : Known} (hk : k ∈ allKnown) (found : Occupant) :
    ¬ Says arrayText k.place found := by
  have hread : (readDocument arrayText).isSome := by decide +kernel
  have hnone : ∀ k ∈ allKnown,
      (readDocument arrayText).all fun document => (document.occupant? k.place).isNone := by
    decide +kernel
  obtain ⟨document, hdocument⟩ := Option.isSome_iff_exists.1 hread
  intro hsaid
  have hat := hnone k hk
  rw [hdocument, Option.all_some, (occupant?_eq_some_iff hdocument (place_ne_nil k) found).2 hsaid]
    at hat
  cases hat

/-- A text may say nothing of the keys of its tools and set one all the same, and arrays in one
another make it unreadable from a certain depth on. -/
theorem settings_by_position :
    (¬ ∀ text, (readDocument text).isSome →
      (∀ k ∈ allKnown, ∀ found, Says text k.place found → ∃ v, found = .value v ∧ k.kind.Fits v) →
      ∃ settings, ofText text = some settings ∧ ∀ k ∈ allKnown,
        (∀ v, Says text k.place (.value v) → k.shown settings = some v) ∧
        ((∀ found, ¬ Says text k.place found) → k.shown settings = k.shown standard)) ∧
    ofText (nestedText 79) = some standard ∧ ofText (nestedText 80) = none := by
  refine ⟨fun hclaim => ?_, by decide +kernel, by decide +kernel⟩
  obtain ⟨settings, hsettings, hkeys⟩ := hclaim arrayText (by decide +kernel)
    fun k hk found hsaid => absurd hsaid (not_says_arrayText hk found)
  have hheld : ofText arrayText = some { standard with tools.arcconf := "/x" } := by decide +kernel
  cases hheld.symm.trans hsettings
  have hmem : known "tools" tools ⟨0, "arcconf", .text, fun t => some (.text t.arcconf)⟩ ∈
      allKnown := by
    simp [allKnown, ToolPaths.keys]
  have hstandard := (hkeys _ hmem).2 (not_says_arrayText hmem)
  simp [known, standard, ToolPaths.standard] at hstandard

end Settings
end RaidProvision

import Mathlib.Logic.Relation
import RaidProvision.Machine.Bmc
import RaidProvision.Machine.Identity
import RaidProvision.Proofs.Report.KeyValue

/-!
# The first line with a key

Facts about the machine are read off reports by their keys. A key counts where it stands first, and
it has to be the whole text before the first colon of its line; values may hold colons again. What
else a report holds makes no difference: lines with other keys, lines without a colon, and lines
that repeat a key (`Idle`) may be added, left out, or put in another order (`Edited`).

* `firstValue?_eq_some_iff`, `firstValue?_eq_none_iff`: the value that a key has.
* `addressOf_eq`, `get?_fieldsOf`: both readers take the first value of a key.
* `bmcAddress_eq_ok_iff`, `ofReport_eq_ok_iff` and their likes for errors: what is read.
* `firstValue?_of_edit`, `firstValue?_of_edited`: one change to the other lines, and any number.
* `facts_by_first_key`: what both readers make of a report, and of what it is changed to.
-/
namespace RaidProvision.Machine

open RaidProvision.Text RaidProvision.Report

/-! ## Lines and their keys -/

/-- A line says that a key has a value: they are the texts before and behind its first colon,
without blanks around them. -/
def Says (line key value : String) : Prop :=
  ∃ before after, ':' ∉ before.toList ∧ line = before ++ ":" ++ after ∧ key = trim before ∧
    value = trim after

/-- No line has a key. -/
def Lacks (ls : List String) (key : String) : Prop := ∀ line ∈ ls, ∀ value, ¬ Says line key value

/-- The first line with a key says that it has a value. -/
def SaysFirst (ls : List String) (key value : String) : Prop :=
  ∃ before line after, ls = before ++ line :: after ∧ Lacks before key ∧ Says line key value

theorem says_iff {line key value : String} :
    Says line key value ↔ keyValue ":" line = some (key, value) :=
  keyValue_colon_eq_some_iff.symm

/-- The value of the first line with a key. -/
def firstValue? (ls : List String) (key : String) : Option String :=
  (ls.filterMap (keyValue ":")).lookup key

section
variable {key : String}

theorem firstValue?_cons_of_key {line value : String} (h : Says line key value)
    (rest : List String) : firstValue? (line :: rest) key = some value := by
  rw [firstValue?, List.filterMap_cons_some (says_iff.1 h), List.lookup_cons_self]

theorem firstValue?_cons_of_other {line : String} (h : ∀ value, ¬ Says line key value)
    (rest : List String) : firstValue? (line :: rest) key = firstValue? rest key := by
  rw [firstValue?]
  cases hline : keyValue ":" line with
  | none => rw [List.filterMap_cons_none hline, firstValue?]
  | some pair =>
    obtain ⟨other, value⟩ := pair
    have hother : (key == other) = false := by
      refine beq_eq_false_iff_ne.2 fun heq => h value (says_iff.2 ?_)
      rw [hline, heq]
    rw [List.filterMap_cons_some hline, List.lookup_cons, hother, firstValue?]

theorem firstValue?_eq_none_iff {ls : List String} : firstValue? ls key = none ↔ Lacks ls key := by
  induction ls with
  | nil => simp [firstValue?, Lacks]
  | cons line rest ih =>
    by_cases hline : ∃ value, Says line key value
    · obtain ⟨value, hsays⟩ := hline
      rw [firstValue?_cons_of_key hsays]
      refine iff_of_false (by simp) fun hlacks => hlacks line List.mem_cons_self value hsays
    · have hnot : ∀ value, ¬ Says line key value := fun value h => hline ⟨value, h⟩
      rw [firstValue?_cons_of_other hnot, ih, Lacks, Lacks, List.forall_mem_cons]
      exact (and_iff_right hnot).symm

/-- Lines without a key in front of others. -/
theorem firstValue?_append_of_lacks {before : List String} (h : Lacks before key)
    (after : List String) : firstValue? (before ++ after) key = firstValue? after key := by
  induction before with
  | nil => rfl
  | cons line rest ih =>
    rw [Lacks, List.forall_mem_cons] at h
    rw [List.cons_append, firstValue?_cons_of_other h.1, ih h.2]

/-- Where a key stands already, what is behind does not count. -/
theorem firstValue?_append_of_some {before : List String} {value : String}
    (h : firstValue? before key = some value) (after : List String) :
    firstValue? (before ++ after) key = some value := by
  rw [firstValue?] at h ⊢
  rw [List.filterMap_append, List.lookup_append, h, Option.some_or]

theorem firstValue?_eq_some_iff {ls : List String} {value : String} :
    firstValue? ls key = some value ↔ SaysFirst ls key value := by
  constructor
  · intro h
    induction ls with
    | nil => simp [firstValue?] at h
    | cons line rest ih =>
      by_cases hline : ∃ value, Says line key value
      · obtain ⟨other, hsays⟩ := hline
        rw [firstValue?_cons_of_key hsays, Option.some.injEq] at h
        exact ⟨[], line, rest, rfl, by simp [Lacks], h ▸ hsays⟩
      · have hnot : ∀ value, ¬ Says line key value := fun value h => hline ⟨value, h⟩
        rw [firstValue?_cons_of_other hnot] at h
        obtain ⟨before, first, after, rfl, hbefore, hsays⟩ := ih h
        exact ⟨line :: before, first, after, rfl, List.forall_mem_cons.2 ⟨hnot, hbefore⟩, hsays⟩
  · rintro ⟨before, line, after, rfl, hbefore, hsays⟩
    rw [firstValue?_append_of_lacks hbefore, firstValue?_cons_of_key hsays]

end

/-! ## The two readers -/

theorem addressOf_eq (ls : List String) : addressOf ls = firstValue? ls addressKey := by
  induction ls with
  | nil => rfl
  | cons line rest ih =>
    by_cases hline : ∃ value, Says line addressKey value
    · obtain ⟨value, hsays⟩ := hline
      rw [firstValue?_cons_of_key hsays, addressOf, says_iff.1 hsays]
      exact if_pos rfl
    · have hnot : ∀ value, ¬ Says line addressKey value := fun value h => hline ⟨value, h⟩
      rw [firstValue?_cons_of_other hnot, ← ih]
      refine addressOf_cons_of_ne rest fun key value hkey => ?_
      rintro rfl
      exact hnot value (says_iff.2 hkey)

theorem get?_insertNew (fields : Fields) (key value other : String) :
    (fields.insertNew key value).get? other =
      (fields.get? other).or (if other = key then some value else none) := by
  unfold Fields.insertNew
  by_cases hkey : other = key
  · subst hkey
    cases hfound : fields.get? other <;> simp [hfound]
  · cases hfound : (fields.get? key).isSome <;> simp [hkey, Fields.get?_insert]

/-- What was found before stays, and the first value of a key is added to it. -/
theorem get?_fieldsOf (found : Fields) (ls : List String) (key : String) :
    (Identity.fieldsOf found ls).get? key = (found.get? key).or (firstValue? ls key) := by
  induction ls generalizing found with
  | nil => simp [firstValue?]
  | cons line rest ih =>
    rw [Identity.fieldsOf]
    cases hline : keyValue ":" line with
    | none =>
      have hnot : ∀ value, ¬ Says line key value := fun value h => by
        rw [says_iff, hline] at h
        cases h
      simp only [ih, firstValue?_cons_of_other hnot]
    | some pair =>
      obtain ⟨other, value⟩ := pair
      simp only [ih, get?_insertNew, Option.or_assoc]
      by_cases hkey : key = other
      · subst hkey
        rw [firstValue?_cons_of_key (says_iff.2 hline), if_pos rfl, Option.some_or]
      · have hnot : ∀ value, ¬ Says line key value := fun value h => by
          rw [says_iff, hline, Option.some.injEq, Prod.mk.injEq] at h
          exact hkey h.1.symm
        rw [firstValue?_cons_of_other hnot, if_neg hkey, Option.none_or]

theorem bmcAddress_eq_ok_iff {report address : String} :
    bmcAddress report = .ok address ↔ SaysFirst (lines report) addressKey address := by
  rw [← firstValue?_eq_some_iff, bmcAddress, addressOf_eq]
  cases firstValue? (lines report) addressKey <;> simp

theorem bmcAddress_eq_error_iff {report : String} {cause : ReportError} :
    bmcAddress report = .error cause ↔
      cause = .noBmcAddress ∧ Lacks (lines report) addressKey := by
  rw [← firstValue?_eq_none_iff, bmcAddress, addressOf_eq]
  cases firstValue? (lines report) addressKey <;> simp [eq_comm]

/-- The keys of an identity, in the order in which they are looked for. -/
def identityKeys : List String := ["Product Name", "Serial Number", "Manufacturer"]

/-- The first of some keys that some lines lack. -/
def LacksFirst (ls keys : List String) (key : String) : Prop :=
  ∃ before after, keys = before ++ key :: after ∧ Lacks ls key ∧
    ∀ other ∈ before, ¬ Lacks ls other

theorem find?_isNone_eq_some_iff {ls keys : List String} {key : String} :
    (keys.find? fun key => (firstValue? ls key).isNone) = some key ↔ LacksFirst ls keys key := by
  simp only [List.find?_eq_some_iff_append, LacksFirst, ← firstValue?_eq_none_iff,
    Option.isNone_iff_eq_none, Bool.not_eq_true', Option.isNone_eq_false_iff,
    Option.ne_none_iff_isSome]
  constructor
  · rintro ⟨hkey, before, after, heq, hbefore⟩
    exact ⟨before, after, heq, hkey, hbefore⟩
  · rintro ⟨before, after, heq, hkey, hbefore⟩
    exact ⟨hkey, before, after, heq, hbefore⟩

theorem get_fieldsOf (ls : List String) (key : String) :
    (Identity.fieldsOf .empty ls).get key =
      match firstValue? ls key with
      | some value => .ok value
      | none => .error (.missingField key) := by
  unfold Fields.get
  cases hvalue : firstValue? ls key <;>
    simp only [get?_fieldsOf, Fields.get?_empty, Option.none_or, hvalue]

theorem ofReport_eq_ok_iff {report : String} {identity : Identity} :
    Identity.ofReport report = .ok identity ↔
      SaysFirst (lines report) "Product Name" identity.product ∧
        SaysFirst (lines report) "Serial Number" identity.serial ∧
        SaysFirst (lines report) "Manufacturer" identity.manufacturer := by
  obtain ⟨product, serial, manufacturer⟩ := identity
  simp only [← firstValue?_eq_some_iff, Identity.ofReport, get_fieldsOf]
  cases firstValue? (lines report) "Product Name" <;>
    cases firstValue? (lines report) "Serial Number" <;>
    cases firstValue? (lines report) "Manufacturer" <;>
    simp [bind, Except.bind, pure, Except.pure]

theorem ofReport_eq_error_iff {report : String} {cause : ReportError} :
    Identity.ofReport report = .error cause ↔
      ∃ key, cause = .missingField key ∧ LacksFirst (lines report) identityKeys key := by
  simp only [← find?_isNone_eq_some_iff, Identity.ofReport, get_fieldsOf, identityKeys,
    List.find?_cons]
  cases firstValue? (lines report) "Product Name" <;>
    cases firstValue? (lines report) "Serial Number" <;>
    cases firstValue? (lines report) "Manufacturer" <;>
    simp [bind, Except.bind, pure, Except.pure, eq_comm]

/-! ## Lines that make no difference -/

/-- A line that tells nothing of some keys behind some lines: it has no colon, another key, or one
that stands before it already. -/
def Idle (keys before : List String) (line : String) : Prop :=
  ∀ key ∈ keys, ∀ value, Says line key value → ¬ Lacks before key

/-- One change of lines that tell nothing. -/
inductive Edit (keys : List String) : List String → List String → Prop where
  | insert (before after : List String) {line : String} (h : Idle keys before line) :
    Edit keys (before ++ after) (before ++ line :: after)
  | permute (before after : List String) {others others' : List String}
    (h : ∀ line ∈ others, Idle keys before line) (hperm : others.Perm others') :
    Edit keys (before ++ others ++ after) (before ++ others' ++ after)

/-- Any number of changes, each made or taken back. -/
def Edited (keys : List String) : List String → List String → Prop := Relation.EqvGen (Edit keys)

section
variable {keys : List String} {key : String} (hkey : key ∈ keys)
include hkey

/-- Lines that tell nothing between others. -/
theorem firstValue?_of_idle {before others : List String}
    (h : ∀ line ∈ others, Idle keys before line) (after : List String) :
    firstValue? (before ++ others ++ after) key = firstValue? (before ++ after) key := by
  cases hbefore : firstValue? before key with
  | some value =>
    rw [List.append_assoc, firstValue?_append_of_some hbefore, firstValue?_append_of_some hbefore]
  | none =>
    have hlacks : Lacks before key := firstValue?_eq_none_iff.1 hbefore
    have hothers : Lacks others key := fun line hline value hsays =>
      h line hline key hkey value hsays hlacks
    rw [List.append_assoc, firstValue?_append_of_lacks hlacks, firstValue?_append_of_lacks hothers,
      firstValue?_append_of_lacks hlacks]

theorem firstValue?_of_edit {ls edited : List String} (h : Edit keys ls edited) :
    firstValue? edited key = firstValue? ls key := by
  cases h with
  | @insert before after line h =>
    have hline := firstValue?_of_idle hkey (List.forall_mem_singleton.2 h) after
    rwa [List.append_assoc, List.singleton_append] at hline
  | permute before after h hperm =>
    have h' : ∀ line ∈ _, Idle keys before line := fun line hline => h line (hperm.mem_iff.2 hline)
    rw [firstValue?_of_idle hkey h', firstValue?_of_idle hkey h]

theorem firstValue?_of_edited {ls edited : List String} (h : Edited keys ls edited) :
    firstValue? edited key = firstValue? ls key := by
  induction h with
  | rel ls edited h => exact firstValue?_of_edit hkey h
  | refl ls => rfl
  | symm ls edited _ ih => exact ih.symm
  | trans ls between edited _ _ ih ih' => exact ih'.trans ih

end

theorem bmcAddress_of_edited {report edited : String}
    (h : Edited [addressKey] (lines report) (lines edited)) :
    bmcAddress edited = bmcAddress report := by
  rw [bmcAddress, bmcAddress, addressOf_eq, addressOf_eq,
    firstValue?_of_edited List.mem_cons_self h]

theorem ofReport_of_edited {report edited : String}
    (h : Edited identityKeys (lines report) (lines edited)) :
    Identity.ofReport edited = Identity.ofReport report := by
  have hkeys : ∀ key ∈ identityKeys, (Identity.fieldsOf .empty (lines edited)).get key =
      (Identity.fieldsOf .empty (lines report)).get key := fun key hkey => by
    rw [get_fieldsOf, get_fieldsOf, firstValue?_of_edited hkey h]
  simp only [identityKeys, List.forall_mem_cons] at hkeys
  obtain ⟨hproduct, hserial, hmanufacturer, -⟩ := hkeys
  simp only [Identity.ofReport, hproduct, hserial, hmanufacturer]

/-- The first line with exactly the key that is looked for gives the fact, and without such a line
there is an error, which names the first key that is not there. Lines that tell nothing of the keys
may be added, left out or put in another order. -/
theorem facts_by_first_key (report : String) :
    (∀ address, bmcAddress report = .ok address ↔
        SaysFirst (lines report) "IP Address" address) ∧
      (∀ cause, bmcAddress report = .error cause ↔
        cause = .noBmcAddress ∧ Lacks (lines report) "IP Address") ∧
      (∀ identity, Identity.ofReport report = .ok identity ↔
        SaysFirst (lines report) "Product Name" identity.product ∧
          SaysFirst (lines report) "Serial Number" identity.serial ∧
          SaysFirst (lines report) "Manufacturer" identity.manufacturer) ∧
      (∀ cause, Identity.ofReport report = .error cause ↔
        ∃ key, cause = .missingField key ∧
          LacksFirst (lines report) ["Product Name", "Serial Number", "Manufacturer"] key) ∧
      ∀ edited, (Edited ["IP Address"] (lines report) (lines edited) →
          bmcAddress edited = bmcAddress report) ∧
        (Edited ["Product Name", "Serial Number", "Manufacturer"] (lines report) (lines edited) →
          Identity.ofReport edited = Identity.ofReport report) :=
  ⟨fun _ => bmcAddress_eq_ok_iff, fun _ => bmcAddress_eq_error_iff, fun _ => ofReport_eq_ok_iff,
    fun _ => ofReport_eq_error_iff,
    fun _ => ⟨bmcAddress_of_edited, ofReport_of_edited⟩⟩

example :
    bmcAddress "IP Address Source : Static\nIP Address : fe80::1\nIP Address : ::1\n" =
      .ok "fe80::1" := by decide +kernel

end RaidProvision.Machine

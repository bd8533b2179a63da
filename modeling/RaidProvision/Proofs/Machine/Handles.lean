import Mathlib.Data.List.SplitBy
import RaidProvision.Proofs.Machine.FirstKey

/-!
# One machine or several handles

A report on the machine is made of blocks, and the line with its handle opens each of them. The
reader does not look at the handles. Each key counts in the first block that has it, so the facts
are those of one block exactly if the first block with any of the keys has all of them.

* `saysFirst_flatten`: a key that stands first in some blocks stands first in one of them.
* `ofReport_fromOneBlock_iff`: when an identity is read out of one block.
* `ofReport_of_two_handles`: an identity that no block of its report has.
-/
namespace RaidProvision.Machine

open RaidProvision.Text RaidProvision.Report

/-! ## Blocks -/

/-- A line that opens a block. -/
def Opens (line : String) : Prop := "Handle ".toList <+: line.toList

instance : DecidablePred Opens := fun _ => inferInstanceAs (Decidable (_ <+: _))

/-- The blocks that some lines are made of. What stands in front of the first handle is one, too. -/
def blocks (ls : List String) : List (List String) := ls.splitBy fun _ line => !decide (Opens line)

theorem flatten_blocks (ls : List String) : (blocks ls).flatten = ls := List.flatten_splitBy _ ls

example : blocks ["# dmidecode 3.2", "Handle 1", "UUID: u", "Handle 2", "Handle 3", "Family: f"] =
    [["# dmidecode 3.2"], ["Handle 1", "UUID: u"], ["Handle 2"], ["Handle 3", "Family: f"]] := by
  decide +kernel

/-- The first of some blocks that has a key says that it has a value. -/
def FirstBlockSays (bs : List (List String)) (key value : String) : Prop :=
  ∃ before block after, bs = before ++ block :: after ∧ (∀ other ∈ before, Lacks other key) ∧
    SaysFirst block key value

section
variable {key : String} {bs : List (List String)}

theorem firstValue?_flatten (bs : List (List String)) (key : String) :
    firstValue? bs.flatten key = bs.findSome? fun block => firstValue? block key := by
  induction bs with
  | nil => rfl
  | cons block rest ih =>
    rw [List.flatten_cons, List.findSome?_cons]
    cases hblock : firstValue? block key with
    | some value => exact firstValue?_append_of_some hblock _
    | none => exact (firstValue?_append_of_lacks (firstValue?_eq_none_iff.1 hblock) _).trans ih

theorem saysFirst_flatten {value : String} :
    SaysFirst bs.flatten key value ↔ FirstBlockSays bs key value := by
  rw [← firstValue?_eq_some_iff, firstValue?_flatten, List.findSome?_eq_some_iff]
  simp only [FirstBlockSays, firstValue?_eq_some_iff, firstValue?_eq_none_iff]
  constructor
  · rintro ⟨before, block, after, heq, hblock, hbefore⟩
    exact ⟨before, block, after, heq, hbefore, hblock⟩
  · rintro ⟨before, block, after, heq, hbefore, hblock⟩
    exact ⟨before, block, after, heq, hblock, hbefore⟩

theorem lacks_flatten : Lacks bs.flatten key ↔ ∀ block ∈ bs, Lacks block key := by
  simp only [Lacks, List.mem_flatten]
  constructor
  · intro h block hblock line hline
    exact h line ⟨block, hblock, hline⟩
  · rintro h line ⟨block, hblock, hline⟩
    exact h block hblock line hline

/-- Of blocks in front of which a key does not stand, the one that has it decides. -/
theorem saysFirst_flatten_of_lacks {before after : List (List String)} {block : List String}
    {value : String} (hbefore : ∀ other ∈ before, Lacks other key) (hblock : ¬ Lacks block key) :
    SaysFirst (before ++ block :: after).flatten key value ↔ SaysFirst block key value := by
  obtain ⟨found, hfound⟩ := Option.ne_none_iff_exists'.1 (mt firstValue?_eq_none_iff.1 hblock)
  rw [← firstValue?_eq_some_iff, ← firstValue?_eq_some_iff, List.flatten_append,
    List.flatten_cons, firstValue?_append_of_lacks (lacks_flatten.2 hbefore),
    firstValue?_append_of_some hfound, hfound]

theorem exists_saysFirst {ls : List String} (h : ¬ Lacks ls key) :
    ∃ value, SaysFirst ls key value := by
  simp only [← firstValue?_eq_some_iff]
  exact Option.ne_none_iff_exists'.1 (mt firstValue?_eq_none_iff.1 h)

theorem SaysFirst.not_lacks {ls : List String} {value : String} (h : SaysFirst ls key value) :
    ¬ Lacks ls key := by
  obtain ⟨before, line, after, rfl, -, hsays⟩ := h
  exact fun hlacks => hlacks line (by simp) value hsays

end

/-! ## The facts of an identity -/

/-- The keys of an identity with their values. -/
def factsOf (identity : Identity) : List (String × String) :=
  [("Product Name", identity.product), ("Serial Number", identity.serial),
    ("Manufacturer", identity.manufacturer)]

/-- Of some blocks one gives all facts of an identity. -/
def FromOneBlock (bs : List (List String)) (identity : Identity) : Prop :=
  ∃ before block after, bs = before ++ block :: after ∧ ∀ fact ∈ factsOf identity,
    (∀ other ∈ before, Lacks other fact.1) ∧ SaysFirst block fact.1 fact.2

/-- No key of an identity stands in a block. -/
def Bare (block : List String) : Prop := ∀ key ∈ identityKeys, Lacks block key

/-- All keys of an identity stand in some blocks, and the first of these that has any of them does
not have them all. -/
def Scattered (bs : List (List String)) : Prop :=
  (∀ key ∈ identityKeys, ∃ block ∈ bs, ¬ Lacks block key) ∧
    ∃ before block after, bs = before ++ block :: after ∧ (∀ other ∈ before, Bare other) ∧
      ¬ Bare block ∧ ∃ key ∈ identityKeys, Lacks block key

/-! ## What is read out of several blocks -/

theorem ofReport_eq_ok_iff_facts {report : String} {identity : Identity} :
    Identity.ofReport report = .ok identity ↔
      ∀ fact ∈ factsOf identity, SaysFirst (lines report) fact.1 fact.2 := by
  simp [ofReport_eq_ok_iff, factsOf]

theorem exists_fact_of_key (identity : Identity) {key : String} (h : key ∈ identityKeys) :
    ∃ fact ∈ factsOf identity, fact.1 = key := by
  have hkeys : (factsOf identity).map Prod.fst = identityKeys := rfl
  rwa [← hkeys, List.mem_map] at h

theorem key_mem_of_fact {identity : Identity} {fact : String × String}
    (h : fact ∈ factsOf identity) : fact.1 ∈ identityKeys :=
  List.mem_map_of_mem (f := Prod.fst) h

/-- If any key stands in some blocks, one of these is the first that has any. -/
theorem exists_first_not_bare {bs : List (List String)} (h : ∃ block ∈ bs, ¬ Bare block) :
    ∃ before block after, bs = before ++ block :: after ∧ (∀ other ∈ before, Bare other) ∧
      ¬ Bare block := by
  induction bs with
  | nil => simp at h
  | cons first rest ih =>
    by_cases hfirst : Bare first
    · have hrest : ∃ block ∈ rest, ¬ Bare block := by simpa [hfirst] using h
      obtain ⟨before, block, after, rfl, hbefore, hblock⟩ := ih hrest
      exact ⟨first :: before, block, after, rfl, List.forall_mem_cons.2 ⟨hfirst, hbefore⟩, hblock⟩
    · exact ⟨[], first, rest, rfl, by simp, hfirst⟩

theorem first_not_bare_unique {before before' after after' : List (List String)}
    {block block' : List String} (heq : before ++ block :: after = before' ++ block' :: after')
    (hbefore : ∀ other ∈ before, Bare other) (hbefore' : ∀ other ∈ before', Bare other)
    (hblock : ¬ Bare block) (hblock' : ¬ Bare block') : block = block' := by
  rcases List.append_eq_append_iff.1 heq with ⟨others, rfl, hrest⟩ | ⟨others, rfl, hrest⟩ <;>
    rcases others with _ | ⟨other, others⟩
  · exact (List.cons.inj hrest).1
  · obtain ⟨rfl, -⟩ := List.cons.inj hrest
    exact absurd (hbefore' block (by simp)) hblock
  · exact (List.cons.inj hrest).1.symm
  · obtain ⟨rfl, -⟩ := List.cons.inj hrest
    exact absurd (hbefore block' (by simp)) hblock'

variable {report : String}

theorem fromOneBlock_of_not_scattered (h : ¬ Scattered (blocks (lines report)))
    {identity : Identity} (hread : Identity.ofReport report = .ok identity) :
    FromOneBlock (blocks (lines report)) identity := by
  rw [ofReport_eq_ok_iff_facts, ← flatten_blocks (lines report)] at hread
  have hall : ∀ key ∈ identityKeys, ∃ block ∈ blocks (lines report), ¬ Lacks block key := by
    intro key hkey
    obtain ⟨fact, hfact, rfl⟩ := exists_fact_of_key identity hkey
    simpa [lacks_flatten] using (hread fact hfact).not_lacks
  obtain ⟨before, block, after, heq, hbefore, hblock⟩ := exists_first_not_bare <| by
    obtain ⟨block, hmem, hblock⟩ := hall "Product Name" List.mem_cons_self
    exact ⟨block, hmem, fun hbare => hblock (hbare _ List.mem_cons_self)⟩
  refine ⟨before, block, after, heq, fun fact hfact => ?_⟩
  have hkey := key_mem_of_fact hfact
  have hlacks : ∀ other ∈ before, Lacks other fact.1 := fun other hmem => hbefore other hmem _ hkey
  -- The block that has any of the keys has this one too, or else the keys are scattered.
  have hhas : ¬ Lacks block fact.1 := fun hnot =>
    h ⟨hall, before, block, after, heq, hbefore, hblock, fact.1, hkey, hnot⟩
  have hsays := hread fact hfact
  rw [heq] at hsays
  exact ⟨hlacks, (saysFirst_flatten_of_lacks hlacks hhas).1 hsays⟩

theorem exists_identity_of_scattered (h : Scattered (blocks (lines report))) :
    ∃ identity, Identity.ofReport report = .ok identity ∧
      ¬ FromOneBlock (blocks (lines report)) identity := by
  obtain ⟨hall, before, block, after, heq, hbefore, hblock, key, hkey, hlacks⟩ := h
  have hsays : ∀ key ∈ identityKeys, ∃ value, SaysFirst (lines report) key value := by
    intro key hkey
    obtain ⟨block, hmem, hhas⟩ := hall key hkey
    refine exists_saysFirst fun hnot => hhas ?_
    rw [← flatten_blocks (lines report), lacks_flatten] at hnot
    exact hnot block hmem
  simp only [identityKeys, List.forall_mem_cons] at hsays
  obtain ⟨⟨product, hproduct⟩, ⟨serial, hserial⟩, ⟨manufacturer, hmanufacturer⟩, -⟩ := hsays
  refine ⟨⟨product, serial, manufacturer⟩,
    ofReport_eq_ok_iff.2 ⟨hproduct, hserial, hmanufacturer⟩, ?_⟩
  rintro ⟨before', whole, after', heq', hfacts⟩
  -- The block that gives all facts is the first that has any key, and that one lacks a key.
  have hwhole : ¬ Bare whole := fun hbare =>
    (hfacts _ List.mem_cons_self).2.not_lacks (hbare _ List.mem_cons_self)
  have hbefore' : ∀ other ∈ before', Bare other := by
    intro other hmem key hkey
    obtain ⟨fact, hfact, rfl⟩ := exists_fact_of_key ⟨product, serial, manufacturer⟩ hkey
    exact (hfacts fact hfact).1 other hmem
  obtain rfl := first_not_bare_unique (heq.symm.trans heq') hbefore hbefore' hblock hwhole
  obtain ⟨fact, hfact, rfl⟩ := exists_fact_of_key ⟨product, serial, manufacturer⟩ hkey
  exact (hfacts fact hfact).2.not_lacks hlacks

/-- An identity is made of the first value of each key, from the first block that has the key. All
three come from one block unless the first block with any of the keys lacks one that a later block
has. -/
theorem ofReport_fromOneBlock_iff (report : String) :
    (∀ identity, Identity.ofReport report = .ok identity ↔
      ∀ fact ∈ factsOf identity, FirstBlockSays (blocks (lines report)) fact.1 fact.2) ∧
    ((∀ identity, Identity.ofReport report = .ok identity →
      FromOneBlock (blocks (lines report)) identity) ↔ ¬ Scattered (blocks (lines report))) := by
  refine ⟨fun identity => ?_, fun hall hscattered => ?_, fun h _ => fromOneBlock_of_not_scattered h⟩
  · simp only [ofReport_eq_ok_iff_facts, ← saysFirst_flatten, flatten_blocks]
  · obtain ⟨identity, hread, hnot⟩ := exists_identity_of_scattered hscattered
    exact hnot (hall identity hread)

/-- A machine whose first handle has no serial number. -/
def twoHandles : String :=
  "Handle 0x0001, DMI type 1, 27 bytes\nSystem Information\n\tManufacturer: m\n" ++
    "\tProduct Name: p\n\nHandle 0x0002, DMI type 1, 27 bytes\nSystem Information\n" ++
    "\tSerial Number: s\n"

/-- The facts that are read stand in no one block. -/
theorem ofReport_of_two_handles :
    ¬ ∀ report identity, Identity.ofReport report = .ok identity →
      ∃ block ∈ blocks (lines report), ∀ fact ∈ factsOf identity, ∃ line ∈ block,
        Says line fact.1 fact.2 := by
  intro h
  have hblock := h twoHandles ⟨"p", "s", "m"⟩ (by decide +kernel)
  simp only [says_iff] at hblock
  exact absurd hblock (by decide +kernel)

end RaidProvision.Machine

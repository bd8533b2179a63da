import RaidProvision.Proofs.Layout.ReadBack
import RaidProvision.Proofs.Manager.Creation

/-!
# Reading a realized layout back

The sizes of a layout are checked when it is read. Those that come into it when its drives are built
are what the tools answered, which is not checked: a size beyond `SizeRequest.maxGb` is written and
then refused by the next reader. Everything else of a realized layout is as it was read.

* `Size.wholeGb_le_maxGb_iff`: which sizes that a tool prints are in range.
* `Builder.Filled.sound_iff`: what becomes of the entries, by induction on them.
* `create_readBack_iff`: a realized layout is read back iff every size answered is in range.
* `create_not_readBack`: a drive whose size is one gigabyte too large.
-/
namespace RaidProvision

open RaidProvision.Json

/-! ## Sizes in range -/

/-- The integer part is greater than a limit. -/
def Binary64.Exceeds (limit : Nat) : Binary64 → Prop
  | .nan => False
  | .infinity negative => negative = false
  | .finite negative m e => negative = false ∧ limit < floorMagnitude m e

theorem Binary64.lt_toUInt64_iff {limit : Nat} (h : limit < UInt64.size - 1) (x : Binary64) :
    limit < x.toUInt64.toNat ↔ x.Exceeds limit := by
  cases x with
  | nan => simp [toUInt64, Exceeds]
  | infinity negative =>
    cases negative with
    | true => simp [toUInt64, Exceeds]
    | false =>
      simp only [toUInt64, Exceeds, Bool.false_eq_true, if_false, iff_true]
      rwa [UInt64.toNat_ofNat_of_lt' (by decide)]
  | finite negative m e =>
    cases negative with
    | true => simp [toUInt64, Exceeds]
    | false =>
      have hmin : min (floorMagnitude m e) (UInt64.size - 1) < UInt64.size :=
        Nat.lt_of_le_of_lt (Nat.min_le_right _ _) (by decide)
      simp only [toUInt64, Exceeds, Bool.false_eq_true, if_false, true_and]
      rw [UInt64.toNat_ofNat_of_lt' hmin, Nat.lt_min]
      exact and_iff_left h

/-- A size beyond the greatest number of gigabytes that is read. -/
def Size.TooLarge (size : Size) : Prop := size.inGb.Exceeds SizeRequest.maxGb

theorem Size.wholeGb_le_maxGb_iff (size : Size) :
    size.wholeGb.toNat ≤ SizeRequest.maxGb ↔ ¬ size.TooLarge := by
  rw [TooLarge, ← Binary64.lt_toUInt64_iff (by decide), Nat.not_lt]
  rfl

/-! ## Layouts that were read -/

/-- A layout that some text holds, on its own or as part of the record of a machine. -/
def Layout.Accepted (layout : Layout) : Prop :=
  (∃ s, Layout.ofText s = .ok layout) ∨
    ∃ s node, Node.ofText s = .ok node ∧ node.layout = some layout

theorem Json.Members.Unknown.succ {known : List String} {depth : Nat} {members : Members}
    (h : members.Unknown known depth) : members.Unknown known (depth + 1) where
  sorted := h.sorted
  name := h.name
  normal m hm := (h.normal m hm).succ

theorem Layout.Sound.succ {depth : Nat} {layout : Layout} (h : layout.Sound depth) :
    layout.Sound (depth + 1) where
  disks disk hdisk := ⟨(h.disks disk hdisk).size, (h.disks disk hdisk).extra.succ⟩
  extra := h.extra.succ

theorem Layout.Accepted.sound {layout : Layout} (h : layout.Accepted) :
    layout.Sound (maxDepth - 3) := by
  rcases h with ⟨s, hs⟩ | ⟨s, node, hs, hnode⟩
  · exact Layout.sound_of_ofText hs
  · exact ((Node.sound_of_ofText hs).layout layout hnode).succ

/-! ## Layouts that were built -/

namespace Builder.Filled

variable {ε : Type} {disks out : List LogicalDisk} {calls : List (BuildCall ε)}

theorem otherNumbers_eq (h : Filled disks calls out) :
    out.flatMap LogicalDisk.otherNumbers = disks.flatMap LogicalDisk.otherNumbers := by
  induction h with
  | nil => rfl
  | skip _ _ ih => rw [List.flatMap_cons, List.flatMap_cons, ih]
  | built _ _ _ ih =>
    rw [List.flatMap_cons, List.flatMap_cons, ih]
    rfl

/-- Entries that were sound are sound with their sizes iff each call returned a size in range. -/
theorem sound_iff {depth : Nat} (h : Filled disks calls out)
    (hdisks : ∀ disk ∈ disks, disk.Sound depth) :
    (∀ disk ∈ out, disk.Sound depth) ↔
      ∀ call ∈ calls, ∀ gb, call.result = .ok gb → gb.toNat ≤ SizeRequest.maxGb := by
  induction h with
  | nil => exact iff_of_true (List.forall_mem_nil _) (List.forall_mem_nil _)
  | skip _ _ ih =>
    rw [List.forall_mem_cons] at hdisks ⊢
    rw [← ih hdisks.2]
    exact and_iff_right hdisks.1
  | @built disk _ _ _ b gb _ _ ih =>
    rw [List.forall_mem_cons] at hdisks
    rw [List.forall_mem_cons, List.forall_mem_cons, ← ih hdisks.2]
    refine and_congr_left' ⟨fun hsound => ?_, fun hgb => ⟨?_, hdisks.1.extra⟩⟩
    · rintro _ ⟨⟩
      exact hsound.size _ rfl _ rfl
    · rintro _ ⟨⟩ _ ⟨⟩
      exact hgb gb rfl

end Builder.Filled

/-! ## What the tools answer -/

/-- The answer to the second command of a step reads as a size. -/
def BuildStep.Answers (family : Family) (step : BuildStep) (size : Size) : Prop :=
  ∃ creation query, step.exchanges = [creation, query] ∧ query.Gives family.driveSize size

theorem BuildStep.Answers.unique {family : Family} {step : BuildStep} {size other : Size}
    (h : step.Answers family size) (ho : step.Answers family other) : size = other := by
  obtain ⟨creation, query, hes, text, hread, hsize⟩ := h
  obtain ⟨creation', query', hes', text', hread', hsize'⟩ := ho
  obtain ⟨rfl, rfl⟩ : creation = creation' ∧ query = query' := by simpa [hes] using hes'
  rw [hread] at hread'
  cases hread'
  rw [hsize] at hsize'
  exact Except.ok.inj hsize'

namespace Manager

variable {manager : Manager}

/-- A step that succeeds returns the size that was answered in whole gigabytes. -/
theorem Makes.answers {step : BuildStep} {gb : UInt64} (h : manager.Makes step)
    (hok : step.call.result = .ok gb) :
    ∃ size, step.Answers manager.family size ∧ gb = size.wholeGb := by
  obtain ⟨⟨b, result⟩, es⟩ := step
  obtain rfl : result = .ok gb := hok
  cases h with
  | built creation query hfits hc hr hid hq hs he =>
    exact ⟨_, ⟨creation, query, rfl, _, hs, he⟩, rfl⟩

/-- The sizes that some steps returned are in range iff those that were answered to them are. -/
theorem results_inRange_iff {steps : List BuildStep} (hmakes : ∀ step ∈ steps, manager.Makes step)
    (hok : ∀ step ∈ steps, ∃ gb, step.call.result = .ok gb) :
    (∀ call ∈ steps.map BuildStep.call, ∀ gb, call.result = .ok gb →
      gb.toNat ≤ SizeRequest.maxGb) ↔
      ∀ step ∈ steps, ∀ size, step.Answers manager.family size → ¬ size.TooLarge := by
  rw [List.forall_mem_map]
  refine forall₂_congr fun step hstep => ?_
  obtain ⟨gb, hgb⟩ := hok step hstep
  obtain ⟨size, hsize, rfl⟩ := (hmakes step hstep).answers hgb
  rw [hgb]
  constructor
  · intro hle other hother
    obtain rfl := hsize.unique hother
    exact size.wholeGb_le_maxGb_iff.1 (hle _ rfl)
  · rintro hrange _ ⟨⟩
    exact size.wholeGb_le_maxGb_iff.2 (hrange size hsize)

/-- The layout of a machine that was built is read back, and is the same, iff every size that a tool
answered on the way is in range. -/
theorem create_readBack_iff (manager : Manager) {node : Node} {layout : Layout}
    (haccepted : layout.Accepted) (hexact : ∀ n ∈ layout.otherNumbers, n.Exact)
    (hnode : node.layout = some layout) (host : Host) {realized : Layout}
    (hrun : ((manager.create node).run host).value = .ok realized) :
    ∃ steps, manager.Creates node steps ((manager.create node).exchanges host) (.ok realized) ∧
      (ReadBack Layout.ofText Layout.toValue realized ↔
        ∀ step ∈ steps, ∀ size, step.Answers manager.family size → ¬ size.TooLarge) := by
  obtain ⟨steps, hx, hmakes, hcomes⟩ := manager.realizeEach_steps node.target.disks host
  have htarget : node.target = layout := by rw [Node.target, hnode]; rfl
  refine ⟨steps, ?_, ?_⟩
  · rw [← hrun, create, Layout.realize, Procedure.exchanges_bind_pure, Procedure.value_bind_pure]
    exact .of_resultOfCalls hx hmakes hcomes
  rw [create, Layout.realize, Procedure.value_bind_pure] at hrun
  generalize (Procedure.run (Layout.realizeEach manager.build node.target.disks) host).value =
    result at hcomes hrun
  cases result with
  | error cause => cases hrun
  | ok out =>
    cases hrun
    rw [htarget] at hcomes ⊢
    have hfilled : Builder.Filled layout.disks (steps.map BuildStep.call) out := hcomes
    have hsound := haccepted.sound
    rw [← results_inRange_iff hmakes fun step hstep =>
      hfilled.succeeded _ (List.mem_map_of_mem hstep), ← hfilled.sound_iff hsound.disks]
    constructor
    · intro hback
      exact (Layout.sound_of_ofText (hback Value.write (by simp)).1).disks
    · intro hdisks
      refine Layout.readBack_of_sound ⟨hdisks, hsound.extra⟩ ?_
      rw [Layout.otherNumbers, hfilled.otherNumbers_eq]
      exact hexact

/-! ## A drive that is too large -/

/-- A manager of MegaCLI at the standard path. -/
def megacliManager : Manager := ⟨.megacli, .standard⟩

/-- Two drives that become one. -/
def mirror : Layout := ⟨[⟨none, some "1", some ["8:0", "8:1"], some "0", []⟩], []⟩

theorem exact_mirror : ∀ n ∈ mirror.otherNumbers, n.Exact := List.forall_mem_nil _

theorem accepted_mirror : mirror.Accepted := by
  have hsound : mirror.Sound (maxDepth - 3) :=
    ⟨List.forall_mem_singleton.2 ⟨by simp, Layout.unknown_nil⟩, Layout.unknown_nil⟩
  exact .inl ⟨_, (Layout.readBack_of_sound hsound exact_mirror Value.write (by simp)).1⟩

/-- Creates the drive and answers its size. -/
def mirrorHost (size : String) : Host :=
  .ofReplies [.printed "\nAdapter 0: Created VD 0\n", .printed ("Size : " ++ size ++ "\n")]

/-- The run of a machine that is to have the drive. -/
def mirrorRun (size : String) : Except ToolError Layout :=
  ((megacliManager.create ⟨none, some mirror, []⟩).run (mirrorHost size)).value

/-- A usual size. -/
theorem create_readBack_iff_mirror :
    ∃ realized, mirrorRun "557.861 GB" = .ok realized ∧
      ∃ steps, megacliManager.Creates ⟨none, some mirror, []⟩ steps
        ((megacliManager.create ⟨none, some mirror, []⟩).exchanges (mirrorHost "557.861 GB"))
        (.ok realized) ∧
        (ReadBack Layout.ofText Layout.toValue realized ↔
          ∀ step ∈ steps, ∀ size, step.Answers .megacli size → ¬ size.TooLarge) := by
  have hsizes : (mirrorRun "557.861 GB").toOption.map
      (fun layout => layout.disks.map LogicalDisk.size) = some [some (.gb 557)] := by
    decide +kernel
  obtain ⟨realized, hrun, -⟩ := Procedure.exists_of_map_toOption hsizes
  exact ⟨realized, hrun,
    create_readBack_iff megacliManager accepted_mirror exact_mirror rfl _ hrun⟩

/-- A realized layout need not be read back: here a drive of one gigabyte more than what is read
was built. -/
theorem create_not_readBack :
    ¬ ∀ (manager : Manager) (node : Node) (layout : Layout) (host : Host) (realized : Layout),
      layout.Accepted → (∀ n ∈ layout.otherNumbers, n.Exact) → node.layout = some layout →
        ((manager.create node).run host).value = .ok realized →
        ReadBack Layout.ofText Layout.toValue realized := by
  intro h
  have hsizes : (mirrorRun "17179869184 PB").toOption.map
      (fun layout => layout.disks.map LogicalDisk.size) =
        some [some (.gb (.ofNat (SizeRequest.maxGb + 1)))] := by
    decide +kernel
  obtain ⟨realized, hrun, hdisks⟩ := Procedure.exists_of_map_toOption hsizes
  have hback := h megacliManager _ mirror _ realized accepted_mirror exact_mirror rfl hrun
  obtain ⟨disk, hdisk, hsize⟩ := List.mem_map.1
    (hdisks ▸ List.mem_singleton_self _ : _ ∈ realized.disks.map LogicalDisk.size)
  have hrange := ((Layout.sound_of_ofText (hback Value.write (by simp)).1).disks disk hdisk).size
    _ hsize _ rfl
  exact absurd hrange (by decide)

end Manager
end RaidProvision

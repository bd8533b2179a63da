import RaidProvision.Proofs.Layout.ReadBack
import RaidProvision.Proofs.Manager.Creation

/-!
# Sizes that are told to arcconf

A number of gigabytes is checked twice: when a record is read, against the largest number that can
be told, and when a command is written, where its megabytes have to fit a word of 64 bits. Both
limits are the same, so a size that was read is never refused later.

* `fits_of_inRange`: the two limits.
* `Builds.begins_with_creation`, `Builds.ne_outOfRange`: one drive of a size in range.
* `create_inRange`: a layout whose sizes are in range.
-/
namespace RaidProvision

open RaidProvision.Text RaidProvision.Report

/-- A size that is in range can be told. -/
theorem Family.fits_of_inRange {size : SizeRequest} (h : size.InRange) (family : Family) :
    family.Fits size := by
  cases family with
  | megacli => cases size <;> exact trivial
  | arcconf =>
    cases size with
    | max => exact trivial
    | gb n =>
      have hle := h n rfl
      change 1024 * n.toNat < UInt64.size
      simp only [SizeRequest.maxGb, UInt64.size] at hle ⊢
      omega

/-- The size of what an entry asks for is that of the entry. -/
theorem LogicalDisk.size_of_order? {disk : LogicalDisk} {b : Blueprint}
    (h : disk.order? = some b) : b.size = disk.size.getD .max := by
  obtain ⟨size, level, members, controller, extra⟩ := disk
  cases level <;> cases members <;> cases controller <;> simp [order?] at h
  rw [← h]

/-- All sizes of a record that was read are in range. -/
theorem Node.inRange_of_ofText {s : String} {node : Node} (h : Node.ofText s = .ok node) :
    ∀ disk ∈ node.target.disks, ∀ size, disk.size = some size → size.InRange := by
  intro disk hdisk size hsize
  rw [Node.target] at hdisk
  cases hl : node.layout with
  | none =>
    rw [hl] at hdisk
    exact absurd hdisk List.not_mem_nil
  | some layout =>
    rw [hl] at hdisk
    exact (((Node.sound_of_ofText h).layout layout hl).disks disk hdisk).size size hsize

/-! ## What reports are refused for

No report is refused because of a size that was asked for. -/

namespace Report

theorem bind_ne_error {ε α β : Type} {x : Except ε α} {f : α → Except ε β} {cause : ε}
    (hx : x ≠ .error cause) (hf : ∀ a, f a ≠ .error cause) : (x >>= f) ≠ .error cause := by
  cases x with
  | error other => exact fun h => hx (congrArg Except.error (Except.error.inj h))
  | ok a => exact hf a

variable (n : UInt64)

theorem lineAt_ne_outOfRange (index : Nat) (what report : String) :
    lineAt index what report ≠ .error (.sizeOutOfRange n) := by
  unfold lineAt
  split <;> simp

theorem lastWord_ne_outOfRange (what line : String) :
    lastWord what line ≠ .error (.sizeOutOfRange n) := by
  unfold lastWord
  split <;> simp

theorem valueAfterColon_ne_outOfRange (line : String) :
    valueAfterColon line ≠ .error (.sizeOutOfRange n) := by
  unfold valueAfterColon
  split <;> simp

theorem size_ne_outOfRange (s : String) : Size.ofText s ≠ .error (.sizeOutOfRange n) := by
  unfold Size.ofText
  split
  case h_1 => simp
  case h_2 =>
    split
    case h_1 => simp
    case h_2 =>
      split
      case h_1 => simp
      case h_2 unit _ _ =>
        cases hu : SizeUnit.ofText? unit <;> simp [SizeUnit.ofText, hu, Except.map]

end Report

namespace Arcconf

theorem createdDrive_ne_outOfRange (report : String) (n : UInt64) :
    createdDrive report ≠ .error (.sizeOutOfRange n) := by
  refine bind_ne_error (lineAt_ne_outOfRange n _ _ _) fun line => ?_
  refine bind_ne_error (lastWord_ne_outOfRange n _ _) fun id => ?_
  cases readUInt32 id <;> simp [throw, throwThe, MonadExceptOf.throw, pure, Except.pure]

theorem driveSize_ne_outOfRange (report : String) (n : UInt64) :
    driveSize report ≠ .error (.sizeOutOfRange n) := by
  refine bind_ne_error (lineAt_ne_outOfRange n _ _ _) fun line => ?_
  exact bind_ne_error (valueAfterColon_ne_outOfRange n _) fun value => size_ne_outOfRange n value

end Arcconf

namespace Manager

variable {tools : ToolPaths} {b : Blueprint} {es : List Exchange} {result : Except ToolError UInt64}

/-- The drive is created by the first command. -/
theorem Builds.begins_with_creation (h : (Manager.mk .arcconf tools).Builds b es result)
    (hfits : Family.arcconf.Fits b.size) :
    ∃ creation others, es = creation :: others ∧
      creation.command = (Manager.mk .arcconf tools).createCommand b := by
  cases h with
  | outOfRange hf hb hn =>
    rw [hb] at hfits
    exact absurd hfits (Nat.not_lt.2 hn)
  | refused creation _ hc => exact ⟨creation, _, rfl, hc⟩
  | unnamed creation _ hc => exact ⟨creation, _, rfl, hc⟩
  | unanswered creation query _ hc => exact ⟨creation, _, rfl, hc⟩
  | unsized creation query _ hc => exact ⟨creation, _, rfl, hc⟩
  | built creation query _ hc => exact ⟨creation, _, rfl, hc⟩

theorem Builds.ne_outOfRange (h : (Manager.mk .arcconf tools).Builds b es result)
    (hfits : Family.arcconf.Fits b.size) (n : UInt64) :
    result ≠ .error (.report (.sizeOutOfRange n)) := by
  rintro rfl
  cases h with
  | outOfRange hf hb hn =>
    rw [hb] at hfits
    exact absurd hfits (Nat.not_lt.2 hn)
  | unnamed creation _ hc hr hid he => exact Arcconf.createdDrive_ne_outOfRange _ n he
  | unsized creation query _ hc hr hid hq hs he => exact Arcconf.driveSize_ne_outOfRange _ n he

/-- A drive that is to have a number of gigabytes is created with its megabytes, which are exact. -/
def TellsExactly (tools : ToolPaths) (step : BuildStep) : Prop :=
  ∀ n, step.call.blueprint.size = .gb n →
    1024 * n.toNat < UInt64.size ∧ ∃ creation others, step.exchanges = creation :: others ∧
      creation.command = .line (tools.arcconf ++ " " ++
        (let ⟨controller, _, level, members⟩ := step.call.blueprint
        let megabytes := Nat.repr (1024 * n.toNat)
        let disks := " ".intercalate members
        s!"create {controller} LOGICALDRIVE {megabytes} {level} {disks} noprompt"))

theorem tellsExactly_of_makes {step : BuildStep} (h : (Manager.mk .arcconf tools).Makes step)
    (hfits : Family.arcconf.Fits step.call.blueprint.size) : TellsExactly tools step := by
  intro n hn
  obtain ⟨creation, others, hes, hc⟩ := Builds.begins_with_creation h hfits
  rw [hn] at hfits
  refine ⟨hfits, creation, others, hes, hc.trans ?_⟩
  generalize step.call.blueprint = b at hn
  obtain ⟨controller, size, level, members⟩ := b
  obtain rfl : size = .gb n := hn
  rfl

/-- The steps are for entries of the layout. -/
theorem Creates.mem_orders {manager : Manager} {node : Node} {steps : List BuildStep}
    {es : List Exchange} {result : Except ToolError Layout}
    (h : manager.Creates node steps es result) :
    ∀ step ∈ steps, step.call.blueprint ∈ node.target.orders := by
  have hprefix : ∃ rest, node.target.orders =
      (steps.map BuildStep.call).map BuildCall.blueprint ++ rest := by
    cases result with
    | ok layout => exact ⟨[], by rw [(h.realized layout rfl).called, List.append_nil]⟩
    | error cause =>
      obtain ⟨-, -, rest, -, -, horders⟩ := h.broken cause rfl
      exact ⟨rest, horders⟩
  obtain ⟨rest, horders⟩ := hprefix
  intro step hstep
  rw [horders]
  exact List.mem_append_left _ (List.mem_map_of_mem (List.mem_map_of_mem hstep))

/-- If the sizes of a layout are in range, each drive is created with its exact size, and no size
turns out to be out of range. -/
theorem create_inRange (tools : ToolPaths) {node : Node}
    (h : ∀ disk ∈ node.target.disks, ∀ size, disk.size = some size → size.InRange) (host : Host) :
    ∃ steps, (Manager.mk .arcconf tools).Creates node steps
        ((Manager.create ⟨.arcconf, tools⟩ node).exchanges host)
        ((Manager.create ⟨.arcconf, tools⟩ node).run host).value ∧
      (∀ step ∈ steps, TellsExactly tools step) ∧
      ∀ n, ((Manager.create ⟨.arcconf, tools⟩ node).run host).value ≠
        .error (.report (.sizeOutOfRange n)) := by
  obtain ⟨steps, hx, hmakes, hcomes⟩ :=
    Manager.realizeEach_steps ⟨.arcconf, tools⟩ node.target.disks host
  rw [create, Layout.realize, Procedure.exchanges_bind_pure, Procedure.value_bind_pure]
  have hcreates := Creates.of_resultOfCalls hx hmakes hcomes
  have hfits : ∀ step ∈ steps, Family.arcconf.Fits step.call.blueprint.size := by
    intro step hstep
    obtain ⟨disk, hdisk, horder⟩ := List.mem_filterMap.1 (hcreates.mem_orders step hstep)
    refine Family.fits_of_inRange ?_ .arcconf
    rw [LogicalDisk.size_of_order? horder]
    cases hsize : disk.size with
    | none => rintro n ⟨⟩
    | some size => exact h disk hdisk size hsize
  refine ⟨steps, hcreates, fun step hstep => ?_, fun n hn => ?_⟩
  · exact tellsExactly_of_makes (hmakes step hstep) (hfits step hstep)
  · obtain ⟨done, b, rest, hcalls, -, -⟩ := hcreates.broken _ hn
    have hlast : (⟨b, .error (.report (.sizeOutOfRange n))⟩ : BuildCall ToolError) ∈
        steps.map BuildStep.call := by
      rw [hcalls]
      exact List.mem_append_right _ (List.mem_singleton_self _)
    obtain ⟨step, hstep, hcall⟩ := List.mem_map.1 hlast
    exact Builds.ne_outOfRange (hmakes step hstep) (hfits step hstep) n (by rw [hcall])

end Manager
end RaidProvision

import RaidProvision.Proofs.Binary64.Exact
import RaidProvision.Proofs.Manager.Creation
import RaidProvision.Proofs.Report.KeyValue
import RaidProvision.Proofs.Session.Quiet

/-!
# Sizes of new drives

A drive that was created has the size that the report of the query says, on a line that is at a
fixed place: a number of some unit, in whole gigabytes. The number is read into 53 bits and scaled
by one step of 1024 at a time. Up to `2 ^ 53` none of this is rounded, so the result is the quotient
of natural numbers, and at most the greatest word.

* `SizeUnit.ofText_of_sameFold`: a unit in any letter case.
* `Size.inGb_is`, `Size.toNat_wholeGb`: the number in gigabytes.
* `SaysSize.reads`: the size on a line.
* `Manager.Queried`, `Manager.Queried.value_build_of_saysSize`: the size of a drive.
-/
namespace RaidProvision

open RaidProvision.Text RaidProvision.Report RaidProvision.Binary64

/-! ## Units -/

/-- How many steps a unit is above the least one. -/
def SizeUnit.steps : SizeUnit → Nat
  | kb => 0
  | mb => 1
  | gb => 2
  | tb => 3
  | pb => 4

theorem SizeUnit.ofText_of_sameFold {u : SizeUnit} {s : String} (h : sameFold u.label s) :
    SizeUnit.ofText s = .ok u := by
  have hfold : u.label.toList.map Char.toLower = s.toList.map Char.toLower := by
    simpa [sameFold] using h
  have hsame (v : SizeUnit) : sameFold v.label s = sameFold v.label u.label := by
    rw [sameFold, sameFold, hfold]
  have hlabel := u.ofText?_label
  simp only [SizeUnit.ofText?] at hlabel
  simp only [SizeUnit.ofText, SizeUnit.ofText?, hsame, hlabel]

namespace Size

section
variable {x : Binary64} {n : Nat} {k : Int}

theorem step_is : Is step 1024 := by
  have h : Is (ofNat 1024) (1024 : Nat) := ofNat_is (by decide)
  simpa [step] using h

/-- A step to a greater unit takes ten bits off the exponent. -/
theorem div_step_is (hx : Is x (n * 2 ^ k)) (hn : n < twoTo 53) (hmin : minExponent ≤ k - 10)
    (hmax : k - 10 ≤ maxExponent) : Is (div x step) (n * 2 ^ (k - 10)) := by
  have hquotient : (n : ℚ) * 2 ^ (k - 10) = n * 2 ^ k / 1024 := by
    rw [zpow_sub₀ two_ne_zero]
    norm_num
    ring
  have hfits := fits_mul_zpow hn hmin hmax
  rw [hquotient] at hfits ⊢
  exact div_is hx step_is (by norm_num) hfits

/-- A step to a smaller unit puts ten bits on the exponent. -/
theorem mul_step_is (hx : Is x (n * 2 ^ k)) (hn : n < twoTo 53) (hmin : minExponent ≤ k + 10)
    (hmax : k + 10 ≤ maxExponent) : Is (mul x step) (n * 2 ^ (k + 10)) := by
  have hproduct : (n : ℚ) * 2 ^ (k + 10) = n * 2 ^ k * 1024 := by
    rw [zpow_add₀ two_ne_zero]
    norm_num
    ring
  have hfits := fits_mul_zpow hn hmin hmax
  rw [hproduct] at hfits ⊢
  exact mul_is hx step_is hfits

/-- The number in gigabytes as a number with another exponent. -/
theorem gb_eq (n : Nat) (u : SizeUnit) :
    ((n * 1024 ^ u.steps : Nat) : ℚ) / (1024 ^ 2 : Nat) = n * 2 ^ (10 * (u.steps : Int) - 20) := by
  rw [zpow_sub₀ two_ne_zero, zpow_mul, zpow_natCast]
  push_cast
  ring

theorem inGb_is (hx : Is x n) (hn : n < twoTo 53) (u : SizeUnit) :
    Is (inGb ⟨x, u⟩) ((n * 1024 ^ u.steps : Nat) / (1024 ^ 2 : Nat)) := by
  have hgb : Is x (n * 2 ^ (0 : Int)) := by simpa using hx
  rw [gb_eq]
  cases u with
  | kb =>
    have hmb := div_step_is hgb hn (by decide) (by decide)
    exact div_step_is hmb hn (by decide) (by decide)
  | mb => exact div_step_is hgb hn (by decide) (by decide)
  | gb => exact hgb
  | tb => exact mul_step_is hgb hn (by decide) (by decide)
  | pb =>
    have htb := mul_step_is hgb hn (by decide) (by decide)
    exact mul_step_is htb hn (by decide) (by decide)

theorem toNat_wholeGb (hx : Is x n) (hn : n < twoTo 53) (u : SizeUnit) :
    (wholeGb ⟨x, u⟩).toNat = min (n * 1024 ^ u.steps / 1024 ^ 2) (UInt64.size - 1) := by
  rw [wholeGb, toUInt64_is (inGb_is hx hn u), Nat.floor_div_eq_div]

end

end Size

/-! ## Lines -/

/-- A line says a size: behind its first colon there are the digits of a number and a unit, in any
letter case. -/
inductive SaysSize (n : Nat) (u : SizeUnit) : String → Prop where
  | mk {key value number label : String} {rest : List String} (hkey : ':' ∉ key.toList)
    (hwords : words value = number :: label :: rest) (hnumber : Digits n number.toList)
    (hlabel : sameFold u.label label) : SaysSize n u (key ++ ":" ++ value)

theorem toLower_of_isBlank {c : Char} (h : isBlank c) : c.toLower = c := by
  have hupper : ¬ (c.val ≥ 'A'.val ∧ c.val ≤ 'Z'.val) := by
    rintro ⟨hlow, hhigh⟩
    have hbounds : 65 ≤ c.toNat ∧ c.toNat ≤ 90 := ⟨hlow, hhigh⟩
    simp only [isBlank, Bool.or_eq_true, Bool.and_eq_true, decide_eq_true_eq, beq_iff_eq] at h
    omega
  exact dif_neg hupper

/-- No blank stands in the label of a unit, whatever the case of its letters. -/
theorem isBlank_eq_false_of_sameFold {u : SizeUnit} {s : String} (h : sameFold u.label s) :
    ∀ c ∈ s.toList, isBlank c = false := by
  have hfold : u.label.toList.map Char.toLower = s.toList.map Char.toLower := by
    simpa [sameFold] using h
  have hlabel : (u.label.toList.map Char.toLower).any isBlank = false := by
    cases u <;> rfl
  intro c hc
  by_contra hblank
  rw [Bool.not_eq_false] at hblank
  have hmem : c.toLower ∈ u.label.toList.map Char.toLower := hfold ▸ List.mem_map_of_mem hc
  rw [toLower_of_isBlank hblank] at hmem
  exact List.any_eq_false.1 hlabel c hmem hblank

theorem saysSize_plain {u : SizeUnit} {label : String} (n : Nat) (h : sameFold u.label label) :
    SaysSize n u ("Size : " ++ Nat.repr n ++ " " ++ label) := by
  have hline : "Size : " ++ Nat.repr n ++ " " ++ label =
      "Size " ++ ":" ++ String.ofList ([' '] ++ (Nat.repr n).toList ++ ' ' :: label.toList) := by
    apply String.toList_injective
    simp
  have hne : label ≠ "" := by
    rintro rfl
    cases u <;> cases h
  have hnumber : words (Nat.repr n) = [Nat.repr n] :=
    words_eq_singleton (repr_ne_empty n) fun _ => isBlank_of_mem_repr
  have hlabel : words label = [label] := words_eq_singleton hne (isBlank_eq_false_of_sameFold h)
  have hwords : words (String.ofList ([' '] ++ (Nat.repr n).toList ++ ' ' :: label.toList)) =
      [Nat.repr n, label] := by
    rw [words_append_cons _ _ rfl, words_append_left_of_blank _ (List.forall_mem_singleton.2 rfl),
      String.ofList_toList, String.ofList_toList, hnumber, hlabel]
    rfl
  rw [hline]
  exact .mk (by decide) hwords (digits_repr n) h

theorem SaysSize.reads {n : Nat} {u : SizeUnit} {line : String} (h : SaysSize n u line) :
    (valueAfterColon line).bind Size.ofText = .ok ⟨ofDecimal false n 0, u⟩ := by
  obtain ⟨hkey, hwords, hnumber, hlabel⟩ := h
  rename_i key value number label rest
  have hvalue : valueAfterColon (key ++ ":" ++ value) = .ok (trim value) :=
    valueAfterColon_eq_ok_iff.2 ⟨key, value, hkey, rfl, rfl⟩
  rw [hvalue]
  simp only [Except.bind, Size.ofText, words_trim, hwords, ofLiteral?_of_digits hnumber,
    SizeUnit.ofText_of_sameFold hlabel, Except.map]

/-! ## Drives -/

/-- The line with the size of a drive in the answer to the query for it, counted from 0. -/
def Family.sizeIndex : Family → Nat
  | .arcconf => 1
  | .megacli => 0

theorem Family.driveSize_eq {family : Family} {report line : String}
    (h : (pieces '\n' report)[family.sizeIndex]? = some line) :
    family.driveSize report = (valueAfterColon line).bind Size.ofText := by
  cases family with
  | arcconf =>
    rw [Family.sizeIndex] at h
    rw [Family.driveSize, Arcconf.driveSize, lineAt, h]
    rfl
  | megacli =>
    rw [Family.sizeIndex] at h
    rw [Family.driveSize, MegaCli.driveSize, lineAt, h]
    rfl

namespace Manager

/-- A drive was created with a number, and the query for its size was answered. -/
structure Queried (manager : Manager) (b : Blueprint) (host : Host) (report id sizes : String) :
    Prop where
  fits : manager.family.Fits b.size
  created : (host.reply (manager.createCommand b)).read (manager.createCommand b) = .ok report
  named : manager.family.NamesDrive report id
  answered : ((host.withReplies host.replies.tail).reply (manager.sizeCommand b id)).read
    (manager.sizeCommand b id) = .ok sizes

variable {manager : Manager} {b : Blueprint} {host : Host} {report id sizes : String}

theorem Queried.value_build (h : manager.Queried b host report id sizes) {size : Size}
    (hsize : manager.family.driveSize sizes = .ok size) :
    ((manager.build b).run host).value = .ok size.wholeGb := by
  have hquery : (Host.reply { host with replies := host.replies.tail }
      (manager.sizeCommand b id)).read (manager.sizeCommand b id) = .ok sizes := h.answered
  rw [build_of_fits h.fits, ToolTask.value_execute_bind_of_ok _ h.created,
    Family.createdDrive_eq_ok_iff.2 h.named, ToolTask.read_ok_bind,
    ToolTask.value_execute_bind_of_ok _ hquery, hsize, ToolTask.read_ok_bind]
  rfl

/-- Whatever else the answer says, the size is the number on its line in whole gigabytes. -/
theorem Queried.value_build_of_saysSize (h : manager.Queried b host report id sizes)
    {u : SizeUnit} {n : Nat} {line : String}
    (hline : (pieces '\n' sizes)[manager.family.sizeIndex]? = some line)
    (hnumber : SaysSize n u line) (hn : n < 2 ^ 53) :
    ∃ gb, ((manager.build b).run host).value = .ok gb ∧
      gb.toNat = min (n * 1024 ^ u.steps / 1024 ^ 2) (2 ^ 64 - 1) := by
  have hsize : manager.family.driveSize sizes = .ok ⟨ofDecimal false n 0, u⟩ := by
    rw [Family.driveSize_eq hline, hnumber.reads]
  exact ⟨_, h.value_build hsize, Size.toNat_wholeGb (ofDecimal_is hn) hn u⟩

/-- A drive was created, and the line with its size says `Size :`, a number below `2 ^ 53` and a
unit: its size is the number in whole gigabytes, rounded down, or the greatest word. -/
theorem size_of_built_drive {u : SizeUnit} {n : Nat} {label : String}
    (h : manager.Queried b host report id sizes)
    (hline : (pieces '\n' sizes)[manager.family.sizeIndex]? =
      some ("Size : " ++ Nat.repr n ++ " " ++ label))
    (hlabel : sameFold u.label label) (hn : n < 2 ^ 53) :
    ∃ gb, ((manager.build b).run host).value = .ok gb ∧
      gb.toNat = min (n * 1024 ^ u.steps / 1024 ^ 2) (2 ^ 64 - 1) :=
  h.value_build_of_saysSize hline (saysSize_plain n hlabel) hn

/-- A mirror of two disks. -/
def mirrorOfAll : Blueprint := ⟨"1", .max, "1", ["0 0", "0 1"]⟩

/-- A drive of arcconf, with other lines around the one with its size. -/
def arcconfHost : Host :=
  .ofReplies [.printed "Controllers found: 1\n\nCreating logical device: LogicalDrv 0\n",
    .printed "   Size of stripe\nSize : 511990 Mb\n   Other size : 1 GB\n"]

/-- A drive of MegaCLI that is too large. -/
def megacliHost : Host :=
  .ofReplies [.printed "\nAdapter 1: Created VD 0\n", .printed "Size : 9007199254740991 pB\n"]

theorem queried_arcconfHost : Queried ⟨.arcconf, .standard⟩ mirrorOfAll arcconfHost
    "Controllers found: 1\n\nCreating logical device: LogicalDrv 0\n" "0"
    "   Size of stripe\nSize : 511990 Mb\n   Other size : 1 GB\n" where
  fits := trivial
  created := by decide +kernel
  named := Family.createdDrive_eq_ok_iff.1 (by decide +kernel)
  answered := by decide +kernel

theorem queried_megacliHost : Queried ⟨.megacli, .standard⟩ mirrorOfAll megacliHost
    "\nAdapter 1: Created VD 0\n" "0" "Size : 9007199254740991 pB\n" where
  fits := trivial
  created := by decide +kernel
  named := Family.createdDrive_eq_ok_iff.1 (by decide +kernel)
  answered := by decide +kernel

/-- Megabytes are rounded down, and what is too large is the greatest word. -/
theorem size_of_built_drive_mirrorOfAll :
    (∃ gb, ((build ⟨.arcconf, .standard⟩ mirrorOfAll).run arcconfHost).value = .ok gb ∧
      gb.toNat = 499) ∧
    ∃ gb, ((build ⟨.megacli, .standard⟩ mirrorOfAll).run megacliHost).value = .ok gb ∧
      gb.toNat = 2 ^ 64 - 1 := by
  constructor
  · have hline : (pieces '\n' "   Size of stripe\nSize : 511990 Mb\n   Other size : 1 GB\n")[1]? =
        some ("Size : " ++ Nat.repr 511990 ++ " " ++ "Mb") := by decide +kernel
    have hlabel : sameFold SizeUnit.mb.label "Mb" := by decide
    exact size_of_built_drive queried_arcconfHost hline hlabel (by decide)
  · have hline : (pieces '\n' "Size : 9007199254740991 pB\n")[0]? =
        some ("Size : " ++ Nat.repr 9007199254740991 ++ " " ++ "pB") := by decide +kernel
    have hlabel : sameFold SizeUnit.pb.label "pB" := by decide
    exact size_of_built_drive queried_megacliHost hline hlabel (by decide)

end Manager

end RaidProvision

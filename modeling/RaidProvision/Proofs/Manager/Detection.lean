import RaidProvision.Proofs.Manager.Choice
import RaidProvision.Proofs.Report.KeyValue
import RaidProvision.Proofs.Text.Unsigned

/-!
# Detecting controllers

A probe asks how many controllers there are. Whatever comes of it, a machine is supported or it is
not: it is if the probe succeeded and its report tells a number that is not zero. The number stands
behind the first colon of the report, and what follows it does not count. MegaCLI numbers its
controllers by the same report, so there are ids exactly if a controller is detected.

* `Family.Tells`, `Family.count_eq_ok_iff`: which number a report tells.
* `Manager.showsController_iff`: which replies show a controller.
* `Manager.value_controllers_eq_ok_iff`: the ids of MegaCLI.
* `Manager.detection_agrees`: all of this.
-/
namespace RaidProvision

open RaidProvision.Text RaidProvision.Report

/-! ## The number in a report -/

/-- A report tells a number. It stands behind the first colon: for arcconf as the first word in
front of the next colon, and for MegaCLI in front of the first full stop, with blanks around it. -/
inductive Family.Tells (n : UInt32) : Family → String → Prop where
  | arcconf {key rest word : String} {more : List String} (hkey : ':' ∉ key.toList)
    (hwords : words (before ':' rest) = word :: more) (hword : Numeral n.toNat word) :
    Tells n .arcconf (key ++ ":" ++ rest)
  | megacli {key rest : String} (hkey : ':' ∉ key.toList)
    (hword : Numeral n.toNat (trim (before '.' rest))) : Tells n .megacli (key ++ ":" ++ rest)

theorem Arcconf.controllerCount_append {key : String} (hkey : ':' ∉ key.toList) (rest : String) :
    controllerCount (key ++ ":" ++ rest) =
      match words (before ':' rest) with
      | [] => .error .emptyControllerCount
      | word :: _ => (readUInt32 word).mapError (.badControllerCount word) := by
  obtain ⟨more, hmore⟩ := List.head?_eq_some_iff.1 (head?_pieces ':' rest)
  rw [controllerCount, pieces_append rfl, pieces_eq_singleton hkey, hmore]
  rfl

theorem Arcconf.controllerCount_eq_ok_iff {report : String} {n : UInt32} :
    controllerCount report = .ok n ↔ Family.Tells n .arcconf report := by
  constructor
  · intro h
    have hcolon : ':' ∈ report.toList := by
      by_contra hnone
      rw [controllerCount, pieces_eq_singleton hnone] at h
      cases h
    have hsep : ":".toList = [':'] := rfl
    obtain ⟨key, rest, hkey, rfl⟩ := exists_before hsep hcolon
    rw [controllerCount_append hkey] at h
    cases hwords : words (before ':' rest) with
    | nil =>
      rw [hwords] at h
      cases h
    | cons word more =>
      rw [hwords] at h
      exact .arcconf hkey hwords (readUInt32_eq_ok_iff.1 (Procedure.mapError_eq_ok.1 h))
  · intro h
    cases h with
    | arcconf hkey hwords hword =>
      rw [controllerCount_append hkey, hwords]
      exact Procedure.mapError_eq_ok.2 (readUInt32_eq_ok_iff.2 hword)

theorem MegaCli.adapterCount_eq_ok_iff {report : String} {n : UInt32} :
    adapterCount report = .ok n ↔ Family.Tells n .megacli report := by
  have hcount : adapterCount report = .ok n ↔
      ∃ value, valueAfterColon report = .ok value ∧ Numeral n.toNat (trim (before '.' value)) := by
    rw [adapterCount]
    cases hvalue : valueAfterColon report with
    | error cause => simp [bind, Except.bind]
    | ok value =>
      simp only [bind, Except.bind, Procedure.mapError_eq_ok, readUInt32_eq_ok_iff,
        Except.ok.injEq, exists_eq_left']
  rw [hcount]
  constructor
  · rintro ⟨value, hvalue, hword⟩
    obtain ⟨key, rest, hkey, rfl, rfl⟩ := valueAfterColon_eq_ok_iff.1 hvalue
    rw [trim_before_trim (by decide)] at hword
    exact .megacli hkey hword
  · intro h
    cases h with
    | megacli hkey hword =>
      refine ⟨_, valueAfterColon_eq_ok_iff.2 ⟨_, _, hkey, rfl, rfl⟩, ?_⟩
      rwa [trim_before_trim (by decide)]

theorem Family.count_eq_ok_iff {family : Family} {report : String} {n : UInt32} :
    family.count report = .ok n ↔ family.Tells n report := by
  cases family with
  | arcconf => exact Arcconf.controllerCount_eq_ok_iff
  | megacli => exact MegaCli.adapterCount_eq_ok_iff

/-- The line with which a report begins tells its number, whatever follows. -/
theorem Family.tells_arcconf (n : UInt32) (rest : String) :
    Tells n .arcconf ("Controllers found: " ++ Nat.repr n.toNat ++ "\n" ++ rest) := by
  have hreport : "Controllers found: " ++ Nat.repr n.toNat ++ "\n" ++ rest =
      "Controllers found" ++ ":" ++ ((" " ++ Nat.repr n.toNat ++ "\n") ++ rest) := by
    apply String.toList_injective
    simp
  have hline : ':' ∉ (" " ++ Nat.repr n.toNat ++ "\n").toList := by
    have hdigits : ':' ∉ (Nat.repr n.toNat).toList := not_mem_repr rfl
    simpa using hdigits
  have hchars (s : String) : " " ++ Nat.repr n.toNat ++ "\n" ++ s =
      String.ofList ([' '] ++ (Nat.repr n.toNat).toList ++ '\n' :: s.toList) := by
    apply String.toList_injective
    simp
  have hnumber : words (Nat.repr n.toNat) = [Nat.repr n.toNat] :=
    words_eq_singleton (repr_ne_empty _) fun _ => isBlank_of_mem_repr
  have hwords : words (before ':' ((" " ++ Nat.repr n.toNat ++ "\n") ++ rest)) =
      Nat.repr n.toNat :: words (before ':' rest) := by
    rw [before_append hline, hchars, words_append_cons _ _ rfl,
      words_append_left_of_blank _ (List.forall_mem_singleton.2 rfl), String.ofList_toList,
      String.ofList_toList, hnumber]
    rfl
  rw [hreport]
  exact .arcconf (by decide) hwords (.inl (digits_repr _))

theorem Family.tells_megacli (n : UInt32) (rest : String) :
    Tells n .megacli ("Controller Count: " ++ Nat.repr n.toNat ++ "." ++ rest) := by
  have hreport : "Controller Count: " ++ Nat.repr n.toNat ++ "." ++ rest =
      "Controller Count" ++ ":" ++ ((" " ++ Nat.repr n.toNat) ++ "." ++ rest) := by
    apply String.toList_injective
    simp
  have hpoint : '.' ∉ (" " ++ Nat.repr n.toNat).toList := by
    have hdigits : '.' ∉ (Nat.repr n.toNat).toList := not_mem_repr rfl
    simpa using hdigits
  have htrim : trim (" " ++ Nat.repr n.toNat) = Nat.repr n.toNat := by
    apply String.toList_injective
    have hspace : ∀ c ∈ " ".toList, isBlank c := List.forall_mem_singleton.2 rfl
    rw [toList_trim, String.toList_append, strip_append_left_of_blank hspace,
      strip_of_not_blank fun _ => isBlank_of_mem_repr]
  have hword : Numeral n.toNat (trim (before '.' ((" " ++ Nat.repr n.toNat) ++ "." ++ rest))) := by
    rw [before_append_sep rfl hpoint, htrim]
    exact .inl (digits_repr _)
  rw [hreport]
  exact .megacli (by decide) hword

/-! ## Replies -/

namespace Manager

theorem showsController_iff {manager : Manager} {reply : Reply} :
    manager.ShowsController reply ↔ ∃ output errors n, reply = .ended (.exited 0) output errors ∧
      manager.family.Tells n (decodeUtf8 output) ∧ n ≠ 0 := by
  simp only [ShowsController, Exchange.Gives, Reply.read_eq_ok, Family.count_eq_ok_iff]
  constructor
  · rintro ⟨n, hn, _, ⟨output, errors, hreply, rfl⟩, htells⟩
    exact ⟨output, errors, n, hreply, htells, hn⟩
  · rintro ⟨output, errors, n, hreply, htells, hn⟩
    exact ⟨n, hn, _, ⟨output, errors, hreply, rfl⟩, htells⟩

/-- The ids of MegaCLI are those of the number that the probe tells, from 0 on. -/
theorem value_controllers_eq_ok_iff {tools : ToolPaths} {host : Host} {ids : List String} :
    ((controllers ⟨.megacli, tools⟩).run host).value = .ok ids ↔
      ∃ n, Exchange.Gives ⟨probe ⟨.megacli, tools⟩, host.reply (probe ⟨.megacli, tools⟩)⟩
        (Family.count .megacli) n ∧ ids = (List.range n.toNat).map Nat.repr := by
  let command := MegaCli.command ⟨tools.megacli⟩ MegaCli.countArguments
  have hgives (n : UInt32) :
      Exchange.Gives ⟨probe ⟨.megacli, tools⟩, host.reply (probe ⟨.megacli, tools⟩)⟩
        (Family.count .megacli) n ↔ ∃ report, (host.reply command).read command = .ok report ∧
          MegaCli.adapterCount report = .ok n := Iff.rfl
  have hcontrollers : controllers ⟨.megacli, tools⟩ = ToolTask.execute command >>= fun report =>
      ToolTask.read (MegaCli.adapterCount report) >>= fun n => pure (MegaCli.adapterIds n) := rfl
  simp only [hgives]
  rw [hcontrollers]
  cases hread : (host.reply command).read command with
  | error fault =>
    rw [ToolTask.value_execute_bind_of_error _ hread]
    simp
  | ok report =>
    rw [ToolTask.value_execute_bind_of_ok _ hread, Procedure.value_bind_pure]
    cases hcount : MegaCli.adapterCount report with
    | error cause => simp [hcount, Except.mapError, Except.map]
    | ok n => simp [hcount, Except.mapError, Except.map, MegaCli.adapterIds, eq_comm]

/-- A controller is detected exactly if there are ids. -/
theorem value_detect_iff_controllers {tools : ToolPaths} {host : Host} :
    ((detect ⟨.megacli, tools⟩).run host).value = true ↔
      ∃ ids, ((controllers ⟨.megacli, tools⟩).run host).value = .ok ids ∧ ids ≠ [] := by
  have hempty (n : UInt32) : (List.range n.toNat).map Nat.repr = [] ↔ n = 0 := by
    rw [List.map_eq_nil_iff, List.range_eq_nil, ← UInt32.toNat_inj]
    rfl
  simp only [value_detect_iff, value_controllers_eq_ok_iff, ShowsController]
  constructor
  · rintro ⟨n, hn, hgives⟩
    exact ⟨_, ⟨n, hgives, rfl⟩, (hempty n).not.2 hn⟩
  · rintro ⟨_, ⟨n, hgives, rfl⟩, hne⟩
    exact ⟨n, (hempty n).not.1 hne, hgives⟩

/-- Whatever comes of the probe, asking for support runs nothing else. A machine is supported iff
the probe succeeded and its output tells a number that is not zero, and is not supported otherwise.
A report that begins as the tools print it tells its number whatever follows. For MegaCLI there are
ids iff a controller is detected, and they are the numbers below the one that is told. -/
theorem detection_agrees :
    (∀ (manager : Manager) (host : Host),
      (manager.support.run host).commands = [manager.probe] ∧
      ((manager.support.run host).value = .mainline ↔
        ∃ output errors n, host.reply manager.probe = .ended (.exited 0) output errors ∧
          manager.family.Tells n (decodeUtf8 output) ∧ n ≠ 0) ∧
      ((manager.support.run host).value ≠ .mainline →
        (manager.support.run host).value = .none)) ∧
    (∀ (family : Family) (report : String) (n : UInt32),
      family.count report = .ok n ↔ family.Tells n report) ∧
    (∀ (n : UInt32) (rest : String),
      Family.count .arcconf ("Controllers found: " ++ Nat.repr n.toNat ++ "\n" ++ rest) = .ok n ∧
      Family.count .megacli ("Controller Count: " ++ Nat.repr n.toNat ++ "." ++ rest) = .ok n) ∧
    ∀ (tools : ToolPaths) (host : Host),
      (((detect ⟨.megacli, tools⟩).run host).value = true ↔
        ∃ ids, ((controllers ⟨.megacli, tools⟩).run host).value = .ok ids ∧ ids ≠ []) ∧
      ∀ ids, ((controllers ⟨.megacli, tools⟩).run host).value = .ok ids ↔
        ∃ output errors n, host.reply (probe ⟨.megacli, tools⟩) = .ended (.exited 0) output errors ∧
          Family.Tells n .megacli (decodeUtf8 output) ∧
          ids = (List.range n.toNat).map Nat.repr := by
  refine ⟨?_, fun family report n => Family.count_eq_ok_iff, ?_, ?_⟩
  · intro manager host
    refine ⟨?_, value_support_eq_mainline_iff.trans showsController_iff, ?_⟩
    · rw [run_support]
      rfl
    · rw [Ne, value_support_eq_mainline_iff]
      exact value_support_eq_none_iff.2
  · intro n rest
    exact ⟨Family.count_eq_ok_iff.2 (Family.tells_arcconf n rest),
      Family.count_eq_ok_iff.2 (Family.tells_megacli n rest)⟩
  · intro tools host
    refine ⟨value_detect_iff_controllers, fun ids => ?_⟩
    rw [value_controllers_eq_ok_iff]
    simp only [Exchange.Gives, Reply.read_eq_ok, Family.count_eq_ok_iff]
    constructor
    · rintro ⟨n, ⟨_, ⟨output, errors, hreply, rfl⟩, htells⟩, hids⟩
      exact ⟨output, errors, n, hreply, htells, hids⟩
    · rintro ⟨output, errors, n, hreply, htells, hids⟩
      exact ⟨n, ⟨_, ⟨output, errors, hreply, rfl⟩, htells⟩, hids⟩

end Manager
end RaidProvision

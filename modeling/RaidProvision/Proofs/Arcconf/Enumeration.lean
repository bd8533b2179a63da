import Mathlib.Data.List.Forall2
import RaidProvision.Proofs.Manager.Choice
import RaidProvision.Proofs.Session.Exchange

/-!
# The number of controllers and their ids

The list of controllers says how many there are, and names them behind its first three lines.
Detection reads the number alone, and all that works on controllers reads the ids alone. Nothing
compares the two: if a line is missing in front of the controllers, the first of them is taken for
one that says nothing, and if the list is cut short the rest of them is not missed.

* `controllerIds_eq_ok_iff`: the ids are those of the lines behind the third that are not blank.
* `onlyLists_delete_iff`, `onlyLists_physicalDrives_iff`: when a machine is passed over.
* `controllerIds_agree_iff`: which lists have as many ids as they announce, and on which machines
  nothing is done although they are supported.
* `controllerIds_disagree`: a machine with a controller that is not found.
-/
namespace RaidProvision

open RaidProvision.Text RaidProvision.Report

/-- A list is read if each of its elements is. -/
theorem Report.mapM_eq_ok_iff {ε α β : Type} {f : α → Except ε β} {xs : List α} {ys : List β} :
    xs.mapM f = .ok ys ↔ List.Forall₂ (fun x y => f x = .ok y) xs ys := by
  induction xs generalizing ys with
  | nil => cases ys <;> simp [pure, Except.pure]
  | cons x xs ih =>
    rw [List.mapM_cons]
    cases hx : f x with
    | error cause => cases ys <;> simp [bind, Except.bind, hx]
    | ok y =>
      cases hxs : xs.mapM f with
      | error cause => cases ys <;> simp [bind, Except.bind, ← ih, hxs, hx]
      | ok rest => cases ys <;> simp [bind, Except.bind, pure, Except.pure, ← ih, hxs, hx]

/-- A list is refused for its first element that is, if those before it are read. -/
theorem Report.mapM_eq_error_iff {ε α β : Type} {f : α → Except ε β} {xs : List α} {cause : ε} :
    xs.mapM f = .error cause ↔
      ∃ before x after, xs = before ++ x :: after ∧ (∀ y ∈ before, ∃ z, f y = .ok z) ∧
        f x = .error cause := by
  induction xs with
  | nil => simp [pure, Except.pure]
  | cons x xs ih =>
    rw [List.mapM_cons]
    cases hx : f x with
    | error other =>
      change (Except.error other : Except ε (List β)) = .error cause ↔ _
      constructor
      · intro h
        cases h
        exact ⟨[], x, xs, rfl, List.forall_mem_nil _, hx⟩
      · rintro ⟨before, y, after, heq, hbefore, hy⟩
        cases before with
        | nil =>
          obtain ⟨rfl, -⟩ := List.cons.inj heq
          cases hx.symm.trans hy
          rfl
        | cons first before =>
          obtain ⟨rfl, -⟩ := List.cons.inj heq
          obtain ⟨z, hz⟩ := hbefore x List.mem_cons_self
          cases hx.symm.trans hz
    | ok z =>
      have hrest : (do let rest ← xs.mapM f; pure (z :: rest) : Except ε (List β)) =
          .error cause ↔ xs.mapM f = .error cause := by
        cases xs.mapM f <;> simp [bind, Except.bind, pure, Except.pure]
      refine hrest.trans (ih.trans ⟨?_, ?_⟩)
      · rintro ⟨before, y, after, rfl, hbefore, hy⟩
        exact ⟨x :: before, y, after, rfl, List.forall_mem_cons.2 ⟨⟨z, hx⟩, hbefore⟩, hy⟩
      · rintro ⟨before, y, after, heq, hbefore, hy⟩
        cases before with
        | nil =>
          obtain ⟨rfl, -⟩ := List.cons.inj heq
          cases hx.symm.trans hy
        | cons first before =>
          obtain ⟨-, rfl⟩ := List.cons.inj heq
          exact ⟨before, y, after, rfl, (List.forall_mem_cons.1 hbefore).2, hy⟩

/-- What stands in one of two lists that belong together has its part in the other. -/
theorem Report.exists_of_mem_forall₂ {α β : Type} {R : α → β → Prop} {xs : List α} {ys : List β}
    (h : List.Forall₂ R xs ys) {x : α} (hx : x ∈ xs) : ∃ y ∈ ys, R x y := by
  induction h with
  | nil => cases hx
  | @cons first y xs ys hfirst _ ih =>
    obtain rfl | hx := List.mem_cons.1 hx
    · exact ⟨y, List.mem_cons_self, hfirst⟩
    · obtain ⟨y, hy, hR⟩ := ih hx
      exact ⟨y, List.mem_cons_of_mem _ hy, hR⟩

namespace Arcconf

/-- The lines of a list that are not blank, without the first three of all. -/
def detailLines (report : String) : List String :=
  ((pieces '\n' report).drop 3).filter fun line => !line.toList.all isBlank

theorem controllerIds_eq_ok_iff {report : String} {ids : List String} :
    controllerIds report = .ok ids ↔
      List.Forall₂ (fun line id => idOfLine line = .ok id) (detailLines report) ids :=
  mapM_eq_ok_iff

theorem length_controllerIds {report : String} {ids : List String}
    (h : controllerIds report = .ok ids) : ids.length = (detailLines report).length :=
  (controllerIds_eq_ok_iff.1 h).length_eq.symm

/-- There are no ids exactly if there are no lines that could name them. -/
theorem controllerIds_eq_nil_iff {report : String} :
    controllerIds report = .ok [] ↔ detailLines report = [] := by
  rw [controllerIds_eq_ok_iff]
  constructor
  · rintro h
    exact List.forall₂_nil_right_iff.1 h
  · intro h
    rw [h]
    exact .nil

end Arcconf

/-! ## Machines that are passed over -/

/-- A task succeeds with the list of the controllers as its only command. -/
def Arcconf.OnlyLists {α : Type} (tool : Arcconf) (task : ToolTask α) (host : Host) : Prop :=
  (∃ a, (task.run host).value = .ok a) ∧
    (task.exchanges host).map Exchange.command = [tool.command listArguments]

namespace Arcconf

variable (tool : Arcconf) (host : Host) {α β : Type}

/-- The list of the controllers and what came of it. -/
def listing : Exchange := ⟨tool.command listArguments, host.reply (tool.command listArguments)⟩

theorem value_controllers :
    (Procedure.run tool.controllers host).value = (tool.listing host).outcome controllerIds :=
  congrArg Outcome.value (ToolTask.run_executeRead _ controllerIds host)

theorem exchanges_controllers :
    Procedure.exchanges tool.controllers host = [tool.listing host] :=
  ToolTask.exchanges_executeRead _ controllerIds host

/-- Work on controllers only lists them exactly if the list names none, if it needs no command for
no controllers and begins with one for the first of several. -/
theorem onlyLists_bind_iff {work : List String → ToolTask α}
    (hnone : ∀ host, ∃ a, Procedure.run (work []) host = ⟨.ok a, [], host⟩ ∧
      Procedure.exchanges (work []) host = [])
    (hsome : ∀ id rest host, Procedure.exchanges (work (id :: rest)) host ≠ []) :
    tool.OnlyLists (tool.controllers >>= work) host ↔
      (tool.listing host).Gives controllerIds [] := by
  have hvalue := tool.value_controllers host
  unfold OnlyLists
  constructor
  · rintro ⟨⟨a, ha⟩, hcommands⟩
    cases hids : (tool.listing host).outcome controllerIds with
    | error cause =>
      rw [hids] at hvalue
      rw [Procedure.value_bind_of_error _ hvalue] at ha
      cases ha
    | ok ids =>
      rw [hids] at hvalue
      rw [Procedure.exchanges_bind_of_ok _ hvalue, exchanges_controllers] at hcommands
      have hrest := List.map_eq_nil_iff.1 (List.cons.inj hcommands).2
      cases ids with
      | nil => exact Exchange.outcome_eq_ok_iff.1 hids
      | cons id rest => exact absurd hrest (hsome id rest _)
  · intro hgives
    rw [Exchange.outcome_eq_ok_iff.2 hgives] at hvalue
    rw [Procedure.exchanges_bind_of_ok _ hvalue, Procedure.value_bind_of_ok _ hvalue,
      exchanges_controllers]
    obtain ⟨a, hrun, hexchanges⟩ := hnone (Procedure.run tool.controllers host).host
    rw [hrun, hexchanges]
    exact ⟨⟨a, rfl⟩, rfl⟩

theorem onlyLists_physicalDrives_iff :
    tool.OnlyLists tool.physicalDrives host ↔ (tool.listing host).Gives controllerIds [] := by
  refine tool.onlyLists_bind_iff host (fun _ => ⟨[], rfl, rfl⟩) ?_
  intro id rest host
  rw [drivesOfAll, drivesOf, bind_assoc]
  exact ToolTask.exchanges_execute_bind_ne_nil _

theorem onlyLists_delete_iff (tools : ToolPaths) :
    OnlyLists ⟨tools.arcconf⟩ (Manager.delete ⟨.arcconf, tools⟩) host ↔
      (listing ⟨tools.arcconf⟩ host).Gives controllerIds [] := by
  refine onlyLists_bind_iff ⟨tools.arcconf⟩ host (fun _ => ⟨(), rfl, rfl⟩) ?_
  intro id rest host
  change Procedure.exchanges (destroyAll ⟨tools.arcconf⟩ (id :: rest) >>= _) host ≠ []
  rw [destroyAll, bind_assoc]
  exact ToolTask.exchanges_execute_bind_ne_nil _

/-- There is support exactly if the list can be had and announces a controller. -/
theorem support_eq_mainline_iff (tools : ToolPaths) :
    ((Manager.support ⟨.arcconf, tools⟩).run host).value = .mainline ↔
      ∃ n, (listing ⟨tools.arcconf⟩ host).Gives controllerCount n ∧ n ≠ 0 := by
  have hshows : Manager.ShowsController ⟨.arcconf, tools⟩
      (host.reply (Manager.probe ⟨.arcconf, tools⟩)) ↔
      ∃ n : UInt32, n ≠ 0 ∧ (listing ⟨tools.arcconf⟩ host).Gives controllerCount n := Iff.rfl
  rw [Manager.value_support_eq_mainline_iff, hshows]
  simp only [and_comm]

/-- A list has as many ids as it announces exactly if that many lines stand behind the third. On a
machine that is supported because of the number, nothing is deleted and no drive is asked for
exactly if none does. -/
theorem controllerIds_agree_iff (tools : ToolPaths) (host : Host) {report : String} {n : UInt32}
    (hreport : (host.reply (command ⟨tools.arcconf⟩ listArguments)).read
      (command ⟨tools.arcconf⟩ listArguments) = .ok report)
    (hcount : controllerCount report = .ok n) :
    (∀ ids, controllerIds report = .ok ids →
      (ids.length = n.toNat ↔ (detailLines report).length = n.toNat)) ∧
    (((Manager.support ⟨.arcconf, tools⟩).run host).value = .mainline ↔ n ≠ 0) ∧
    (OnlyLists ⟨tools.arcconf⟩ (Manager.delete ⟨.arcconf, tools⟩) host ↔
      detailLines report = []) ∧
    (OnlyLists ⟨tools.arcconf⟩ (physicalDrives ⟨tools.arcconf⟩) host ↔
      detailLines report = []) := by
  have hgives {α : Type} (parse : String → Except ReportError α) (a : α) :
      (listing ⟨tools.arcconf⟩ host).Gives parse a ↔ parse report = .ok a := by
    simp only [listing, Exchange.Gives, hreport, Except.ok.injEq, exists_eq_left']
  rw [support_eq_mainline_iff, onlyLists_delete_iff, onlyLists_physicalDrives_iff, hgives,
    controllerIds_eq_nil_iff]
  refine ⟨?_, ?_, Iff.rfl, Iff.rfl⟩
  · intro ids hids
    rw [length_controllerIds hids]
  · simp only [hgives, hcount, Except.ok.injEq, exists_eq_left']

/-- A list with three lines in front of the only controller. -/
def fullList : String :=
  "Controllers found: 1\nController information\n   Controller ID : Status, Slot\n" ++
    "   Controller 1: : Optimal, Slot 1\n"

/-- The same list without its second line. -/
def shortList : String :=
  "Controllers found: 1\n   Controller ID : Status, Slot\n   Controller 1: : Optimal, Slot 1\n"

theorem controllerIds_agree_iff_fullList :
    let host := Host.ofReplies [.printed fullList]
    controllerIds fullList = .ok ["1"] ∧
      (["1"].length = (1 : UInt32).toNat ↔ (detailLines fullList).length = (1 : UInt32).toNat) ∧
      ¬ OnlyLists ⟨ToolPaths.standard.arcconf⟩ (Manager.delete ⟨.arcconf, .standard⟩) host := by
  have hids : controllerIds fullList = .ok ["1"] := by decide +kernel
  have hreport : ((Host.ofReplies [.printed fullList]).reply
      (command ⟨ToolPaths.standard.arcconf⟩ listArguments)).read
        (command ⟨ToolPaths.standard.arcconf⟩ listArguments) = .ok fullList := by decide +kernel
  have hcount : controllerCount fullList = .ok 1 := by decide +kernel
  have hall := controllerIds_agree_iff .standard _ hreport hcount
  refine ⟨hids, hall.1 _ hids, ?_⟩
  rw [hall.2.2.1]
  decide +kernel

/-- A machine that is supported, and on which a controller is neither asked for its drives nor
cleared of them, because one line is missing in front of it. -/
theorem controllerIds_disagree :
    let host := Host.ofReplies [.printed shortList]
    controllerCount shortList = .ok 1 ∧ controllerIds shortList = .ok [] ∧
      ((Manager.support ⟨.arcconf, .standard⟩).run host).value = .mainline ∧
      OnlyLists ⟨ToolPaths.standard.arcconf⟩ (Manager.delete ⟨.arcconf, .standard⟩) host ∧
      OnlyLists ⟨ToolPaths.standard.arcconf⟩ (physicalDrives ⟨ToolPaths.standard.arcconf⟩)
        host := by
  have hcount : controllerCount shortList = .ok 1 := by decide +kernel
  have hids : controllerIds shortList = .ok [] := by decide +kernel
  have hgives {α : Type} {parse : String → Except ReportError α} {a : α}
      (h : parse shortList = .ok a) :
      (listing ⟨ToolPaths.standard.arcconf⟩ (.ofReplies [.printed shortList])).Gives parse a :=
    ⟨shortList, by decide +kernel, h⟩
  refine ⟨hcount, hids, ?_, ?_, ?_⟩
  · exact (support_eq_mainline_iff _ _).2 ⟨1, hgives hcount, by decide⟩
  · exact (onlyLists_delete_iff _ _).2 (hgives hids)
  · exact (onlyLists_physicalDrives_iff _ _).2 (hgives hids)

end Arcconf
end RaidProvision

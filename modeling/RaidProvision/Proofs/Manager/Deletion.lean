import RaidProvision.Manager.Basic
import RaidProvision.Proofs.Session.Exchange
import RaidProvision.Proofs.Text.Cut

/-!
# Where drives are deleted

Both families delete drives by one loop (`Eraser.deleteAll`): each controller is asked for its
drives, and what it has is deleted at once, before the next one is asked. A `Visit` is a query with
the deletion that it led to. `Swept` says what the loop comes to, with one case for each way in
which a visit can end; everything else is read off it by induction.

* `deleteAll_swept`: the commands of the loop are those of its visits.
* `Swept.deletesAsAnswered`, `Swept.controllers_prefix`, `Swept.endsAtFailure`, `Swept.count_eq`:
  which controllers are visited, where drives are deleted, how the loop stops and what it counts.
* `destroyAll_visits`: deleting the drives of some controllers, with what follows the loop.
-/
namespace RaidProvision

open RaidProvision.Text

variable {α : Type}

/-- A run whose commands all succeeded, if it has a value, and that stopped at the first one that
failed, if it has none. -/
def EndsAtFailure (es : List Exchange) : Except ToolError α → Prop
  | .ok _ => ∀ e ∈ es, e.succeeded = true
  | .error cause => ∃ before failed fault, es = before ++ [failed] ∧
      (∀ e ∈ before, e.succeeded = true) ∧ failed.reply.read failed.command = .error fault ∧
      cause = .execution fault

/-- More commands that succeeded, before the others. -/
theorem EndsAtFailure.append {es : List Exchange} {result : Except ToolError α}
    (h : EndsAtFailure es result) (before : List Exchange)
    (hbefore : ∀ e ∈ before, e.succeeded = true) : EndsAtFailure (before ++ es) result := by
  cases result with
  | ok a =>
    intro e he
    rcases List.mem_append.1 he with he | he
    · exact hbefore e he
    · exact h e he
  | error cause =>
    obtain ⟨others, failed, fault, rfl, hothers, hfault, rfl⟩ := h
    refine ⟨before ++ others, failed, fault, by rw [List.append_assoc], ?_, hfault, rfl⟩
    intro e he
    rcases List.mem_append.1 he with he | he
    · exact hbefore e he
    · exact hothers e he

/-- The last command failed. -/
theorem EndsAtFailure.stopped {failed : Exchange} {fault : ExecutionError}
    (h : failed.reply.read failed.command = .error fault) :
    EndsAtFailure (α := α) [failed] (.error (.execution fault)) :=
  ⟨[], failed, fault, rfl, by simp, h, rfl⟩

theorem EndsAtFailure.map {β : Type} (f : α → β) {es : List Exchange} {result : Except ToolError α}
    (h : EndsAtFailure es result) : EndsAtFailure es (result.map f) := by
  cases result <;> exact h

theorem endsAtFailure_execute (command : Command) (host : Host) :
    EndsAtFailure (Procedure.exchanges (ToolTask.execute command) host)
      (Procedure.run (ToolTask.execute command) host).value := by
  rw [ToolTask.exchanges_execute]
  let e : Exchange := ⟨command, host.reply command⟩
  cases hr : (host.reply command).read command with
  | error fault =>
    rw [ToolTask.value_execute_of_error hr]
    exact .stopped hr
  | ok text =>
    rw [ToolTask.value_execute_of_ok hr]
    exact List.forall_mem_singleton.2 (e.succeeded_iff.2 ⟨text, hr⟩)

/-! ## The loop of both families -/

/-- How a family asks a controller for its drives and deletes them. -/
structure Eraser where
  query : String → Command
  delete : String → Command
  /-- What the answer holds if there are no drives. -/
  mark : String

def Arcconf.eraser (tool : Arcconf) : Eraser where
  query controller := tool.command s!"getconfig {controller} ld"
  delete controller := tool.command s!"delete {controller} LOGICALDRIVE ALL noprompt"
  mark := "No logical devices configured"

def MegaCli.eraser (tool : MegaCli) : Eraser where
  query controller := tool.command s!"-LDInfo -LAll -a{controller}"
  delete controller := tool.command s!"-CfgLdDel -LAll -a{controller}"
  mark := "No Virtual Drive Configured"

namespace Eraser

variable (eraser : Eraser)

/-- Deletes the drives of each controller that has any. Returns on how many it did. -/
def deleteAll : List String → ToolTask Nat
  | [] => pure 0
  | controller :: rest => do
    let report ← ToolTask.execute (eraser.query controller)
    if contains eraser.mark report then deleteAll rest
    else
      let _ ← ToolTask.execute (eraser.delete controller)
      let count ← deleteAll rest
      return count + 1

end Eraser

theorem Arcconf.destroyAll_eq (tool : Arcconf) (controllers : List String) :
    tool.destroyAll controllers = tool.eraser.deleteAll controllers := by
  induction controllers with
  | nil => rfl
  | cons controller rest ih =>
    rw [destroyAll, Eraser.deleteAll, ih]
    rfl

theorem MegaCli.deleteAll_eq (tool : MegaCli) (controllers : List String) :
    tool.deleteAll controllers = tool.eraser.deleteAll controllers := by
  induction controllers with
  | nil => rfl
  | cons controller rest ih =>
    rw [deleteAll, Eraser.deleteAll, ih]
    rfl

/-! ## Visits -/

/-- A query and the deletion that came after it, if one did. -/
structure Visit where
  controller : String
  query : Exchange
  deletion : Option Exchange

namespace Visit

def exchanges (v : Visit) : List Exchange := v.query :: v.deletion.toList

/-- The controller was asked, and its drives were deleted exactly if it answered that it has
some. -/
structure DeletesAsAnswered (v : Visit) (eraser : Eraser) : Prop where
  query_eq : v.query.command = eraser.query v.controller
  deletion_eq : ∀ d, v.deletion = some d → d.command = eraser.delete v.controller
  deletes_iff : v.deletion.isSome ↔ ∃ report, v.query.reply.read v.query.command = .ok report ∧
    ¬ eraser.mark.toList <:+: report.toList

end Visit

/-- What visiting some controllers in order comes to. -/
inductive Swept (eraser : Eraser) : List String → List Visit → Except ToolError Nat → Prop where
  | done : Swept eraser [] [] (.ok 0)
  /-- The query failed. -/
  | unanswered {controller : String} {rest : List String} {query : Exchange}
    {fault : ExecutionError} (hq : query.command = eraser.query controller)
    (hf : query.reply.read query.command = .error fault) :
    Swept eraser (controller :: rest) [⟨controller, query, none⟩] (.error (.execution fault))
  /-- There was nothing to delete. -/
  | spared {controller : String} {rest : List String} {visits : List Visit}
    {result : Except ToolError Nat} {query : Exchange} {report : String}
    (hq : query.command = eraser.query controller)
    (hr : query.reply.read query.command = .ok report) (hm : contains eraser.mark report = true)
    (h : Swept eraser rest visits result) :
    Swept eraser (controller :: rest) (⟨controller, query, none⟩ :: visits) result
  /-- The deletion failed. -/
  | refused {controller : String} {rest : List String} {query deletion : Exchange}
    {report : String} {fault : ExecutionError} (hq : query.command = eraser.query controller)
    (hr : query.reply.read query.command = .ok report) (hm : contains eraser.mark report = false)
    (hd : deletion.command = eraser.delete controller)
    (hf : deletion.reply.read deletion.command = .error fault) :
    Swept eraser (controller :: rest) [⟨controller, query, some deletion⟩]
      (.error (.execution fault))
  | deleted {controller : String} {rest : List String} {visits : List Visit}
    {result : Except ToolError Nat} {query deletion : Exchange} {report : String}
    (hq : query.command = eraser.query controller)
    (hr : query.reply.read query.command = .ok report) (hm : contains eraser.mark report = false)
    (hd : deletion.command = eraser.delete controller) (hs : deletion.succeeded = true)
    (h : Swept eraser rest visits result) :
    Swept eraser (controller :: rest) (⟨controller, query, some deletion⟩ :: visits)
      (result.map (· + 1))

theorem Eraser.deleteAll_swept (eraser : Eraser) (controllers : List String) (host : Host) :
    ∃ visits, (eraser.deleteAll controllers).exchanges host = visits.flatMap Visit.exchanges ∧
      Swept eraser controllers visits ((eraser.deleteAll controllers).run host).value := by
  induction controllers generalizing host with
  | nil => exact ⟨[], rfl, .done⟩
  | cons controller rest ih =>
    rw [deleteAll]
    let query : Exchange := ⟨eraser.query controller, host.reply (eraser.query controller)⟩
    cases hr : (host.reply (eraser.query controller)).read (eraser.query controller) with
    | error fault =>
      rw [ToolTask.exchanges_execute_bind_of_error _ hr, ToolTask.value_execute_bind_of_error _ hr]
      exact ⟨[⟨controller, query, none⟩], rfl, .unanswered rfl hr⟩
    | ok report =>
      rw [ToolTask.exchanges_execute_bind_of_ok _ hr, ToolTask.value_execute_bind_of_ok _ hr]
      generalize { host with replies := host.replies.tail } = host
      cases hm : contains eraser.mark report with
      | true =>
        obtain ⟨visits, hx, hswept⟩ := ih host
        refine ⟨⟨controller, query, none⟩ :: visits, ?_, .spared rfl hr hm hswept⟩
        rw [if_pos rfl, hx]
        rfl
      | false =>
        rw [if_neg Bool.false_ne_true]
        let deletion : Exchange :=
          ⟨eraser.delete controller, host.reply (eraser.delete controller)⟩
        cases hd : (host.reply (eraser.delete controller)).read (eraser.delete controller) with
        | error fault =>
          rw [ToolTask.exchanges_execute_bind_of_error _ hd,
            ToolTask.value_execute_bind_of_error _ hd]
          exact ⟨[⟨controller, query, some deletion⟩], rfl, .refused rfl hr hm rfl hd⟩
        | ok text =>
          rw [ToolTask.exchanges_execute_bind_of_ok _ hd, ToolTask.value_execute_bind_of_ok _ hd,
            Procedure.exchanges_bind_pure, Procedure.value_bind_pure]
          have hs : deletion.succeeded = true := deletion.succeeded_iff.2 ⟨text, hd⟩
          obtain ⟨visits, hx, hswept⟩ := ih { host with replies := host.replies.tail }
          refine ⟨⟨controller, query, some deletion⟩ :: visits, ?_,
            .deleted rfl hr hm rfl hs hswept⟩
          rw [hx]
          rfl

namespace Swept

variable {eraser : Eraser} {controllers : List String} {visits : List Visit}
  {result : Except ToolError Nat}

theorem deletesAsAnswered (h : Swept eraser controllers visits result) :
    ∀ v ∈ visits, v.DeletesAsAnswered eraser := by
  have hmark {report : String} : ¬ eraser.mark.toList <:+: report.toList ↔
      contains eraser.mark report = false := by
    rw [← contains_iff, Bool.not_eq_true]
  induction h with
  | done => simp
  | unanswered hq hf =>
    rw [List.forall_mem_singleton]
    exact ⟨hq, by simp, by simp [hf]⟩
  | spared hq hr hm _ ih =>
    rw [List.forall_mem_cons]
    exact ⟨⟨hq, by simp, by simp [hr, hmark, hm]⟩, ih⟩
  | refused hq hr hm hd hf =>
    rw [List.forall_mem_singleton]
    exact ⟨hq, by simp [hd], by simp [hr, hmark, hm]⟩
  | deleted hq hr hm hd hs _ ih =>
    rw [List.forall_mem_cons]
    exact ⟨⟨hq, by simp [hd], by simp [hr, hmark, hm]⟩, ih⟩

theorem controllers_prefix (h : Swept eraser controllers visits result) :
    visits.map Visit.controller <+: controllers := by
  induction h with
  | done => exact List.nil_prefix
  | unanswered hq hf => simp
  | spared hq hr hm _ ih => simpa using ih
  | refused hq hr hm hd hf => simp
  | deleted hq hr hm hd hs _ ih => simpa using ih

theorem controllers_eq {count : Nat} (h : Swept eraser controllers visits result)
    (hv : result = .ok count) : visits.map Visit.controller = controllers := by
  induction h generalizing count with
  | done => rfl
  | unanswered hq hf => cases hv
  | spared hq hr hm _ ih => simpa using ih hv
  | refused hq hr hm hd hf => cases hv
  | @deleted _ _ _ result _ _ _ hq hr hm hd hs _ ih =>
    cases result with
    | error cause => cases hv
    | ok before => simpa using ih rfl

theorem count_eq {count : Nat} (h : Swept eraser controllers visits result)
    (hv : result = .ok count) : count = visits.countP (·.deletion.isSome) := by
  induction h generalizing count with
  | done =>
    cases hv
    rfl
  | unanswered hq hf => cases hv
  | spared hq hr hm _ ih => simpa using ih hv
  | refused hq hr hm hd hf => cases hv
  | @deleted _ _ _ result _ _ _ hq hr hm hd hs _ ih =>
    cases result with
    | error cause => cases hv
    | ok before =>
      cases hv
      simpa using ih rfl

theorem endsAtFailure (h : Swept eraser controllers visits result) :
    EndsAtFailure (visits.flatMap Visit.exchanges) result := by
  induction h with
  | done => simp [EndsAtFailure]
  | unanswered hq hf => exact .stopped hf
  | @spared _ _ visits result query report hq hr hm _ ih =>
    have hs : query.succeeded = true := query.succeeded_iff.2 ⟨report, hr⟩
    exact ih.append [query] (by simpa using hs)
  | @refused _ _ query deletion report fault hq hr hm hd hf =>
    have hs : query.succeeded = true := query.succeeded_iff.2 ⟨report, hr⟩
    exact (EndsAtFailure.stopped hf).append [query] (by simpa using hs)
  | @deleted _ _ visits result query deletion report hq hr hm hd hs _ ih =>
    have hquery : query.succeeded = true := query.succeeded_iff.2 ⟨report, hr⟩
    exact (ih.map (· + 1)).append [query, deletion] (by simp [hquery, hs])

end Swept

/-! ## Both families -/

namespace Manager

variable (manager : Manager)

def eraser : Eraser :=
  match manager.family with
  | .arcconf => manager.arcconf.eraser
  | .megacli => manager.megacli.eraser

/-- The command that clears what drives from elsewhere have brought along. -/
def clearForeign : Command := manager.megacli.command "-CfgForeign -Clear -aAll"

/-- What is run after the last visit. -/
def closing : List Command :=
  match manager.family with
  | .arcconf => []
  | .megacli => [manager.clearForeign]

/-- A run that deletes the drives of some controllers. -/
structure Deletes (controllers : List String) (visits : List Visit) (final : List Exchange)
    (es : List Exchange) (result : Except ToolError Nat) : Prop where
  exchanges_eq : es = visits.flatMap Visit.exchanges ++ final
  /-- Drives are deleted right after the query that found some, and nowhere else. -/
  asAnswered : ∀ v ∈ visits, v.DeletesAsAnswered manager.eraser
  in_order : visits.map Visit.controller <+: controllers
  no_clear : ∀ v ∈ visits, ∀ e ∈ v.exchanges, e.command ≠ manager.clearForeign
  final_prefix : final.map Exchange.command <+: manager.closing
  /-- Nothing is cleared before all controllers were visited. -/
  visited_of_final : final ≠ [] → visits.map Visit.controller = controllers
  /-- The first command that fails is the last one, and its error is the result. -/
  ends : EndsAtFailure es result
  completed : ∀ count, result = .ok count → visits.map Visit.controller = controllers ∧
    final.map Exchange.command = manager.closing ∧ count = visits.countP (·.deletion.isSome)

end Manager

theorem Arcconf.eraser_ne_clear (tool : Arcconf) (other : MegaCli) (controller : String) :
    tool.eraser.query controller ≠ other.command "-CfgForeign -Clear -aAll" ∧
      tool.eraser.delete controller ≠ other.command "-CfgForeign -Clear -aAll" := by
  constructor
  all_goals
    intro h
    have hlast := congrArg (List.getLast? ∘ String.toList) (line_injective h)
    simp [String.toList_append, toString, List.getLast?_cons] at hlast

theorem MegaCli.eraser_ne_clear (tool : MegaCli) (controller : String) :
    tool.eraser.query controller ≠ tool.command "-CfgForeign -Clear -aAll" ∧
      tool.eraser.delete controller ≠ tool.command "-CfgForeign -Clear -aAll" := by
  constructor
  all_goals
    intro h
    have hsame := congrArg String.toList (line_injective h)
    simp [String.toList_append, toString] at hsame

/-- No visit clears what drives from elsewhere have brought along. -/
theorem Swept.not_clear {eraser : Eraser} {controllers : List String} {visits : List Visit}
    {result : Except ToolError Nat} (h : Swept eraser controllers visits result)
    {clear : Command} (hclear : ∀ c, eraser.query c ≠ clear ∧ eraser.delete c ≠ clear) :
    ∀ v ∈ visits, ∀ e ∈ v.exchanges, e.command ≠ clear := by
  intro v hv e he
  have hanswered := h.deletesAsAnswered v hv
  rcases List.mem_cons.1 he with rfl | he
  · rw [hanswered.query_eq]
    exact (hclear v.controller).1
  · rw [hanswered.deletion_eq e (Option.mem_toList.1 he)]
    exact (hclear v.controller).2

namespace Manager

variable {manager : Manager} {controllers : List String} {visits : List Visit}

/-- The loop failed, and nothing came after it. -/
theorem Deletes.of_error {cause : ToolError}
    (h : Swept manager.eraser controllers visits (.error cause))
    (hclear : ∀ v ∈ visits, ∀ e ∈ v.exchanges, e.command ≠ manager.clearForeign) :
    manager.Deletes controllers visits [] (visits.flatMap Visit.exchanges) (.error cause) where
  exchanges_eq := (List.append_nil _).symm
  asAnswered := h.deletesAsAnswered
  in_order := h.controllers_prefix
  no_clear := hclear
  final_prefix := List.nil_prefix
  visited_of_final hne := absurd rfl hne
  ends := h.endsAtFailure
  completed _ hv := by cases hv

/-- The loop came to its end, and some last commands after it. -/
theorem Deletes.of_ok {count : Nat} (h : Swept manager.eraser controllers visits (.ok count))
    (hclear : ∀ v ∈ visits, ∀ e ∈ v.exchanges, e.command ≠ manager.clearForeign)
    {final : List Exchange} {result : Except ToolError Nat} (hends : EndsAtFailure final result)
    (hfinal : final.map Exchange.command = manager.closing)
    (hresult : ∀ n, result = .ok n → n = count) :
    manager.Deletes controllers visits final (visits.flatMap Visit.exchanges ++ final) result where
  exchanges_eq := rfl
  asAnswered := h.deletesAsAnswered
  in_order := h.controllers_prefix
  no_clear := hclear
  final_prefix := hfinal ▸ List.prefix_rfl
  visited_of_final _ := h.controllers_eq rfl
  ends := hends.append _ h.endsAtFailure
  completed n hv := ⟨h.controllers_eq rfl, hfinal, (hresult n hv).trans (h.count_eq rfl)⟩

end Manager

namespace Manager

variable {manager : Manager} (controllers : List String) (host : Host)

theorem destroyAll_of_arcconf (h : manager.family = .arcconf) :
    manager.destroyAll controllers = manager.eraser.deleteAll controllers := by
  rw [destroyAll, eraser, h]
  exact manager.arcconf.destroyAll_eq controllers

theorem destroyAll_of_megacli (h : manager.family = .megacli) :
    manager.destroyAll controllers = do
      let count ← manager.eraser.deleteAll controllers
      let _ ← ToolTask.execute manager.clearForeign
      return count := by
  rw [destroyAll, eraser, h]
  change manager.megacli.destroyAll controllers = _
  rw [MegaCli.destroyAll, manager.megacli.deleteAll_eq controllers]
  rfl

theorem eraser_ne_clearForeign (manager : Manager) (controller : String) :
    manager.eraser.query controller ≠ manager.clearForeign ∧
      manager.eraser.delete controller ≠ manager.clearForeign := by
  obtain ⟨family, tools⟩ := manager
  cases family with
  | arcconf => exact Arcconf.eraser_ne_clear ⟨tools.arcconf⟩ ⟨tools.megacli⟩ controller
  | megacli => exact MegaCli.eraser_ne_clear ⟨tools.megacli⟩ controller

theorem exists_deletes_of_arcconf (h : manager.family = .arcconf) :
    ∃ visits final, manager.Deletes controllers visits final
      ((manager.destroyAll controllers).exchanges host)
      ((manager.destroyAll controllers).run host).value := by
  obtain ⟨visits, hx, hswept⟩ := manager.eraser.deleteAll_swept controllers host
  have hclear := hswept.not_clear manager.eraser_ne_clearForeign
  have hclosing : manager.closing = [] := by rw [closing, h]
  refine ⟨visits, [], ?_⟩
  rw [destroyAll_of_arcconf controllers h, hx]
  generalize ((manager.eraser.deleteAll controllers).run host).value = result at hswept
  cases result with
  | error cause => exact .of_error hswept hclear
  | ok count =>
    have hends : EndsAtFailure [] (.ok count : Except ToolError Nat) := by simp [EndsAtFailure]
    rw [← List.append_nil (visits.flatMap Visit.exchanges)]
    exact .of_ok hswept hclear hends hclosing.symm fun n hn => (Except.ok.inj hn).symm

theorem exists_deletes_of_megacli (h : manager.family = .megacli) :
    ∃ visits final, manager.Deletes controllers visits final
      ((manager.destroyAll controllers).exchanges host)
      ((manager.destroyAll controllers).run host).value := by
  obtain ⟨visits, hx, hswept⟩ := manager.eraser.deleteAll_swept controllers host
  have hclear := hswept.not_clear manager.eraser_ne_clearForeign
  have hclosing : manager.closing = [manager.clearForeign] := by rw [closing, h]
  rw [destroyAll_of_megacli controllers h]
  cases hv : ((manager.eraser.deleteAll controllers).run host).value with
  | error cause =>
    rw [hv] at hswept
    rw [Procedure.exchanges_bind_of_error _ hv, Procedure.value_bind_of_error _ hv, hx]
    exact ⟨visits, [], .of_error hswept hclear⟩
  | ok count =>
    rw [hv] at hswept
    rw [Procedure.exchanges_bind_of_ok _ hv, Procedure.value_bind_of_ok _ hv, hx,
      Procedure.exchanges_bind_pure, Procedure.value_bind_pure]
    generalize ((manager.eraser.deleteAll controllers).run host).host = left
    have hends := (endsAtFailure_execute manager.clearForeign left).map fun _ => count
    refine ⟨visits, _, .of_ok hswept hclear hends hclosing.symm fun n hn => ?_⟩
    cases hr : (Procedure.run (ToolTask.execute manager.clearForeign) left).value with
    | error cause =>
      rw [hr] at hn
      cases hn
    | ok text =>
      rw [hr] at hn
      exact (Except.ok.inj hn).symm

/-- Both families ask each controller in order and delete its drives right after it has answered
that it has some. The first command that fails ends the run. If none does, all controllers were
asked and the deletions are counted; MegaCLI then clears once what drives from elsewhere have
brought along, and arcconf never does. -/
theorem destroyAll_visits (manager : Manager) (controllers : List String) (host : Host) :
    ∃ visits final, manager.Deletes controllers visits final
      ((manager.destroyAll controllers).exchanges host)
      ((manager.destroyAll controllers).run host).value := by
  cases h : manager.family with
  | arcconf => exact exists_deletes_of_arcconf controllers host h
  | megacli => exact exists_deletes_of_megacli controllers host h

end Manager
end RaidProvision

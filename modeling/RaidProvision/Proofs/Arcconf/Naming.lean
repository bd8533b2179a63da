import RaidProvision.Proofs.Arcconf.Enumeration
import RaidProvision.Proofs.Manager.Deletion
import RaidProvision.Proofs.Manager.Inventory

/-!
# Which lines name a controller

A line behind the banner names a controller if its first word is `Controller` and its second word is
the id with colons behind it. Nothing asks for an id in front of the colons, so a line that has lost
it names a controller whose id is empty; and what is done on controllers, from the list of their
drives to the deletion of all volumes, is done on this one too.

* `idOfLine_eq_ok_iff_names`: a line and the id that it names.
* `controllerIds_eq_ok_iff_names`, `controllerIds_eq_error_iff`: which lists are read, and which are
  refused for which line.
* `exists_controllerIds_iff_ne_empty`: when the ids that are read are those of controllers.
* `listed_of_mem_physicalDrives`, `listed_of_mem_delete`: every command about a controller has the
  id that a line names.
* `controllerIds_named`: all of this for a list and for the machine that it comes from.
* `controllerIds_nameless`: a list without an id, on which volumes are deleted.
-/
namespace RaidProvision

open RaidProvision.Text RaidProvision.Report

namespace Arcconf

/-! ## Lines -/

/-- A line names a controller: its first word is fixed, and the second one is the id with one or
more colons behind it. -/
def Names (line id : String) : Prop :=
  ∃ (colons : Nat) (rest : List String),
    words line = "Controller" :: (id ++ String.ofList (List.replicate (colons + 1) ':')) :: rest ∧
      id.toList.getLast? ≠ some ':'

theorem idOfLine_eq_ok_iff_names {line id : String} : idOfLine line = .ok id ↔ Names line id := by
  rw [idOfLine_eq_ok]
  constructor
  · rintro ⟨token, rest, hwords, hlast, rfl⟩
    obtain ⟨⟨n, hn⟩, hid⟩ := dropTrailing_eq_iff.1
      (Eq.refl (dropTrailing (· == ':') token.toList))
    obtain _ | colons := n
    · rw [List.replicate_zero, List.append_nil] at hn
      exact absurd hlast (hn ▸ hid)
    · have htoken : token = String.ofList (dropTrailing (· == ':') token.toList) ++
          String.ofList (List.replicate (colons + 1) ':') := by
        rw [← String.toList_inj, String.toList_append, String.toList_ofList, String.toList_ofList]
        exact hn
      exact ⟨colons, rest, htoken ▸ hwords, by rwa [String.toList_ofList]⟩
  · rintro ⟨colons, rest, hwords, hid⟩
    have hdrop : dropTrailing (· == ':') (id.toList ++ List.replicate (colons + 1) ':') =
        id.toList := dropTrailing_eq_iff.2 ⟨⟨_, rfl⟩, hid⟩
    refine ⟨_, rest, hwords, ?_, ?_⟩
    · simp [List.replicate_succ']
    · rw [String.toList_append, String.toList_ofList, hdrop, String.ofList_toList]

/-- No blank stands in an id. -/
theorem Names.not_blank {line id : String} (h : Names line id) :
    ∀ c ∈ id.toList, isBlank c = false := by
  obtain ⟨colons, rest, hwords, -⟩ := h
  have hmem : id ++ String.ofList (List.replicate (colons + 1) ':') ∈ words line := by
    simp [hwords]
  intro c hc
  exact (of_mem_words hmem).2 c (by simp [hc])

theorem idOfLine_eq_error_iff {line : String} {cause : ReportError} :
    idOfLine line = .error cause ↔
      (∀ id, ¬ Names line id) ∧ cause = .badControllerLine (trim line) := by
  simp only [← idOfLine_eq_ok_iff_names]
  have hresult : (∃ id, idOfLine line = .ok id) ∨
      idOfLine line = .error (.badControllerLine (trim line)) := by
    unfold idOfLine
    split
    · split <;> simp
    · exact .inr rfl
  obtain ⟨id, hid⟩ | herror := hresult
  · simp [hid]
  · simp [herror, eq_comm]

/-- A line names one controller at most. -/
theorem Names.unique {line id other : String} (h : Names line id) (hother : Names line other) :
    other = id :=
  Except.ok.inj ((idOfLine_eq_ok_iff_names.2 hother).symm.trans (idOfLine_eq_ok_iff_names.2 h))

/-! ## Lists -/

theorem controllerIds_eq_ok_iff_names {report : String} {ids : List String} :
    controllerIds report = .ok ids ↔ List.Forall₂ Names (detailLines report) ids := by
  rw [controllerIds_eq_ok_iff]
  simp only [idOfLine_eq_ok_iff_names]

theorem controllerIds_eq_error_iff {report : String} {cause : ReportError} :
    controllerIds report = .error cause ↔
      ∃ before line after, detailLines report = before ++ line :: after ∧
        (∀ other ∈ before, ∃ id, Names other id) ∧ (∀ id, ¬ Names line id) ∧
        cause = .badControllerLine (trim line) := by
  change (detailLines report).mapM idOfLine = .error cause ↔ _
  rw [mapM_eq_error_iff]
  simp only [idOfLine_eq_ok_iff_names, idOfLine_eq_error_iff]

theorem exists_names_of_mem {report id : String} {ids : List String}
    (h : controllerIds report = .ok ids) (hid : id ∈ ids) :
    ∃ line ∈ detailLines report, Names line id :=
  exists_of_mem_forall₂ (controllerIds_eq_ok_iff_names.1 h).flip hid

theorem exists_names_of_ok {report line : String} {ids : List String}
    (h : controllerIds report = .ok ids) (hline : line ∈ detailLines report) :
    ∃ id ∈ ids, Names line id :=
  exists_of_mem_forall₂ (controllerIds_eq_ok_iff_names.1 h) hline

theorem mem_controllerIds_iff {report id : String} {ids : List String}
    (h : controllerIds report = .ok ids) :
    id ∈ ids ↔ ∃ line ∈ detailLines report, Names line id := by
  constructor
  · exact exists_names_of_mem h
  · rintro ⟨line, hline, hid⟩
    obtain ⟨other, hother, hnames⟩ := exists_names_of_ok h hline
    exact hid.unique hnames ▸ hother

theorem exists_controllerIds_iff {report : String} :
    (∃ ids, controllerIds report = .ok ids) ↔ ∀ line ∈ detailLines report, ∃ id, Names line id := by
  constructor
  · rintro ⟨ids, h⟩ line hline
    obtain ⟨id, -, hid⟩ := exists_names_of_ok h hline
    exact ⟨id, hid⟩
  · intro hall
    cases h : controllerIds report with
    | ok ids => exact ⟨ids, rfl⟩
    | error cause =>
      obtain ⟨before, line, after, hlines, -, hnone, -⟩ := controllerIds_eq_error_iff.1 h
      obtain ⟨id, hid⟩ := hall line (by simp [hlines])
      exact absurd hid (hnone id)

/-- A list is read exactly if all its lines name controllers with ids that are not empty, unless it
is read and one of the ids is empty. -/
theorem exists_controllerIds_iff_ne_empty {report : String} :
    ((∃ ids, controllerIds report = .ok ids) ↔
        ∀ line ∈ detailLines report, ∃ id, id ≠ "" ∧ Names line id) ↔
      ¬ ((∀ line ∈ detailLines report, ∃ id, Names line id) ∧
        ∃ line ∈ detailLines report, Names line "") := by
  rw [exists_controllerIds_iff]
  constructor
  · rintro h ⟨hall, line, hline, hempty⟩
    obtain ⟨id, hne, hid⟩ := h.1 hall line hline
    exact hne (hempty.unique hid)
  · intro h
    constructor
    · intro hall line hline
      obtain ⟨id, hid⟩ := hall line hline
      refine ⟨id, ?_, hid⟩
      rintro rfl
      exact h ⟨hall, line, hline, hid⟩
    · intro hall line hline
      obtain ⟨id, -, hid⟩ := hall line hline
      exact ⟨id, hid⟩

/-! ## Commands -/

/-- What is asked of a controller that was listed, and what is done on it. -/
inductive Concerns (tool : Arcconf) (id : String) : Command → Prop where
  | drives : Concerns tool id (tool.command (drivesLine id))
  | query : Concerns tool id (tool.eraser.query id)
  | deletion : Concerns tool id (tool.eraser.delete id)

/-- A command that lists the controllers, or that has the id from a line of that list. -/
inductive Listed (tool : Arcconf) (host : Host) (e : Exchange) : Prop where
  | list (he : e = tool.listing host)
  | controller {report line id : String}
    (hreport : (tool.listing host).reply.read (tool.listing host).command = .ok report)
    (hline : line ∈ detailLines report) (hid : Names line id) (hc : tool.Concerns id e.command)

section
variable {tool : Arcconf} {host : Host} {e : Exchange}

/-- Work on controllers is listed if all its commands are about those that it is given. -/
theorem listed_of_mem_bind {α : Type} {work : List String → ToolTask α}
    (hwork : ∀ ids host, ∀ e ∈ Procedure.exchanges (work ids) host,
      ∃ id ∈ ids, tool.Concerns id e.command)
    (he : e ∈ Procedure.exchanges (tool.controllers >>= work) host) : tool.Listed host e := by
  have hvalue := tool.value_controllers host
  cases ho : (tool.listing host).outcome controllerIds with
  | error cause =>
    rw [ho] at hvalue
    rw [Procedure.exchanges_bind_of_error _ hvalue, exchanges_controllers,
      List.mem_singleton] at he
    exact .list he
  | ok ids =>
    rw [ho] at hvalue
    rw [Procedure.exchanges_bind_of_ok _ hvalue, exchanges_controllers, List.mem_append,
      List.mem_singleton] at he
    obtain he | he := he
    · exact .list he
    · obtain ⟨report, hreport, hids⟩ := Exchange.outcome_eq_ok_iff.1 ho
      obtain ⟨id, hid, hc⟩ := hwork ids _ e he
      obtain ⟨line, hline, hnames⟩ := exists_names_of_mem hids hid
      exact .controller hreport hline hnames hc

theorem Polled.exists_concerns {controllers : List String} {polls : List Poll}
    {last : Option Exchange} {result : Except ToolError (List DriveSheet)}
    (h : Polled tool controllers polls last result) :
    ∀ e ∈ polls.map Poll.query ++ last.toList, ∃ id ∈ controllers, tool.Concerns id e.command := by
  induction h with
  | done => simp
  | @failed controller rest query cause hq hf =>
    simpa [hq] using .inl Concerns.drives
  | @answered poll rest polls last result hp _ ih =>
    rw [List.map_cons, List.cons_append]
    refine List.forall_mem_cons.2 ⟨⟨poll.controller, by simp, hp.query_eq ▸ .drives⟩, ?_⟩
    intro e he
    obtain ⟨id, hid, hc⟩ := ih e he
    exact ⟨id, List.mem_cons_of_mem _ hid, hc⟩

theorem listed_of_mem_physicalDrives (he : e ∈ Procedure.exchanges tool.physicalDrives host) :
    tool.Listed host e := by
  refine listed_of_mem_bind ?_ he
  intro ids host e he
  obtain ⟨polls, last, hx, hpolled⟩ := tool.drivesOfAll_polled ids host
  exact hpolled.exists_concerns e (hx ▸ he)

theorem listed_of_mem_delete {tools : ToolPaths}
    (he : e ∈ Procedure.exchanges (Manager.delete ⟨.arcconf, tools⟩) host) :
    Listed ⟨tools.arcconf⟩ host e := by
  refine listed_of_mem_bind ?_ he
  intro ids host e he
  change e ∈ Procedure.exchanges (destroyAll ⟨tools.arcconf⟩ ids >>= fun _ => pure ()) host at he
  rw [Procedure.exchanges_bind_pure, destroyAll_eq] at he
  obtain ⟨visits, hx, hswept⟩ := (eraser ⟨tools.arcconf⟩).deleteAll_swept ids host
  obtain ⟨visit, hvisit, hmem⟩ := List.mem_flatMap.1 (hx ▸ he)
  have hanswered := hswept.deletesAsAnswered visit hvisit
  refine ⟨visit.controller, hswept.controllers_prefix.subset (List.mem_map_of_mem hvisit), ?_⟩
  obtain rfl | hdeletion := List.mem_cons.1 hmem
  · exact hanswered.query_eq ▸ .query
  · exact hanswered.deletion_eq e (Option.mem_toList.1 hdeletion) ▸ .deletion

end

/-- The ids of a list are those that its lines behind the banner name, one for each and in order,
and the list is refused for the first line that names none. No blank stands in an id, but an id is
empty if nothing stands in front of the colons; only because of such lines is a list read of which
not every line names a controller by an id that is not empty. The ids so named are those with which
controllers are asked for their drives and for their volumes, and with which all volumes are
deleted. -/
theorem controllerIds_named (tools : ToolPaths) (report : String) :
    (∀ ids, controllerIds report = .ok ids ↔ List.Forall₂ Names (detailLines report) ids) ∧
    (∀ cause, controllerIds report = .error cause ↔
      ∃ before line after, detailLines report = before ++ line :: after ∧
        (∀ other ∈ before, ∃ id, Names other id) ∧ (∀ id, ¬ Names line id) ∧
        cause = .badControllerLine (trim line)) ∧
    (∀ line id, Names line id → ∀ c ∈ id.toList, isBlank c = false) ∧
    (((∃ ids, controllerIds report = .ok ids) ↔
        ∀ line ∈ detailLines report, ∃ id, id ≠ "" ∧ Names line id) ↔
      ¬ ((∀ line ∈ detailLines report, ∃ id, Names line id) ∧
        ∃ line ∈ detailLines report, Names line "")) ∧
    (∀ ids, controllerIds report = .ok ids →
      ("" ∈ ids ↔ ∃ line ∈ detailLines report, Names line "")) ∧
    ∀ host e, e ∈ Procedure.exchanges (physicalDrives ⟨tools.arcconf⟩) host ∨
        e ∈ Procedure.exchanges (Manager.delete ⟨.arcconf, tools⟩) host →
      Listed ⟨tools.arcconf⟩ host e := by
  refine ⟨fun ids => controllerIds_eq_ok_iff_names, fun cause => controllerIds_eq_error_iff,
    fun line id h => h.not_blank, exists_controllerIds_iff_ne_empty,
    fun ids h => mem_controllerIds_iff h, ?_⟩
  rintro host e (he | he)
  · exact listed_of_mem_physicalDrives he
  · exact listed_of_mem_delete he

/-- A list whose only controller has lost its id. -/
def namelessList : String :=
  "Controllers found: 1\nController information\n   Controller ID : Status, Slot\n" ++
    "   Controller : Optimal, Slot 1\n"

/-- The only line behind the banner has no id, but it is read, and all volumes of a controller whose
name is empty are deleted. -/
theorem controllerIds_nameless :
    let host := Host.ofReplies [.printed namelessList, .printed "Logical Device number 0\n",
      .printed ""]
    controllerIds namelessList = .ok [""] ∧
      ¬ (∀ line ∈ detailLines namelessList, ∃ id, id ≠ "" ∧ Names line id) ∧
      (Procedure.exchanges (Manager.delete ⟨.arcconf, .standard⟩) host).map Exchange.command =
        [command ⟨ToolPaths.standard.arcconf⟩ listArguments,
          command ⟨ToolPaths.standard.arcconf⟩ "getconfig  ld",
          command ⟨ToolPaths.standard.arcconf⟩ "delete  LOGICALDRIVE ALL noprompt"] := by
  have hids : controllerIds namelessList = .ok [""] := by decide +kernel
  refine ⟨hids, ?_, by decide +kernel⟩
  intro hall
  obtain ⟨line, hline, hempty⟩ := exists_names_of_mem hids (List.mem_singleton_self "")
  obtain ⟨id, hne, hid⟩ := hall line hline
  exact hne (hempty.unique hid)

end Arcconf
end RaidProvision

import RaidProvision.Proofs.Arcconf.Enumeration
import RaidProvision.Proofs.Machine.Isolation

/-!
# Taking stock of all controllers or of none

arcconf is asked for the list of the controllers and then for the drives of each of them. A `Poll`
is one of these questions with the drives of its answer; `Polled` says what the questions come to,
with one case for each way in which one can end. Stock is taken of all controllers or, if anything
goes wrong, not at all, and then the machine is not asked for anything else.

* `drivesOfAll_polled`: the questions to some controllers, by induction on them.
* `physicalDrives_stocktakes`: the list first, and then the questions to all that it names.
* `Stocktakes.isOk_iff`: drives come of it exactly if all commands succeeded and could be read.
* `inventory_all_or_nothing`: the same for the inventory of a machine, for both families.
-/
namespace RaidProvision

open RaidProvision.Text RaidProvision.Report

namespace Arcconf

/-! ## The drives of one controller -/

/-- The line that asks a controller for its drives. -/
def drivesLine (controller : String) : String := s!"getconfig {controller} pd"

theorem drivesLine_injective {a b : String} (h : drivesLine a = drivesLine b) : a = b := by
  simpa [drivesLine, String.ext_iff, toString] using h

theorem drivesLine_ne_listArguments (controller : String) :
    drivesLine controller ≠ listArguments := by
  intro h
  have hfirst := congrArg (fun s => s.toList.head?) h
  simp [drivesLine, listArguments, toString] at hfirst

theorem command_injective {tool : Arcconf} {s t : String} (h : tool.command s = tool.command t) :
    s = t := by
  simpa [String.ext_iff] using line_injective h

/-- All drives of a report are those of the controller that was asked. -/
theorem controller_of_mem_drives {controller report : String} {sheets : List DriveSheet}
    (h : drives controller report = .ok sheets) :
    ∀ sheet ∈ sheets, sheet.controller = controller := by
  have hread := mapM_eq_ok_iff.1 h
  clear h
  generalize driveBlocks report = blocks at hread
  induction hread with
  | nil => simp
  | cons hsheet _ ih =>
    refine List.forall_mem_cons.2 ⟨?_, ih⟩
    unfold sheetOf at hsheet
    split at hsheet
    · cases hsheet
    · cases hsheet
      rfl

/-- A controller that was asked for its drives, and the drives of its answer. -/
structure Poll where
  controller : String
  query : Exchange
  sheets : List DriveSheet

/-- The drives are those of the report that this controller gave on itself. -/
structure Poll.Of (tool : Arcconf) (poll : Poll) : Prop where
  query_eq : poll.query.command = tool.command (drivesLine poll.controller)
  gives : poll.query.Gives (drives poll.controller) poll.sheets
  controller_eq : ∀ sheet ∈ poll.sheets, sheet.controller = poll.controller

/-! ## The drives of some controllers -/

/-- What asking some controllers in order comes to: those that answered, the question that ended
it, if one did, and the result. -/
inductive Polled (tool : Arcconf) :
    List String → List Poll → Option Exchange → Except ToolError (List DriveSheet) → Prop where
  | done : Polled tool [] [] none (.ok [])
  | failed {controller : String} {rest : List String} {query : Exchange} {cause : ToolError}
    (hq : query.command = tool.command (drivesLine controller))
    (hf : query.Fails (drives controller) cause) :
    Polled tool (controller :: rest) [] (some query) (.error cause)
  | answered {poll : Poll} {rest : List String} {polls : List Poll} {last : Option Exchange}
    {result : Except ToolError (List DriveSheet)} (hp : poll.Of tool)
    (h : Polled tool rest polls last result) :
    Polled tool (poll.controller :: rest) (poll :: polls) last (result.map (poll.sheets ++ ·))

theorem run_drivesOf (tool : Arcconf) (controller : String) (host : Host) :
    let query : Exchange := ⟨tool.command (drivesLine controller),
      host.reply (tool.command (drivesLine controller))⟩
    Procedure.exchanges (tool.drivesOf controller) host = [query] ∧
      (Procedure.run (tool.drivesOf controller) host).value =
        query.outcome (drives controller) := by
  constructor
  · exact ToolTask.exchanges_executeRead _ (drives controller) host
  · exact congrArg Outcome.value (ToolTask.run_executeRead _ (drives controller) host)

theorem drivesOfAll_polled (tool : Arcconf) (controllers : List String) (host : Host) :
    ∃ polls last, Procedure.exchanges (tool.drivesOfAll controllers) host =
        polls.map Poll.query ++ last.toList ∧
      Polled tool controllers polls last
        (Procedure.run (tool.drivesOfAll controllers) host).value := by
  induction controllers generalizing host with
  | nil => exact ⟨[], none, rfl, .done⟩
  | cons controller rest ih =>
    obtain ⟨hexchanges, hvalue⟩ := tool.run_drivesOf controller host
    generalize hquery : (⟨tool.command (drivesLine controller),
      host.reply (tool.command (drivesLine controller))⟩ : Exchange) = query at hexchanges hvalue
    have hcommand : query.command = tool.command (drivesLine controller) := by rw [← hquery]
    rw [drivesOfAll]
    cases ho : query.outcome (drives controller) with
    | error cause =>
      rw [ho] at hvalue
      rw [Procedure.exchanges_bind_of_error _ hvalue, Procedure.value_bind_of_error _ hvalue,
        hexchanges]
      exact ⟨[], some query, rfl, .failed hcommand (Exchange.outcome_eq_error_iff.1 ho)⟩
    | ok sheets =>
      rw [ho] at hvalue
      have hgives := Exchange.outcome_eq_ok_iff.1 ho
      obtain ⟨text, -, hsheets⟩ := hgives
      rw [Procedure.exchanges_bind_of_ok _ hvalue, Procedure.value_bind_of_ok _ hvalue,
        Procedure.exchanges_bind_pure, Procedure.value_bind_pure, hexchanges]
      obtain ⟨polls, last, hx, hpolled⟩ := ih (Procedure.run (tool.drivesOf controller) host).host
      have hpoll : Poll.Of tool ⟨controller, query, sheets⟩ :=
        ⟨hcommand, Exchange.outcome_eq_ok_iff.1 ho, controller_of_mem_drives hsheets⟩
      refine ⟨⟨controller, query, sheets⟩ :: polls, last, ?_, .answered hpoll hpolled⟩
      rw [hx]
      rfl

namespace Polled

variable {tool : Arcconf} {controllers : List String} {polls : List Poll} {last : Option Exchange}
  {result : Except ToolError (List DriveSheet)}

theorem forall_of (h : Polled tool controllers polls last result) :
    ∀ poll ∈ polls, poll.Of tool := by
  induction h with
  | done => simp
  | failed hq hf => simp
  | answered hp _ ih => exact List.forall_mem_cons.2 ⟨hp, ih⟩

theorem complete {sheets : List DriveSheet} (h : Polled tool controllers polls last result)
    (hv : result = .ok sheets) :
    controllers = polls.map Poll.controller ∧ last = none ∧
      sheets = polls.flatMap Poll.sheets := by
  induction h generalizing sheets with
  | done =>
    cases hv
    exact ⟨rfl, rfl, rfl⟩
  | failed hq hf => cases hv
  | @answered poll rest polls last result hp _ ih =>
    cases result with
    | error cause => cases hv
    | ok before =>
      cases hv
      obtain ⟨rfl, hlast, rfl⟩ := ih rfl
      exact ⟨rfl, hlast, rfl⟩

theorem broken {cause : ToolError} (h : Polled tool controllers polls last result)
    (hv : result = .error cause) :
    ∃ controller rest query, controllers = polls.map Poll.controller ++ controller :: rest ∧
      last = some query ∧ query.command = tool.command (drivesLine controller) ∧
      query.Fails (drives controller) cause := by
  induction h generalizing cause with
  | done => cases hv
  | @failed controller rest query cause hq hf =>
    cases hv
    exact ⟨controller, rest, query, rfl, rfl, hq, hf⟩
  | @answered poll rest polls last result hp _ ih =>
    cases result with
    | ok sheets => cases hv
    | error other =>
      cases hv
      obtain ⟨controller, rest, query, rfl, hlast, hq, hf⟩ := ih rfl
      exact ⟨controller, rest, query, rfl, hlast, hq, hf⟩

end Polled

/-! ## The drives of all controllers -/

/-- What taking stock of all controllers comes to. -/
inductive Stocktakes (tool : Arcconf) :
    List Exchange → Except ToolError (List DriveSheet) → Prop where
  /-- There is no list of the controllers, and nothing else was asked. -/
  | unlisted {list : Exchange} {cause : ToolError}
    (hl : list.command = tool.command listArguments) (hf : list.Fails controllerIds cause) :
    Stocktakes tool [list] (.error cause)
  /-- The controllers of the list were asked in order, up to one that gave no drives. -/
  | broken {list failed : Exchange} {polls : List Poll} {controller : String}
    {rest : List String} {cause : ToolError} (hl : list.command = tool.command listArguments)
    (hg : list.Gives controllerIds (polls.map Poll.controller ++ controller :: rest))
    (hp : ∀ poll ∈ polls, poll.Of tool)
    (hq : failed.command = tool.command (drivesLine controller))
    (hf : failed.Fails (drives controller) cause) :
    Stocktakes tool (list :: (polls.map Poll.query ++ [failed])) (.error cause)
  /-- All controllers of the list were asked, in order, and the drives are those of their answers,
  in the same order. -/
  | complete {list : Exchange} {polls : List Poll} (hl : list.command = tool.command listArguments)
    (hg : list.Gives controllerIds (polls.map Poll.controller))
    (hp : ∀ poll ∈ polls, poll.Of tool) :
    Stocktakes tool (list :: polls.map Poll.query) (.ok (polls.flatMap Poll.sheets))

theorem physicalDrives_stocktakes (tool : Arcconf) (host : Host) :
    tool.Stocktakes (Procedure.exchanges tool.physicalDrives host)
      (Procedure.run tool.physicalDrives host).value := by
  have hvalue := tool.value_controllers host
  have hcommand : (tool.listing host).command = tool.command listArguments := rfl
  rw [physicalDrives]
  cases ho : (tool.listing host).outcome controllerIds with
  | error cause =>
    rw [ho] at hvalue
    rw [Procedure.exchanges_bind_of_error _ hvalue, Procedure.value_bind_of_error _ hvalue,
      exchanges_controllers]
    exact .unlisted hcommand (Exchange.outcome_eq_error_iff.1 ho)
  | ok ids =>
    rw [ho] at hvalue
    have hgives := Exchange.outcome_eq_ok_iff.1 ho
    rw [Procedure.exchanges_bind_of_ok _ hvalue, Procedure.value_bind_of_ok _ hvalue,
      exchanges_controllers]
    obtain ⟨polls, last, hx, hpolled⟩ :=
      tool.drivesOfAll_polled ids (Procedure.run tool.controllers host).host
    rw [hx, List.singleton_append]
    have hpolls := hpolled.forall_of
    cases hv : (Procedure.run (tool.drivesOfAll ids)
        (Procedure.run tool.controllers host).host).value with
    | error cause =>
      obtain ⟨controller, rest, query, rfl, rfl, hq, hf⟩ := hpolled.broken hv
      exact .broken hcommand hgives hpolls hq hf
    | ok sheets =>
      obtain ⟨rfl, rfl, rfl⟩ := hpolled.complete hv
      rw [Option.toList_none, List.append_nil]
      exact .complete hcommand hgives hpolls

/-- A command of stocktaking that succeeded and whose output could be read as what it is. -/
inductive Answered (tool : Arcconf) (e : Exchange) : Prop where
  | list {ids : List String} (hc : e.command = tool.command listArguments)
    (hg : e.Gives controllerIds ids)
  | drives {controller : String} {sheets : List DriveSheet}
    (hc : e.command = tool.command (drivesLine controller))
    (hg : e.Gives (drives controller) sheets)

section
variable {tool : Arcconf} {e : Exchange} {cause : ToolError}

theorem not_answered_of_listing (hc : e.command = tool.command listArguments)
    (hf : e.Fails controllerIds cause) : ¬ tool.Answered e := by
  rintro (⟨-, hg⟩ | ⟨hc', -⟩)
  · exact hg.not_fails cause hf
  · exact drivesLine_ne_listArguments _ (command_injective (hc'.symm.trans hc))

theorem not_answered_of_drives {controller : String}
    (hc : e.command = tool.command (drivesLine controller))
    (hf : e.Fails (Arcconf.drives controller) cause) : ¬ tool.Answered e := by
  rintro (⟨hc', -⟩ | ⟨hc', hg⟩)
  · exact drivesLine_ne_listArguments _ (command_injective (hc.symm.trans hc'))
  · obtain rfl := drivesLine_injective (command_injective (hc.symm.trans hc'))
    exact hg.not_fails cause hf

end

namespace Stocktakes

variable {tool : Arcconf} {es : List Exchange} {result : Except ToolError (List DriveSheet)}

theorem isOk_iff (h : tool.Stocktakes es result) :
    (∃ sheets, result = .ok sheets) ↔ ∀ e ∈ es, tool.Answered e := by
  cases h with
  | unlisted hl hf => simp [not_answered_of_listing hl hf]
  | broken hl hg hp hq hf => simp [not_answered_of_drives hq hf]
  | complete hl hg hp =>
    refine iff_of_true ⟨_, rfl⟩ (List.forall_mem_cons.2 ⟨.list hl hg, ?_⟩)
    rintro e he
    obtain ⟨poll, hpoll, rfl⟩ := List.mem_map.1 he
    exact .drives (hp poll hpoll).query_eq (hp poll hpoll).gives

/-- Nothing but the tool is run. -/
theorem exists_command (h : tool.Stocktakes es result) :
    ∀ e ∈ es, ∃ arguments, e.command = tool.command arguments := by
  have hpolls {polls : List Poll} (hp : ∀ poll ∈ polls, poll.Of tool) :
      ∀ e ∈ polls.map Poll.query, ∃ arguments, e.command = tool.command arguments := by
    rintro e he
    obtain ⟨poll, hpoll, rfl⟩ := List.mem_map.1 he
    exact ⟨_, (hp poll hpoll).query_eq⟩
  cases h with
  | unlisted hl hf => exact List.forall_mem_singleton.2 ⟨_, hl⟩
  | broken hl hg hp hq hf =>
    refine List.forall_mem_cons.2 ⟨⟨_, hl⟩, List.forall_mem_append.2 ⟨hpolls hp, ?_⟩⟩
    exact List.forall_mem_singleton.2 ⟨_, hq⟩
  | complete hl hg hp => exact List.forall_mem_cons.2 ⟨⟨_, hl⟩, hpolls hp⟩

end Stocktakes
end Arcconf

/-! ## Both families -/

/-- No fact is asked for through the shell. -/
theorem Fact.command_ne_line (fact : Fact) (tools : ToolPaths) (text : String) :
    fact.command tools ≠ .line text := by
  intro h
  have harguments := congrArg Command.arguments h
  cases fact <;> simp [Fact.command, ToolPaths.listDevices, ToolPaths.printLan,
    ToolPaths.printSystem, Command.line] at harguments

namespace Manager

variable (manager : Manager) (host : Host)

/-- The drives are asked for through the shell, by both families. -/
theorem exists_line_of_mem_physicalDrives :
    ∀ e ∈ Procedure.exchanges manager.physicalDrives host, ∃ text, e.command = .line text := by
  obtain ⟨family, tools⟩ := manager
  cases family with
  | arcconf =>
    intro e he
    have hrun := (Arcconf.physicalDrives_stocktakes ⟨tools.arcconf⟩ host).exists_command
    obtain ⟨arguments, hc⟩ := hrun e (Procedure.exchanges_bind_pure _ _ host ▸ he)
    exact ⟨_, hc⟩
  | megacli =>
    intro e he
    have hmem : e ∈ Procedure.exchanges (MegaCli.physicalDrives ⟨tools.megacli⟩) host :=
      Procedure.exchanges_bind_pure _ _ host ▸ he
    obtain rfl := List.mem_singleton.1 (ToolTask.exchanges_executeRead _ MegaCli.drives host ▸ hmem)
    exact ⟨_, rfl⟩

/-- If the drives of a machine cannot be had, that is the end of its inventory. -/
theorem inventory_of_error {cause : ToolError}
    (h : (Procedure.run manager.physicalDrives host).value = .error cause) :
    (Procedure.run manager.inventory host).value = .error cause ∧
      Procedure.exchanges manager.inventory host =
        Procedure.exchanges manager.physicalDrives host ∧
      ∀ e ∈ Procedure.exchanges manager.inventory host, ∀ fact : Fact,
        e.command ≠ fact.command manager.tools := by
  have hexchanges : Procedure.exchanges manager.inventory host =
      Procedure.exchanges manager.physicalDrives host := Procedure.exchanges_bind_of_error _ h
  refine ⟨Procedure.value_bind_of_error _ h, hexchanges, ?_⟩
  intro e he fact hfact
  obtain ⟨text, hline⟩ := manager.exists_line_of_mem_physicalDrives host e (hexchanges ▸ he)
  exact fact.command_ne_line manager.tools text (hfact.symm.trans hline)

/-- Stock is taken of all controllers that arcconf lists, in order, and each drive is said to be on
the controller that reported it; or there are no drives at all, and the first command that failed
or could not be read is the last one. On a machine of either family the error is then that of the
inventory, and no fact is asked for. -/
theorem inventory_all_or_nothing (tools : ToolPaths) (host : Host) :
    let stock := Procedure.run (Arcconf.physicalDrives ⟨tools.arcconf⟩) host
    let asked := Procedure.exchanges (Arcconf.physicalDrives ⟨tools.arcconf⟩) host
    Arcconf.Stocktakes ⟨tools.arcconf⟩ asked stock.value ∧
    ((∃ sheets, stock.value = .ok sheets) ↔ ∀ e ∈ asked, Arcconf.Answered ⟨tools.arcconf⟩ e) ∧
    (Procedure.run (physicalDrives ⟨.arcconf, tools⟩) host).value =
      stock.value.map (List.map .sheet) ∧
    Procedure.exchanges (physicalDrives ⟨.arcconf, tools⟩) host = asked ∧
    ∀ (family : Family) (cause : ToolError),
      (Procedure.run (physicalDrives ⟨family, tools⟩) host).value = .error cause →
      (Procedure.run (inventory ⟨family, tools⟩) host).value = .error cause ∧
        Procedure.exchanges (inventory ⟨family, tools⟩) host =
          Procedure.exchanges (physicalDrives ⟨family, tools⟩) host ∧
        ∀ e ∈ Procedure.exchanges (inventory ⟨family, tools⟩) host, ∀ fact : Fact,
          e.command ≠ fact.command tools := by
  intro stock asked
  have hstock := Arcconf.physicalDrives_stocktakes ⟨tools.arcconf⟩ host
  refine ⟨hstock, hstock.isOk_iff, Procedure.value_bind_pure _ _ host,
    Procedure.exchanges_bind_pure _ _ host, ?_⟩
  intro family cause h
  exact inventory_of_error ⟨family, tools⟩ host h

/-- A machine with two controllers, of which the first one has no drives and the second one does not
answer. -/
def halfGone : Host :=
  .ofReplies [.printed "\n\n\nController 1:\nController 2:\n",
    .printed "No physical devices\n", .ended (.exited 1) [] []]

theorem inventory_all_or_nothing_halfGone :
    ∃ cause, (Procedure.run (physicalDrives ⟨.arcconf, .standard⟩) halfGone).value =
        .error cause ∧
      (Procedure.run (inventory ⟨.arcconf, .standard⟩) halfGone).value = .error cause := by
  have hfails : (Procedure.run (physicalDrives ⟨.arcconf, .standard⟩)
      halfGone).value.toOption.isNone = true := by
    decide +kernel
  cases h : (Procedure.run (physicalDrives ⟨.arcconf, .standard⟩) halfGone).value with
  | ok drives => simp [h, Except.toOption] at hfails
  | error cause =>
    have hall := (inventory_all_or_nothing .standard halfGone).2.2.2.2 .arcconf cause h
    exact ⟨cause, rfl, hall.1⟩

end Manager
end RaidProvision

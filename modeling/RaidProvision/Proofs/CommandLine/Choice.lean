import RaidProvision.Proofs.CommandLine.Preparation
import RaidProvision.Proofs.CommandLine.Spelling
import RaidProvision.Proofs.Manager.Choice

/-!
# The manager that is chosen

When no family is asked for, both are probed and the first one with a controller is used. What
follows is what the program does when it is told the family, on the replies that are left: the
preparation takes none of them (`commands_prepare`), and the probes take one each.

* `run_withManager_auto_of_none`, `run_withManager_auto_of_some`: the choice and then the job.
* `run_program_of_prepare_error`, `run_program_of_prepare_ok`: the preparation and then the rest.
* `run_auto_of_none`, `run_auto_of_some`: the two together.
* `auto_follows_chosen`: the whole program.
-/
namespace RaidProvision

/-- A script in a procedure does not fail. -/
theorem Procedure.run_lift {ε α : Type} (s : Script α) (host : Host) :
    Procedure.run (s : Procedure ε α) host =
      ⟨.ok (s.run host).value, (s.run host).transcript, (s.run host).host⟩ := by
  show (s.bind fun a => Script.done (Except.ok a)).run host = _
  simp only [Script.run_bind, Script.run_done, List.append_nil]

theorem Procedure.run_throw {ε α : Type} (cause : ε) (host : Host) :
    Procedure.run (throw cause : Procedure ε α) host = ⟨.error cause, [], host⟩ := rfl

namespace Outcome

variable {α : Type} (value : α) (host : Host)

theorem commands_append (before after : List Request) :
    (mk value (before ++ after) host).commands =
      (mk value before host).commands ++ (mk value after host).commands :=
  List.filterMap_append

theorem commands_map_run (commands : List Command) :
    (mk value (commands.map .run) host).commands = commands := by
  unfold Outcome.commands
  rw [List.filterMap_map]
  exact List.filterMap_some

/-- Commands print nothing. -/
theorem printed_map_run {before after : List Request} (commands : List Command) :
    (mk value (before ++ (commands.map .run ++ after)) host).printed =
      (mk value (before ++ after) host).printed := by
  induction commands with
  | nil => rfl
  | cons command rest ih =>
    rw [← ih]
    simp only [Outcome.printed, List.map_cons, List.cons_append, List.filterMap_append,
      List.filterMap_cons]

end Outcome

namespace CommandLine

theorem run_managerFor_auto (tools : ToolPaths) (host : Host) :
    Procedure.run (managerFor tools .auto) host =
      ⟨match Manager.first? (managers tools) host with
        | some manager => .ok manager
        | none => .error .noController,
        ((managers tools).map Manager.probe).map .run,
        host.withReplies (host.replies.drop 2)⟩ := by
  have hlength : (managers tools).length = 2 := rfl
  rw [managerFor, Procedure.run_bind, Procedure.run_lift, Manager.run_dispatch, hlength]
  dsimp only
  cases Manager.first? (managers tools) host with
  | none => simp [Procedure.run_throw]
  | some manager => simp

section
variable {α : Type} {tools : ToolPaths} (job : Manager → Job α) {host : Host}

theorem run_withManager_auto_of_none (h : Manager.first? (managers tools) host = none) :
    Procedure.run (withManager tools .auto job) host =
      ⟨.error .noController, ((managers tools).map Manager.probe).map .run,
        host.withReplies (host.replies.drop 2)⟩ := by
  rw [withManager, Procedure.run_bind, run_managerFor_auto, h]

theorem run_withManager_auto_of_some {family : Family}
    (h : Manager.first? (managers tools) host = some ⟨family, tools⟩) :
    Procedure.run (withManager tools .auto job) host =
      let rest := Procedure.run (withManager tools (.only family) job)
        (host.withReplies (host.replies.drop 2))
      ⟨rest.value, ((managers tools).map Manager.probe).map .run ++ rest.transcript,
        rest.host⟩ := by
  rw [withManager, Procedure.run_bind, run_managerFor_auto, h, withManager_only]

end

/-! ## Two runs of the program -/

/-- How a run of the program ends, after what it was asked for. -/
def ended (o : Outcome (Except Failure Unit)) : Outcome Ending :=
  ⟨endingOf o.value, o.transcript, o.host⟩

theorem run_program (directory : Option String) {arguments : List String} {invocation : Invocation}
    (h : Invocation.ofArguments arguments = .ok invocation) (host : Host) :
    (program directory arguments).run host =
      ended (Procedure.run (invocation.perform directory) host) := by
  have hprogram : program directory arguments =
      (invocation.perform directory).script.bind fun result => .done (endingOf result) := by
    simp only [program, h]
  rw [hprogram, Script.run_bind]
  simp only [Script.run_done, List.append_nil]
  rfl

/-- One run does the same as another one, but for some commands that it runs before. -/
structure SameAfter (before : List Command) (whole rest : Outcome Ending) : Prop where
  commands : whole.commands = before ++ rest.commands
  printed : whole.printed = rest.printed
  value : whole.value = rest.value
  host : whole.host = rest.host

/-- Commands between two parts of a run, where the first part runs none. -/
theorem sameAfter_ended {before after : List Request} {value : Except Failure Unit} {left : Host}
    (hbefore : (Outcome.mk value before left).commands = []) (commands : List Command) :
    SameAfter commands (ended ⟨value, before ++ (commands.map .run ++ after), left⟩)
      (ended ⟨value, before ++ after, left⟩) where
  commands := by
    have hquiet : (Outcome.mk (endingOf value) before left).commands = [] := hbefore
    simp only [ended, Outcome.commands_append, Outcome.commands_map_run, hquiet, List.nil_append]
  printed := Outcome.printed_map_run _ _ commands
  value := rfl
  host := rfl

section
variable {directory : Option String} {arguments : List String} {invocation : Invocation}
  {host : Host}

/-- The program prepares and then does the job of the manager. -/
theorem run_program_managed (harguments : Invocation.ofArguments arguments = .ok invocation)
    (hmanaged : invocation.action.Managed) :
    (program directory arguments).run host =
      ended (Procedure.run (invocation.prepare directory >>= fun prepared =>
        withManager prepared.1.tools invocation.vendor prepared.2) host) := by
  rw [run_program directory harguments, perform_eq_prepare_bind directory hmanaged]

/-- If the preparation fails, so does the program. -/
theorem run_program_of_prepare_error
    (harguments : Invocation.ofArguments arguments = .ok invocation)
    (hmanaged : invocation.action.Managed) {failure : Failure}
    (h : (Procedure.run (invocation.prepare directory) host).value = .error failure) :
    ((program directory arguments).run host).commands = [] ∧
      ((program directory arguments).run host).value = endingOf (.error failure) := by
  rw [run_program_managed harguments hmanaged, Procedure.run_bind]
  simp only [h]
  exact ⟨commands_prepare directory invocation host, rfl⟩

variable {settings : Settings} {job : Manager → Job Unit}

/-- After the preparation the manager does its job. -/
theorem run_program_of_prepare_ok (harguments : Invocation.ofArguments arguments = .ok invocation)
    (hmanaged : invocation.action.Managed)
    (h : (Procedure.run (invocation.prepare directory) host).value = .ok (settings, job)) :
    (program directory arguments).run host =
      let before := Procedure.run (invocation.prepare directory) host
      let after := Procedure.run (withManager settings.tools invocation.vendor job) before.host
      ended ⟨after.value, before.transcript ++ after.transcript, after.host⟩ := by
  rw [run_program_managed harguments hmanaged, Procedure.run_bind]
  simp only [h]

/-- Without a controller the program fails after its probes. -/
theorem run_auto_of_none (harguments : Invocation.ofArguments arguments = .ok invocation)
    (hmanaged : invocation.action.Managed) (hauto : invocation.vendor = .auto)
    (h : (Procedure.run (invocation.prepare directory) host).value = .ok (settings, job))
    (hnone : Manager.first? (managers settings.tools) host = none) :
    ((program directory arguments).run host).commands =
        (managers settings.tools).map Manager.probe ∧
      ((program directory arguments).run host).value = endingOf (.error .noController) := by
  have hquiet := commands_prepare directory invocation host
  obtain ⟨-, hreplies⟩ := Procedure.run_withReplies _ hquiet []
  have hchoice := run_withManager_auto_of_none job ((Manager.first?_congr hreplies).trans hnone)
  rw [run_program_of_prepare_ok harguments hmanaged h, hauto]
  simp only [hchoice]
  refine ⟨?_, rfl⟩
  simp only [ended, Outcome.commands_append, Outcome.commands_map_run]
  exact congrArg (· ++ (managers settings.tools).map Manager.probe) hquiet

/-- With one, it goes on as if it had been told the family. -/
theorem run_auto_of_some (harguments : Invocation.ofArguments arguments = .ok invocation)
    (hmanaged : invocation.action.Managed) (hauto : invocation.vendor = .auto)
    (h : (Procedure.run (invocation.prepare directory) host).value = .ok (settings, job))
    {family : Family}
    (hsome : Manager.first? (managers settings.tools) host = some ⟨family, settings.tools⟩)
    {explicit : List String} (hexplicit : Invocation.ofArguments explicit =
      .ok { invocation with vendor := .only family }) :
    SameAfter ((managers settings.tools).map Manager.probe) ((program directory arguments).run host)
      ((program directory explicit).run (host.withReplies (host.replies.drop 2))) := by
  have hquiet := commands_prepare directory invocation host
  obtain ⟨hagain, hreplies⟩ := Procedure.run_withReplies _ hquiet (host.replies.drop 2)
  -- The settings and the log do not depend on the manager that is asked for.
  have hsame : Procedure.run (Invocation.prepare directory
      { invocation with vendor := .only family }) (host.withReplies (host.replies.drop 2)) =
        ⟨.ok (settings, job), (Procedure.run (invocation.prepare directory) host).transcript,
          (Procedure.run (invocation.prepare directory) host).host.withReplies
            (host.replies.drop 2)⟩ := by
    rw [← h]
    exact hagain
  have hchoice := run_withManager_auto_of_some job ((Manager.first?_congr hreplies).trans hsome)
  rw [hreplies] at hchoice
  rw [run_program_of_prepare_ok harguments hmanaged h,
    run_program_of_prepare_ok hexplicit hmanaged (congrArg Outcome.value hsame), hsame, hauto]
  simp only [hchoice]
  exact sameAfter_ended hquiet _

end

/-- A run that is told no family, for an action that needs a manager. If the settings or the record
are not accepted, or the log cannot be opened, it fails and runs no command. Else it runs the probe
of arcconf and then that of MegaCLI, whatever they reply. If neither reply shows a controller it
fails and runs nothing else. If one does, it goes on exactly as the run that is told the family, on
the replies that are left; the family is arcconf whenever its probe shows a controller, and MegaCLI
when that of arcconf does not and its own does. There are arguments that tell it. -/
theorem auto_follows_chosen (directory : Option String) {arguments : List String}
    {invocation : Invocation} (harguments : Invocation.ofArguments arguments = .ok invocation)
    (hauto : invocation.vendor = .auto) (hmanaged : invocation.action.Managed) (host : Host) :
    let whole := (program directory arguments).run host
    (∀ failure, (Procedure.run (invocation.prepare directory) host).value = .error failure →
      whole.commands = [] ∧ whole.value = endingOf (.error failure)) ∧
    ∀ settings job,
      (Procedure.run (invocation.prepare directory) host).value = .ok (settings, job) →
      let arcconf : Manager := ⟨.arcconf, settings.tools⟩
      let megacli : Manager := ⟨.megacli, settings.tools⟩
      let first := host.reply arcconf.probe
      let second := (host.withReplies host.replies.tail).reply megacli.probe
      (¬ arcconf.ShowsController first → ¬ megacli.ShowsController second →
        whole.commands = [arcconf.probe, megacli.probe] ∧
          whole.value = endingOf (.error .noController)) ∧
      ∀ family, (family = .arcconf ∧ arcconf.ShowsController first ∨
          family = .megacli ∧ ¬ arcconf.ShowsController first ∧ megacli.ShowsController second) →
        (∃ explicit, Invocation.ofArguments explicit =
          .ok { invocation with vendor := .only family }) ∧
        ∀ explicit, Invocation.ofArguments explicit =
            .ok { invocation with vendor := .only family } →
          SameAfter [arcconf.probe, megacli.probe] whole
            ((program directory explicit).run (host.withReplies (host.replies.drop 2))) := by
  intro whole
  refine ⟨fun failure h => run_program_of_prepare_error harguments hmanaged h, ?_⟩
  intro settings job h arcconf megacli first second
  have hfirst : Manager.first? (managers settings.tools) host =
      if arcconf.finds first then some arcconf
      else if megacli.finds second then some megacli else none := rfl
  constructor
  · intro hnot hnot'
    rw [← Manager.finds_iff] at hnot hnot'
    rw [if_neg hnot, if_neg hnot'] at hfirst
    exact run_auto_of_none harguments hmanaged hauto h hfirst
  · intro family hfamily
    have hchosen : Manager.first? (managers settings.tools) host =
        some ⟨family, settings.tools⟩ := by
      rcases hfamily with ⟨rfl, hshows⟩ | ⟨rfl, hnot, hshows⟩
      · rw [hfirst, if_pos ((arcconf.finds_iff first).2 hshows)]
      · rw [← Manager.finds_iff] at hnot
        rw [hfirst, if_neg hnot, if_pos ((megacli.finds_iff second).2 hshows)]
    have hsayable := sayable_of_ofArguments harguments
    refine ⟨exists_ofArguments_iff.2 ⟨hsayable.config, hsayable.record⟩, ?_⟩
    exact fun explicit => run_auto_of_some harguments hmanaged hauto h hchosen

/-- A machine where only MegaCLI counts a controller. -/
def secondOnly : Host :=
  .ofReplies [.printed "Controllers found: 0\n", .printed "Controller Count: 1.\n"]

theorem auto_follows_chosen_secondOnly :
    SameAfter [.line "/opt/arcconf/cmdline/arcconf list | grep Controller",
        .line "/opt/MegaRAID/MegaCli/MegaCli64 -adpCount | grep Controller"]
      ((program none ["delete"]).run secondOnly)
      ((program none ["--vendor", "megacli", "delete"]).run (secondOnly.withReplies [])) := by
  have harguments : Invocation.ofArguments ["delete"] = .ok ⟨none, .auto, none, .delete⟩ := rfl
  obtain ⟨-, hprepared⟩ := auto_follows_chosen none harguments rfl .delete secondOnly
  obtain ⟨-, hchosen⟩ := hprepared .standard deleteDrives rfl
  have hnot : ¬ Manager.ShowsController ⟨.arcconf, .standard⟩
      (.printed "Controllers found: 0\n") := by
    rw [← Manager.finds_iff]
    decide +kernel
  have hshows : Manager.ShowsController ⟨.megacli, .standard⟩
      (.printed "Controller Count: 1.\n") := by
    rw [← Manager.finds_iff]
    decide +kernel
  exact (hchosen .megacli (.inr ⟨rfl, hnot, hshows⟩)).2 ["--vendor", "megacli", "delete"] rfl

end CommandLine
end RaidProvision

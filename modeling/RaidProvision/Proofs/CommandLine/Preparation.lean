import RaidProvision.CommandLine.Program
import RaidProvision.Proofs.Session.Quiet

/-!
# Before a tool runs

Every action that needs a manager begins in the same way, whichever manager is asked for: the
settings are read, the log is opened, and the record of a layout is read if there is one. No command
is run for that. What comes after it is the job of a manager.

* `quiet_readSettings`, `quiet_openLog`: reading the settings and opening the log, on hosts of a
  kind that does not change by it (`Kept`).
* `Invocation.prepare`, `perform_eq_prepare_bind`: an invocation is its preparation and then the job
  of the manager to use.
* `commands_prepare`: the preparation runs no command.
-/
namespace RaidProvision.CommandLine

open RaidProvision.Text

/-! ## Settings and log -/

/-- A kind of hosts that the program does not leave before a tool runs: when it writes the standard
settings or opens its log. -/
structure Kept (I : Host → Prop) : Prop where
  settings : ∀ host path, I host → I (host.answer (.replaceFile path Settings.standardFile)).2
  log : ∀ host path, I host → I (host.answer (.appendFile path)).2

variable {I : Host → Prop}

theorem quiet_readFile (path : String) :
    Script.Quiet I (fun _ => True) (Script.request (.readFile path)) :=
  Script.quiet_request (by simp) fun _ h => ⟨h, trivial⟩

theorem quiet_fromFile (path : String) :
    Script.Quiet I (fun _ => True) (Settings.fromFile path) :=
  (quiet_readFile path).bind fun _ _ => Script.quiet_done trivial

theorem quiet_load (hI : Kept I) (place : Option String) :
    Script.Quiet I (fun _ => True) (Settings.load place) := by
  cases place with
  | none => exact Script.quiet_done trivial
  | some path =>
    refine (quiet_fromFile path).bind fun result _ => ?_
    cases result with
    | ok settings => exact Script.quiet_done trivial
    | error cause =>
      have hreplace : Script.Quiet I (fun _ => True)
          (Script.request (.replaceFile path Settings.standardFile)) :=
        Script.quiet_request (by simp) fun host h => ⟨hI.settings host path h, trivial⟩
      exact hreplace.bind fun _ _ => Script.quiet_done trivial

theorem quiet_readSettings (hI : Kept I) (named place : Option String) :
    Procedure.Quiet I (fun _ => True) (readSettings named place) := by
  cases named with
  | none => exact Procedure.quiet_lift (quiet_load hI place) fun _ _ => trivial
  | some path =>
    refine Procedure.quiet_lift_bind (quiet_fromFile path) fun result _ => ?_
    split
    case h_1 => exact Procedure.quiet_pure trivial
    case h_2 => exact Procedure.quiet_throw trivial
    case h_3 => exact Procedure.quiet_throw trivial

theorem quiet_openLog (hI : Kept I) (log : Logging) (level : Option String) :
    Procedure.Quiet I (fun _ => True) (openLog log level) := by
  unfold openLog
  by_cases hname : levelNames.any (sameFold (level.getD log.level)) = true
  case neg =>
    simp only [if_neg hname]
    exact Procedure.quiet_throw trivial
  simp only [if_pos hname]
  cases log.path with
  | none => exact Procedure.quiet_pure trivial
  | some path =>
    have happend : Script.Quiet I (fun _ => True) (Script.request (.appendFile path)) :=
      Script.quiet_request (by simp) fun host h => ⟨hI.log host path h, trivial⟩
    refine Procedure.quiet_lift_bind happend fun result _ => ?_
    split
    case h_1 => exact Procedure.quiet_pure trivial
    case h_2 => exact Procedure.quiet_throw trivial

/-! ## The job of a manager -/

/-- Actions that need a manager. -/
inductive Action.Managed : Action → Prop where
  | inventory (json : Bool) : Managed (.inventory json)
  | create (record : String) : Managed (.create record)
  | delete : Managed .delete
  | cleanSteps : Managed .cleanSteps

/-- What an action has a manager do. The record of a layout is read before. -/
def Action.job : Action → Job (Manager → Job Unit)
  | .inventory json => pure (printInventory json)
  | .create record => do
    let node ← readRecord record
    return createLayout node
  | .delete => pure deleteDrives
  | .cleanSteps => pure fun _ => printValue (.array (CleanStep.all.map CleanStep.toValue))
  | _ => pure fun _ => pure ()

/-- What an invocation does before it looks for a manager: the settings it reads, and what the
manager will have to do. -/
def Invocation.prepare (directory : Option String) (invocation : Invocation) :
    Job (Settings × (Manager → Job Unit)) := do
  let settings ← readSettings invocation.config (directory.map Settings.standardPlace)
  openLog settings.log invocation.logLevel
  let job ← invocation.action.job
  return (settings, job)

/-- An invocation that needs a manager is its preparation and then the job of the manager. -/
theorem perform_eq_prepare_bind (directory : Option String) {invocation : Invocation}
    (h : invocation.action.Managed) :
    invocation.perform directory = invocation.prepare directory >>= fun prepared =>
      withManager prepared.1.tools invocation.vendor prepared.2 := by
  unfold Invocation.perform Invocation.prepare
  cases haction : invocation.action with
  | inventory json => simp [Action.job, Action.perform]
  | create record => simp [Action.job, Action.perform]
  | delete => simp [Action.job, Action.perform]
  | cleanSteps => simp [Action.job, Action.perform]
  | _ =>
    rw [haction] at h
    cases h

theorem kept_true : Kept fun _ => True := ⟨fun _ _ _ => trivial, fun _ _ _ => trivial⟩

theorem quiet_job (action : Action) :
    Procedure.Quiet (fun _ => True) (fun _ => True) action.job := by
  cases action with
  | create record =>
    have hread : Procedure.Quiet (fun _ => True) (fun _ => True) (readRecord record) := by
      refine Procedure.quiet_lift_bind (quiet_readFile record) fun answer _ => ?_
      split
      case h_1 => exact Procedure.quiet_throw trivial
      case h_2 =>
        split
        case h_1 => exact Procedure.quiet_throw trivial
        case h_2 => exact Procedure.quiet_pure trivial
    exact hread.bind (fun _ _ => Procedure.quiet_pure trivial) fun _ _ => trivial
  | _ => exact Procedure.quiet_pure trivial

/-- The preparation runs no command. -/
theorem commands_prepare (directory : Option String) (invocation : Invocation) (host : Host) :
    (Procedure.run (invocation.prepare directory) host).commands = [] := by
  have hquiet : Procedure.Quiet (fun _ => True) (fun _ => True) (invocation.prepare directory) := by
    refine (quiet_readSettings kept_true _ _).bind (fun settings _ => ?_) fun _ _ => trivial
    refine (quiet_openLog kept_true _ _).bind (fun _ _ => ?_) fun _ _ => trivial
    refine (quiet_job _).bind (fun _ _ => ?_) fun _ _ => trivial
    exact Procedure.quiet_pure trivial
  exact (hquiet host trivial).1

end RaidProvision.CommandLine

import RaidProvision.Report.Error
import RaidProvision.Session.Host

/-!
# Tasks (raidmgr specification §7)

A `Procedure` is a script that may stop with an error. A `ToolTask` is one that runs tools and reads
their output: it stops at the first command that fails and at the first output that cannot be read.

* `Procedure.run_bind`: a procedure in two parts is run one part after the other, the second only if
  the first did not fail.
-/
namespace RaidProvision

/-- Why a task stopped (§7). -/
inductive ToolError where
  | execution (cause : ExecutionError)
  | report (cause : ReportError)
  deriving DecidableEq, Repr

def ToolError.message : ToolError → String
  | .execution cause => "execution error: " ++ cause.message
  | .report cause => cause.message

/-- A script that may stop with an error. -/
abbrev Procedure (ε α : Type) := ExceptT ε Script α

namespace Procedure

variable {ε δ α β : Type}

/-- The script of a procedure. -/
def script (p : Procedure ε α) : Script (Except ε α) := ExceptT.run p

/-- Goes on with a result. -/
def ofResult (result : Except ε α) : Procedure ε α := ExceptT.mk (Script.done result)

/-- A procedure with its error given another form. -/
def mapFailure (f : ε → δ) (p : Procedure ε α) : Procedure δ α :=
  ExceptT.mk (p.script.bind fun result => Script.done (result.mapError f))

/-- Runs a command for its output. -/
def execute (command : Command) : Procedure ExecutionError String :=
  ExceptT.mk (Script.execute command)

/-- Runs a procedure on a host. -/
def run (p : Procedure ε α) (host : Host) : Outcome (Except ε α) := p.script.run host

theorem run_bind (p : Procedure ε α) (k : α → Procedure ε β) (host : Host) :
    Procedure.run (p >>= k) host =
      let first := p.run host
      match first.value with
      | .error e => ⟨.error e, first.transcript, first.host⟩
      | .ok a =>
        let second := (k a).run first.host
        { second with transcript := first.transcript ++ second.transcript } := by
  simp only [run, script, Bind.bind, ExceptT.bind, ExceptT.run, ExceptT.mk]
  rw [Script.run_bind]
  generalize Script.run p host = o
  obtain ⟨v, t, h⟩ := o
  cases v with
  | error e => simp [ExceptT.bindCont, Pure.pure]
  | ok a => simp [ExceptT.bindCont]

@[simp]
theorem run_pure (a : α) (host : Host) :
    Procedure.run (pure a : Procedure ε α) host = ⟨.ok a, [], host⟩ := rfl

@[simp]
theorem run_ofResult (result : Except ε α) (host : Host) :
    (ofResult result).run host = ⟨result, [], host⟩ := rfl

@[simp]
theorem run_execute (command : Command) (host : Host) :
    (execute command).run host =
      ⟨(host.reply command).read command, [.run command],
        { host with replies := host.replies.tail }⟩ := rfl

@[simp]
theorem run_mapFailure (f : ε → δ) (p : Procedure ε α) (host : Host) :
    (mapFailure f p).run host =
      ⟨(p.run host).value.mapError f, (p.run host).transcript, (p.run host).host⟩ := by
  simp only [run, mapFailure, script, ExceptT.run, ExceptT.mk, Script.run_bind, Script.run_done,
    List.append_nil]

end Procedure

/-- A procedure that runs tools and reads reports. -/
abbrev ToolTask (α : Type) := Procedure ToolError α

namespace ToolTask

variable {α : Type}

/-- Runs a command for its output. -/
def execute (command : Command) : ToolTask String :=
  Procedure.mapFailure .execution (Procedure.execute command)

/-- Goes on with what was read from a report. -/
def read (result : Except ReportError α) : ToolTask α :=
  Procedure.ofResult (result.mapError .report)

@[simp]
theorem run_execute (command : Command) (host : Host) :
    Procedure.run (execute command) host =
      ⟨((host.reply command).read command).mapError .execution, [.run command],
        { host with replies := host.replies.tail }⟩ := rfl

@[simp]
theorem run_read (result : Except ReportError α) (host : Host) :
    Procedure.run (read result) host = ⟨result.mapError .report, [], host⟩ := rfl

end ToolTask
end RaidProvision

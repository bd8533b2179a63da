import RaidProvision.Manager.Basic
import RaidProvision.Proofs.Layout.Realize
import RaidProvision.Proofs.Session.Exchange

/-!
# The commands that create drives

A drive is created by two commands: one that creates it and one that asks for its size by the number
that the first one gave to it. The families differ in how the commands are written, on which line
the number stands and in that arcconf takes the size in megabytes, which may be out of range.

* `createdDrive_eq_ok_iff`: which number is read from the report on a new drive.
* `build_builds`: the commands for one drive, cut off where something goes wrong.
* `realizeEach_steps`: the commands for some entries, by induction on them.
* `create_steps`: the commands for the layout of a machine.
-/
namespace RaidProvision

open RaidProvision.Text RaidProvision.Report

/-! ## How the families are told -/

/-- The size as arcconf is told it. -/
def SizeRequest.amount : SizeRequest → String
  | max => "MAX"
  | gb n => Nat.repr (1024 * n.toNat)

namespace Family

/-- Whether a size can be told: only arcconf is told one, in megabytes of 64 bits. -/
def Fits : Family → SizeRequest → Prop
  | .arcconf, .gb n => 1024 * n.toNat < UInt64.size
  | _, _ => True

/-- The line that creates a drive. -/
def createLine : Family → Blueprint → String
  | .arcconf, ⟨controller, size, level, members⟩ =>
    let amount := size.amount
    let disks := " ".intercalate members
    s!"create {controller} LOGICALDRIVE {amount} {level} {disks} noprompt"
  | .megacli, ⟨controller, _, level, members⟩ =>
    let disks := ",".intercalate members
    s!"-CfgLdAdd -r{level}[{disks}] -a{controller}"

/-- The line that asks for the size of a drive by its number. -/
def sizeLine : Family → (controller id : String) → String
  | .arcconf, controller, id => s!"getconfig {controller} ld {id}|grep -i size"
  | .megacli, _, id => s!"-LDInfo -L{id} -aAll | grep -i size"

/-- The reader of the report on a size. -/
def driveSize : Family → String → Except ReportError Size
  | .arcconf => Arcconf.driveSize
  | .megacli => MegaCli.driveSize

end Family

/-! ## The number of a new drive -/

/-- The last word of a line, if it reads as a number of 32 bits. -/
def Report.trailingNumber (index : Nat) (what word : String) (missing : String → ReportError)
    (report : String) : Except ReportError String := do
  let line ← lineAt index what report
  let id ← lastWord word line
  match readUInt32 id with
  | .ok _ => return id
  | .error _ => throw (missing (trim line))

theorem Report.trailingNumber_eq_ok_iff {index : Nat} {what word : String}
    {missing : String → ReportError} {report id : String} :
    trailingNumber index what word missing report = .ok id ↔
      ∃ line n, (pieces '\n' report)[index]? = some line ∧ (words line).getLast? = some id ∧
        readUInt32 id = .ok n := by
  simp only [trailingNumber, lineAt, lastWord, bind, Except.bind, pure, Except.pure, throw,
    throwThe, MonadExceptOf.throw]
  cases (pieces '\n' report)[index]? with
  | none => simp
  | some line =>
    cases hw : (words line).getLast? with
    | none => simp [hw]
    | some word =>
      cases hn : readUInt32 word with
      | error cause =>
        simp only [hw, hn, Option.some.injEq]
        constructor
        · rintro ⟨⟩
        · rintro ⟨_, n, rfl, hlast, hid⟩
          rw [hw, Option.some.injEq] at hlast
          subst hlast
          rw [hn] at hid
          cases hid
      | ok n =>
        simp only [hw, hn, Option.some.injEq, Except.ok.injEq]
        constructor
        · rintro rfl
          exact ⟨line, n, rfl, hw, hn⟩
        · rintro ⟨_, _, rfl, hlast, -⟩
          rw [hw, Option.some.injEq] at hlast
          exact hlast

namespace Family

/-- The line of the report on a new drive that ends in its number, counted from 0. -/
def numberLine : Family → Nat
  | .arcconf => 2
  | .megacli => 1

/-- A report gives a number to a new drive: the last word of its line, if that reads as a number of
32 bits. -/
def NamesDrive (family : Family) (report id : String) : Prop :=
  ∃ line n, (pieces '\n' report)[family.numberLine]? = some line ∧
    (words line).getLast? = some id ∧ readUInt32 id = .ok n

/-- The reader of the report on a new drive. -/
def createdDrive : Family → String → Except ReportError String
  | .arcconf => Arcconf.createdDrive
  | .megacli => MegaCli.createdDrive

/-- Both families read the number in the same way, each on its own line. -/
theorem createdDrive_eq_ok_iff {family : Family} {report id : String} :
    family.createdDrive report = .ok id ↔ family.NamesDrive report id := by
  cases family <;> exact trailingNumber_eq_ok_iff

end Family

/-! ## One drive -/

namespace Manager

variable (manager : Manager)

/-- The command with a line behind the path of the tool. -/
def toolCommand (line : String) : Command :=
  match manager.family with
  | .arcconf => .line (manager.tools.arcconf ++ " " ++ line)
  | .megacli => .line (manager.tools.megacli ++ " " ++ line)

/-- The command that creates a drive. -/
def createCommand (b : Blueprint) : Command := manager.toolCommand (manager.family.createLine b)

/-- The command that asks for the size of a drive that was created. -/
def sizeCommand (b : Blueprint) (id : String) : Command :=
  manager.toolCommand (manager.family.sizeLine b.controller id)

/-- What building one drive comes to. -/
inductive Builds (b : Blueprint) : List Exchange → Except ToolError UInt64 → Prop where
  /-- The size cannot be told to arcconf. Nothing is run. -/
  | outOfRange {n : UInt64} (hf : manager.family = .arcconf) (hb : b.size = .gb n)
    (hn : UInt64.size ≤ 1024 * n.toNat) : Builds b [] (.error (.report (.sizeOutOfRange n)))
  /-- The drive was not created. -/
  | refused (creation : Exchange) {fault : ExecutionError} (hfits : manager.family.Fits b.size)
    (hc : creation.command = manager.createCommand b)
    (hr : creation.reply.read creation.command = .error fault) :
    Builds b [creation] (.error (.execution fault))
  /-- The report does not give the number of the drive. -/
  | unnamed (creation : Exchange) {report : String} {cause : ReportError}
    (hfits : manager.family.Fits b.size) (hc : creation.command = manager.createCommand b)
    (hr : creation.reply.read creation.command = .ok report)
    (hid : ∀ id, ¬ manager.family.NamesDrive report id)
    (he : manager.family.createdDrive report = .error cause) :
    Builds b [creation] (.error (.report cause))
  /-- The query failed. -/
  | unanswered (creation query : Exchange) {report id : String} {fault : ExecutionError}
    (hfits : manager.family.Fits b.size) (hc : creation.command = manager.createCommand b)
    (hr : creation.reply.read creation.command = .ok report)
    (hid : manager.family.NamesDrive report id) (hq : query.command = manager.sizeCommand b id)
    (hs : query.reply.read query.command = .error fault) :
    Builds b [creation, query] (.error (.execution fault))
  /-- The answer to the query does not give a size. -/
  | unsized (creation query : Exchange) {report id sizes : String} {cause : ReportError}
    (hfits : manager.family.Fits b.size) (hc : creation.command = manager.createCommand b)
    (hr : creation.reply.read creation.command = .ok report)
    (hid : manager.family.NamesDrive report id) (hq : query.command = manager.sizeCommand b id)
    (hs : query.reply.read query.command = .ok sizes)
    (he : manager.family.driveSize sizes = .error cause) :
    Builds b [creation, query] (.error (.report cause))
  | built (creation query : Exchange) {report id sizes : String} {size : Size}
    (hfits : manager.family.Fits b.size) (hc : creation.command = manager.createCommand b)
    (hr : creation.reply.read creation.command = .ok report)
    (hid : manager.family.NamesDrive report id) (hq : query.command = manager.sizeCommand b id)
    (hs : query.reply.read query.command = .ok sizes)
    (he : manager.family.driveSize sizes = .ok size) :
    Builds b [creation, query] (.ok size.wholeGb)

variable {manager} {b : Blueprint}

/-- The commands for a size that can be told. -/
theorem build_of_fits (h : manager.family.Fits b.size) :
    manager.build b = do
      let report ← ToolTask.execute (manager.createCommand b)
      let id ← ToolTask.read (manager.family.createdDrive report)
      let sizes ← ToolTask.execute (manager.sizeCommand b id)
      let size ← ToolTask.read (manager.family.driveSize sizes)
      return size.wholeGb := by
  obtain ⟨family, tools⟩ := manager
  obtain ⟨controller, size, level, members⟩ := b
  cases family with
  | megacli => rfl
  | arcconf =>
    have hline : Arcconf.createArguments controller size level members =
        .ok (Family.createLine .arcconf ⟨controller, size, level, members⟩) := by
      cases size with
      | max => rfl
      | gb n =>
        have hn : 1024 * n.toNat < UInt64.size := h
        simp only [Arcconf.createArguments, SizeRequest.megabytes, if_pos hn]
        rfl
    change Arcconf.createDrive _ _ _ _ _ = _
    rw [Arcconf.createDrive, hline, ToolTask.read_ok_bind]
    rfl

/-- Only arcconf has sizes that cannot be told, and those are refused. -/
theorem build_of_not_fits (h : ¬ manager.family.Fits b.size) :
    manager.family = .arcconf ∧ ∃ n, b.size = .gb n ∧ UInt64.size ≤ 1024 * n.toNat ∧
      manager.build b = ToolTask.read (.error (.sizeOutOfRange n)) := by
  obtain ⟨family, tools⟩ := manager
  obtain ⟨controller, size, level, members⟩ := b
  cases family with
  | megacli => exact absurd trivial h
  | arcconf =>
    cases size with
    | max => exact absurd trivial h
    | gb n =>
      have hn : ¬ 1024 * n.toNat < UInt64.size := h
      refine ⟨rfl, n, rfl, Nat.le_of_not_lt hn, ?_⟩
      change Arcconf.createDrive _ _ _ _ _ = _
      rw [Arcconf.createDrive, Arcconf.createArguments, SizeRequest.megabytes, if_neg hn]
      rfl

theorem build_builds (manager : Manager) (b : Blueprint) (host : Host) :
    manager.Builds b ((manager.build b).exchanges host) ((manager.build b).run host).value := by
  by_cases hfits : manager.family.Fits b.size
  case neg =>
    obtain ⟨hf, n, hb, hn, hbuild⟩ := build_of_not_fits hfits
    rw [hbuild]
    exact .outOfRange hf hb hn
  rw [build_of_fits hfits]
  let creation : Exchange :=
    ⟨manager.createCommand b, host.reply (manager.createCommand b)⟩
  cases hr : (host.reply (manager.createCommand b)).read (manager.createCommand b) with
  | error fault =>
    rw [ToolTask.exchanges_execute_bind_of_error _ hr, ToolTask.value_execute_bind_of_error _ hr]
    exact .refused creation hfits rfl hr
  | ok report =>
    rw [ToolTask.exchanges_execute_bind_of_ok _ hr, ToolTask.value_execute_bind_of_ok _ hr]
    generalize { host with replies := host.replies.tail } = host
    cases hid : manager.family.createdDrive report with
    | error cause =>
      have hnone : ∀ id, ¬ manager.family.NamesDrive report id := by
        intro id hnamed
        rw [← Family.createdDrive_eq_ok_iff, hid] at hnamed
        cases hnamed
      exact .unnamed creation hfits rfl hr hnone hid
    | ok id =>
      have hnamed := Family.createdDrive_eq_ok_iff.1 hid
      rw [ToolTask.read_ok_bind]
      let query : Exchange :=
        ⟨manager.sizeCommand b id, host.reply (manager.sizeCommand b id)⟩
      cases hs : (host.reply (manager.sizeCommand b id)).read (manager.sizeCommand b id) with
      | error fault =>
        rw [ToolTask.exchanges_execute_bind_of_error _ hs,
          ToolTask.value_execute_bind_of_error _ hs]
        exact .unanswered creation query hfits rfl hr hnamed rfl hs
      | ok sizes =>
        rw [ToolTask.exchanges_execute_bind_of_ok _ hs, ToolTask.value_execute_bind_of_ok _ hs]
        cases he : manager.family.driveSize sizes with
        | error cause =>
          exact .unsized creation query hfits rfl hr hnamed rfl hs he
        | ok size =>
          exact .built creation query hfits rfl hr hnamed rfl hs he

end Manager

/-! ## The drives of a machine -/

/-- One drive of a layout: what it was to be, how it ended and the commands that were run for it. -/
structure BuildStep where
  call : BuildCall ToolError
  exchanges : List Exchange

namespace Manager

/-- The step was made by a manager. -/
def Makes (manager : Manager) (step : BuildStep) : Prop :=
  manager.Builds step.call.blueprint step.exchanges step.call.result

variable (manager : Manager)

/-- The commands for some entries are those of one step for each complete entry, up to the first
step that fails. -/
theorem realizeEach_steps (disks : List LogicalDisk) (host : Host) :
    ∃ steps : List BuildStep,
      Procedure.exchanges (Layout.realizeEach manager.build disks) host =
        steps.flatMap BuildStep.exchanges ∧
      (∀ step ∈ steps, manager.Makes step) ∧
      Builder.ResultOfCalls disks (steps.map BuildStep.call)
        (Procedure.run (Layout.realizeEach manager.build disks) host).value := by
  induction disks generalizing host with
  | nil => exact ⟨[], rfl, by simp, .nil⟩
  | cons disk rest ih =>
    cases hd : disk.order? with
    | none =>
      rw [Layout.realizeEach_cons_of_none manager.build hd, Procedure.exchanges_bind_pure,
        Procedure.value_bind_pure]
      obtain ⟨steps, hx, hmakes, hcomes⟩ := ih host
      refine ⟨steps, hx, hmakes, ?_⟩
      generalize (Procedure.run (Layout.realizeEach manager.build rest) host).value = result
        at hcomes
      cases result <;> exact .skip hd hcomes
    | some b =>
      rw [Layout.realizeEach_cons_of_some manager.build hd]
      have hbuild := manager.build_builds b host
      cases hv : ((manager.build b).run host).value with
      | error cause =>
        rw [Procedure.exchanges_bind_of_error _ hv, Procedure.value_bind_of_error _ hv]
        rw [hv] at hbuild
        exact ⟨[⟨⟨b, .error cause⟩, (manager.build b).exchanges host⟩], by simp,
          by simpa [Makes] using hbuild, .here hd⟩
      | ok gb =>
        rw [Procedure.exchanges_bind_of_ok _ hv, Procedure.value_bind_of_ok _ hv,
          Procedure.exchanges_bind_pure, Procedure.value_bind_pure]
        rw [hv] at hbuild
        obtain ⟨steps, hx, hmakes, hcomes⟩ := ih ((manager.build b).run host).host
        refine ⟨⟨⟨b, .ok gb⟩, (manager.build b).exchanges host⟩ :: steps, ?_, ?_, ?_⟩
        · rw [hx, List.flatMap_cons]
        · exact List.forall_mem_cons.2 ⟨hbuild, hmakes⟩
        · generalize (Procedure.run (Layout.realizeEach manager.build rest)
            ((manager.build b).run host).host).value = result at hcomes
          cases result <;> exact .built gb hd hcomes

/-- A run that builds the layout of a machine by some steps. -/
structure Creates (node : Node) (steps : List BuildStep) (es : List Exchange)
    (result : Except ToolError Layout) : Prop where
  exchanges_eq : es = steps.flatMap BuildStep.exchanges
  makes : ∀ step ∈ steps, manager.Makes step
  /-- There was one step for each complete entry, in order, and none failed. -/
  realized : ∀ layout, result = .ok layout →
    Builder.Realizes (steps.map BuildStep.call) node.target layout
  /-- The steps are those of the first complete entries, and the last one alone failed. -/
  broken : ∀ cause, result = .error cause →
    Builder.BreaksOff (steps.map BuildStep.call) node.target cause
  /-- A record without a layout builds nothing. -/
  unassigned : node.layout = none → steps = [] ∧ result = .ok .empty

variable {manager}

/-- The steps for the entries of a layout are those for the layout. -/
theorem Creates.of_resultOfCalls {node : Node} {steps : List BuildStep} {es : List Exchange}
    {result : Except ToolError (List LogicalDisk)} (hx : es = steps.flatMap BuildStep.exchanges)
    (hmakes : ∀ step ∈ steps, manager.Makes step)
    (hcomes : Builder.ResultOfCalls node.target.disks (steps.map BuildStep.call) result) :
    manager.Creates node steps es
      (result.map fun disks => { node.target with disks := disks }) where
  exchanges_eq := hx
  makes := hmakes
  realized layout hv := by
    cases result with
    | error cause => cases hv
    | ok disks =>
      cases hv
      exact Builder.Filled.realizes hcomes
  broken cause hv := by
    cases result with
    | ok disks => cases hv
    | error other =>
      cases hv
      exact Builder.Stopped.split hcomes
  unassigned hnone := by
    have htarget : node.target = .empty := by rw [Node.target, hnone]; rfl
    rw [htarget] at hcomes ⊢
    cases result with
    | error cause => cases hcomes
    | ok disks =>
      generalize hcalls : steps.map BuildStep.call = calls at hcomes
      cases hcomes
      exact ⟨List.map_eq_nil_iff.1 hcalls, rfl⟩

/-- A layout is built by two commands for each complete entry, in order: the one that creates the
drive, and the one that asks for its size by the number that the first one answered. Whatever goes
wrong first ends the run, and its error is the result. -/
theorem create_steps (manager : Manager) (node : Node) (host : Host) :
    ∃ steps, manager.Creates node steps ((manager.create node).exchanges host)
      ((manager.create node).run host).value := by
  obtain ⟨steps, hx, hmakes, hcomes⟩ := manager.realizeEach_steps node.target.disks host
  refine ⟨steps, ?_⟩
  rw [create, Layout.realize, Procedure.exchanges_bind_pure, Procedure.value_bind_pure]
  exact .of_resultOfCalls hx hmakes hcomes

end Manager
end RaidProvision

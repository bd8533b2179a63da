import RaidProvision.Bmc.Setter
import RaidProvision.Proofs.Session.Exchange

/-!
# Rounds of setting up the management controller

An attempt reads first and acts then (`attempt_eq`): `survey` runs the three reading commands and
`act` decides by what they gave. Attempts that fail are made again, so a call is a list of rounds
(`rounds`), each an attempt on what the rounds before it left.

* `survey_surveys`: the commands that read, cut off where something cannot be read.
* `survey_reads`: the reading part writes nothing.
* `executeAll_runThrough`: commands in a row run up to the first that fails.
* `act_acts`: the acting part runs nothing, or writes an assignment whose address is not the present
  one.
* `attempt_round`: what one round can come to.
* `exchanges_attempts`, `rounds_eq`: attempts are rounds; all but the last failed, and the last one
  decides.
* `exchanges_update`: a call is its rounds, none if no attempt is allowed.
-/
namespace RaidProvision

/-- What running some commands in a row comes to: all of them succeeded, or those before one
succeeded and that one failed. -/
inductive RunThrough (commands : List Command) (es : List Exchange) :
    Except ExecutionError Unit → Prop where
  | all (hc : es.map Exchange.command = commands) (hs : ∀ e ∈ es, e.succeeded = true) :
    RunThrough commands es (.ok ())
  | stopped (done : List Exchange) (failed : Exchange) (rest : List Command)
    (cause : ExecutionError) (he : es = done ++ [failed])
    (hc : commands = done.map Exchange.command ++ failed.command :: rest)
    (hs : ∀ e ∈ done, e.succeeded = true) (hf : failed.succeeded = false) :
    RunThrough commands es (.error cause)

/-- A command runs and succeeds, and the others run on. -/
theorem RunThrough.cons {commands : List Command} {es : List Exchange}
    {result : Except ExecutionError Unit} (h : RunThrough commands es result) {e : Exchange}
    (he : e.succeeded = true) : RunThrough (e.command :: commands) (e :: es) result := by
  cases h with
  | all hc hs => exact .all (by simp [hc]) (by simpa [he] using hs)
  | stopped done failed rest cause hes hc hs hf =>
    exact .stopped (e :: done) failed rest cause (by simp [hes]) (by simp [hc])
      (by simpa [he] using hs) hf

namespace ToolPaths

variable (tools : ToolPaths) (host : Host)

theorem exchanges_identity :
    tools.identity.exchanges host = [⟨tools.printSystem, host.reply tools.printSystem⟩] :=
  ToolTask.exchanges_executeRead _ _ _

theorem exchanges_bmcAddress :
    tools.bmcAddress.exchanges host = [⟨tools.printLan, host.reply tools.printLan⟩] :=
  ToolTask.exchanges_executeRead _ _ _

end ToolPaths

namespace BmcSetter

variable (setter : BmcSetter)

theorem executeAll_runThrough (commands : List Command) (host : Host) :
    RunThrough commands ((executeAll commands).exchanges host)
      ((executeAll commands).run host).value := by
  induction commands generalizing host with
  | nil => exact .all rfl (by simp [executeAll])
  | cons command rest ih =>
    rw [executeAll, Procedure.exchanges_bind, Procedure.run_bind, Procedure.run_execute,
      Procedure.exchanges_execute]
    let e : Exchange := ⟨command, host.reply command⟩
    cases hr : (host.reply command).read command with
    | error cause =>
      have hf : e.succeeded = false := e.not_succeeded_iff.2 ⟨cause, hr⟩
      exact .stopped [] e rest cause (by simp [e]) rfl (by simp) hf
    | ok text =>
      have hs : e.succeeded = true := e.succeeded_iff.2 ⟨text, hr⟩
      exact (ih { host with replies := host.replies.tail }).cons hs

/-! ## Reading, then acting -/

/-- What an attempt reads before it decides. -/
structure Reading where
  /-- Where the service keeps the settings of this machine. -/
  url : String
  /-- The present address. -/
  current : String
  /-- The assigned settings, if there are any. -/
  assigned : Option Assignment

/-- The reading part of an attempt. -/
def survey : Procedure BmcError Reading := do
  let identity ← Procedure.mapFailure .facts setter.tools.identity
  let current ← Procedure.mapFailure .facts setter.tools.bmcAddress
  let url := setter.settingsUrl identity.serial
  let body ← Procedure.mapFailure .execution (Procedure.execute (setter.getSettings url))
  match Assignment.ofBody body with
  | .error cause => throw (.response cause)
  | .ok assigned => return ⟨url, current, assigned⟩

/-- All that writes an assignment: four settings and the notice to the service. -/
def updateCommands (a : Assignment) (url : String) : List Command :=
  setter.writeCommands a ++ [setter.postNotice url]

/-- The acting part of an attempt. -/
def act (reading : Reading) : Procedure BmcError BmcOutcome :=
  match reading.assigned with
  | none => pure .unassigned
  | some a =>
    if a.address = reading.current then pure .alreadySet
    else do
      Procedure.mapFailure .execution (executeAll (setter.updateCommands a reading.url))
      return .updated

theorem attempt_eq : setter.attempt = setter.survey >>= setter.act := by
  simp only [attempt, survey, bind_assoc]
  refine bind_congr fun identity => bind_congr fun current => bind_congr fun body => ?_
  cases Assignment.ofBody body with
  | error cause => rfl
  | ok assigned => cases assigned <;> rfl

/-- What the reading part comes to. -/
inductive Surveys : List Exchange → Except BmcError Reading → Prop where
  | unidentified (system : Exchange) {cause : BmcError}
    (hs : system.command = setter.tools.printSystem) : Surveys [system] (.error cause)
  | unlocated (system lan : Exchange) {identity : Identity} {cause : BmcError}
    (hs : system.command = setter.tools.printSystem)
    (hi : system.Gives Identity.ofReport identity) (hl : lan.command = setter.tools.printLan) :
    Surveys [system, lan] (.error cause)
  | unanswered (system lan answer : Exchange) {identity : Identity} {current : String}
    {cause : BmcError} (hs : system.command = setter.tools.printSystem)
    (hi : system.Gives Identity.ofReport identity) (hl : lan.command = setter.tools.printLan)
    (hc : lan.Gives Machine.bmcAddress current)
    (ha : answer.command = setter.getSettings (setter.settingsUrl identity.serial)) :
    Surveys [system, lan, answer] (.error cause)
  | answered (system lan answer : Exchange) {identity : Identity} {current : String}
    {assigned : Option Assignment} (hs : system.command = setter.tools.printSystem)
    (hi : system.Gives Identity.ofReport identity) (hl : lan.command = setter.tools.printLan)
    (hc : lan.Gives Machine.bmcAddress current)
    (ha : answer.command = setter.getSettings (setter.settingsUrl identity.serial))
    (hr : answer.Gives Assignment.ofBody assigned) :
    Surveys [system, lan, answer] (.ok ⟨setter.settingsUrl identity.serial, current, assigned⟩)

theorem survey_surveys (host : Host) :
    setter.Surveys (setter.survey.exchanges host) (setter.survey.run host).value := by
  rw [survey]
  let system : Exchange := ⟨setter.tools.printSystem, host.reply setter.tools.printSystem⟩
  cases hi : ((Procedure.mapFailure BmcError.facts setter.tools.identity).run host).value with
  | error cause =>
    rw [Procedure.exchanges_bind_of_error _ hi, Procedure.value_bind_of_error _ hi,
      Procedure.exchanges_mapFailure, ToolPaths.exchanges_identity]
    exact .unidentified system rfl
  | ok identity =>
    rw [Procedure.exchanges_bind_of_ok _ hi, Procedure.value_bind_of_ok _ hi,
      Procedure.exchanges_mapFailure, ToolPaths.exchanges_identity]
    have hidentity : system.Gives Identity.ofReport identity :=
      ToolTask.value_executeRead_eq_ok.1 (Procedure.value_mapFailure_eq_ok.1 hi)
    generalize ((Procedure.mapFailure BmcError.facts setter.tools.identity).run host).host = host
    let lan : Exchange := ⟨setter.tools.printLan, host.reply setter.tools.printLan⟩
    cases hc : ((Procedure.mapFailure BmcError.facts setter.tools.bmcAddress).run host).value with
    | error cause =>
      rw [Procedure.exchanges_bind_of_error _ hc, Procedure.value_bind_of_error _ hc,
        Procedure.exchanges_mapFailure, ToolPaths.exchanges_bmcAddress]
      exact .unlocated system lan rfl hidentity rfl
    | ok current =>
      rw [Procedure.exchanges_bind_of_ok _ hc, Procedure.value_bind_of_ok _ hc,
        Procedure.exchanges_mapFailure, ToolPaths.exchanges_bmcAddress]
      have hcurrent : lan.Gives Machine.bmcAddress current :=
        ToolTask.value_executeRead_eq_ok.1 (Procedure.value_mapFailure_eq_ok.1 hc)
      generalize ((Procedure.mapFailure BmcError.facts setter.tools.bmcAddress).run host).host =
        host
      let ask := setter.getSettings (setter.settingsUrl identity.serial)
      let answer : Exchange := ⟨ask, host.reply ask⟩
      cases hb : ((Procedure.mapFailure BmcError.execution (Procedure.execute ask)).run
          host).value with
      | error cause =>
        rw [Procedure.exchanges_bind_of_error _ hb, Procedure.value_bind_of_error _ hb,
          Procedure.exchanges_mapFailure, Procedure.exchanges_execute]
        exact .unanswered system lan answer rfl hidentity rfl hcurrent rfl
      | ok body =>
        rw [Procedure.exchanges_bind_of_ok _ hb, Procedure.value_bind_of_ok _ hb,
          Procedure.exchanges_mapFailure, Procedure.exchanges_execute]
        have hbody : answer.reply.read ask = .ok body := Procedure.value_mapFailure_eq_ok.1 hb
        cases hr : Assignment.ofBody body with
        | error cause => exact .unanswered system lan answer rfl hidentity rfl hcurrent rfl
        | ok assigned =>
          exact .answered system lan answer rfl hidentity rfl hcurrent rfl ⟨body, hbody, hr⟩

/-- A command that reads: the identity of the machine, the present address or the assignment. -/
def Reads (command : Command) : Prop :=
  command = setter.tools.printSystem ∨ command = setter.tools.printLan ∨
    ∃ url, command = setter.getSettings url

theorem Surveys.reads {es : List Exchange} {result : Except BmcError Reading}
    (h : setter.Surveys es result) : ∀ e ∈ es, setter.Reads e.command := by
  cases h with
  | unidentified system hs => exact List.forall_mem_singleton.2 (.inl hs)
  | unlocated system lan hs hi hl =>
    exact List.forall_mem_cons.2 ⟨.inl hs, List.forall_mem_singleton.2 (.inr (.inl hl))⟩
  | unanswered system lan answer hs hi hl hc ha =>
    exact List.forall_mem_cons.2 ⟨.inl hs, List.forall_mem_cons.2 ⟨.inr (.inl hl),
      List.forall_mem_singleton.2 (.inr (.inr ⟨_, ha⟩))⟩⟩
  | answered system lan answer hs hi hl hc ha hr =>
    exact List.forall_mem_cons.2 ⟨.inl hs, List.forall_mem_cons.2 ⟨.inr (.inl hl),
      List.forall_mem_singleton.2 (.inr (.inr ⟨_, ha⟩))⟩⟩

theorem survey_reads (host : Host) : ∀ e ∈ setter.survey.exchanges host, setter.Reads e.command :=
  (setter.survey_surveys host).reads

/-- What the acting part comes to. -/
inductive Acts (reading : Reading) : List Exchange → Except BmcError BmcOutcome → Prop where
  | unassigned (ha : reading.assigned = none) : Acts reading [] (.ok .unassigned)
  | alreadySet (a : Assignment) (ha : reading.assigned = some a)
    (heq : a.address = reading.current) : Acts reading [] (.ok .alreadySet)
  | updating (a : Assignment) {es : List Exchange} {result : Except ExecutionError Unit}
    (ha : reading.assigned = some a) (hne : a.address ≠ reading.current)
    (hrun : RunThrough (setter.updateCommands a reading.url) es result) :
    Acts reading es ((result.mapError .execution).map fun _ => .updated)

theorem act_acts (reading : Reading) (host : Host) :
    setter.Acts reading ((setter.act reading).exchanges host)
      ((setter.act reading).run host).value := by
  unfold act
  cases ha : reading.assigned with
  | none => exact .unassigned ha
  | some a =>
    by_cases heq : a.address = reading.current
    · simp only [heq, if_true]
      exact .alreadySet a ha heq
    · simp only [heq, if_false]
      rw [Procedure.exchanges_bind_pure, Procedure.value_bind_pure,
        Procedure.exchanges_mapFailure, Procedure.run_mapFailure]
      exact .updating a ha heq (executeAll_runThrough _ host)

/-! ## One round -/

/-- An attempt as it was made. -/
structure Round where
  exchanges : List Exchange
  reading : Except BmcError Reading
  value : Except BmcError BmcOutcome

/-- The attempt on a host. -/
def round (host : Host) : Round :=
  ⟨setter.attempt.exchanges host, (setter.survey.run host).value, (setter.attempt.run host).value⟩

/-- What a round can come to. -/
inductive RoundCase (r : Round) : Prop where
  /-- Something could not be read. -/
  | unread (cause : BmcError) (hr : r.reading = .error cause) (hv : r.value = .error cause)
    (hx : ∀ e ∈ r.exchanges, setter.Reads e.command)
  | unassigned (reading : Reading) (hr : r.reading = .ok reading) (ha : reading.assigned = none)
    (hv : r.value = .ok .unassigned) (hx : ∀ e ∈ r.exchanges, setter.Reads e.command)
  | alreadySet (reading : Reading) (a : Assignment) (hr : r.reading = .ok reading)
    (ha : reading.assigned = some a) (heq : a.address = reading.current)
    (hv : r.value = .ok .alreadySet) (hx : ∀ e ∈ r.exchanges, setter.Reads e.command)
  /-- The address differs and the update is run, up to the first command that fails. -/
  | updating (reading : Reading) (a : Assignment) (hr : r.reading = .ok reading)
    (ha : reading.assigned = some a) (hne : a.address ≠ reading.current)
    (reads update : List Exchange) (hx : r.exchanges = reads ++ update)
    (hreads : ∀ e ∈ reads, setter.Reads e.command) (result : Except ExecutionError Unit)
    (hrun : RunThrough (setter.updateCommands a reading.url) update result)
    (hv : r.value = (result.mapError .execution).map fun _ => .updated)

theorem attempt_round (host : Host) : setter.RoundCase (setter.round host) := by
  have hreads := setter.survey_reads host
  have hround : setter.round host = ⟨(setter.survey >>= setter.act).exchanges host,
      (setter.survey.run host).value, ((setter.survey >>= setter.act).run host).value⟩ := by
    rw [round, attempt_eq]
  cases hr : (setter.survey.run host).value with
  | error cause =>
    rw [Procedure.exchanges_bind_of_error _ hr, Procedure.value_bind_of_error _ hr, hr] at hround
    rw [hround]
    exact .unread cause rfl rfl hreads
  | ok reading =>
    rw [Procedure.exchanges_bind_of_ok _ hr, Procedure.value_bind_of_ok _ hr, hr] at hround
    rw [hround]
    have hacts := setter.act_acts reading (setter.survey.run host).host
    generalize (setter.act reading).exchanges (setter.survey.run host).host = es at hacts
    generalize ((setter.act reading).run (setter.survey.run host).host).value = value at hacts
    cases hacts with
    | unassigned ha => exact .unassigned reading rfl ha rfl (by simpa using hreads)
    | alreadySet a ha heq => exact .alreadySet reading a rfl ha heq rfl (by simpa using hreads)
    | updating a ha hne hrun =>
      exact .updating reading a rfl ha hne (setter.survey.exchanges host) es rfl hreads _ hrun rfl

/-! ## The rounds of a call -/

/-- The rounds of so many attempts after a first one. -/
def rounds : Nat → Host → List Round
  | 0, host => [setter.round host]
  | more + 1, host =>
    setter.round host ::
      match (setter.round host).value with
      | .ok _ => []
      | .error _ => rounds more (setter.attempt.run host).host

theorem exchanges_attempts (more : Nat) (host : Host) :
    (setter.attempts more).exchanges host =
      (setter.rounds more host).flatMap Round.exchanges := by
  induction more generalizing host with
  | zero => simp [attempts, rounds, round, Procedure.exchanges]
  | succ more ih =>
    rw [attempts, rounds, Script.exchanges_bind, List.flatMap_cons]
    change setter.attempt.exchanges host ++ _ = setter.attempt.exchanges host ++ _
    congr 1
    simp only [round, Procedure.run]
    cases (Script.run setter.attempt.script host).value with
    | ok outcome => rfl
    | error cause => exact ih _

/-- Every round but the last failed, and the last one decides. -/
theorem rounds_eq (more : Nat) (host : Host) :
    ∃ failed last, setter.rounds more host = failed ++ [last] ∧
      (∀ r ∈ failed, ∃ cause, r.value = .error cause) ∧
      last.value = ((setter.attempts more).run host).value := by
  induction more generalizing host with
  | zero => exact ⟨[], setter.round host, rfl, by simp, rfl⟩
  | succ more ih =>
    rw [attempts, Script.run_bind, rounds]
    cases hv : (setter.round host).value with
    | ok outcome =>
      refine ⟨[], setter.round host, rfl, by simp, ?_⟩
      rw [hv]
      simp only [round, Procedure.run] at hv
      simp only [hv, Script.run_done]
    | error cause =>
      obtain ⟨failed, last, heq, hfailed, hlast⟩ := ih (setter.attempt.run host).host
      refine ⟨setter.round host :: failed, last, by simp [heq], ?_, ?_⟩
      · intro r hr
        rcases List.mem_cons.1 hr with rfl | hr
        · exact ⟨cause, hv⟩
        · exact hfailed r hr
      · rw [hlast]
        simp only [round, Procedure.run] at hv
        simp only [hv]
        rfl

/-- Every round is an attempt on some host. -/
theorem exists_round_of_mem (more : Nat) (host : Host) {r : Round}
    (h : r ∈ setter.rounds more host) : ∃ start, r = setter.round start := by
  induction more generalizing host with
  | zero => exact ⟨host, List.mem_singleton.1 h⟩
  | succ more ih =>
    rw [rounds, List.mem_cons] at h
    rcases h with rfl | h
    · exact ⟨host, rfl⟩
    · split at h
      · cases h
      · exact ih _ h

theorem roundCase_of_mem (more : Nat) (host : Host) {r : Round}
    (h : r ∈ setter.rounds more host) : setter.RoundCase r := by
  obtain ⟨start, rfl⟩ := setter.exists_round_of_mem more host h
  exact setter.attempt_round start

/-- The rounds of a call. -/
def callRounds (host : Host) : List Round :=
  match setter.allowed.toNat with
  | 0 => []
  | more + 1 => setter.rounds more host

variable {setter} {more : Nat}

theorem callRounds_of_none (h : setter.allowed.toNat = 0) (host : Host) :
    setter.callRounds host = [] := by
  rw [callRounds, h]

theorem callRounds_of_some (h : setter.allowed.toNat = more + 1) (host : Host) :
    setter.callRounds host = setter.rounds more host := by
  rw [callRounds, h]

variable (data : Json.Members) (failures : Failures)

theorem update_of_none (h : setter.allowed.toNat = 0) :
    setter.update data failures = .done (record data false, failures) := by
  rw [update, h]

theorem update_of_some (h : setter.allowed.toNat = more + 1) :
    setter.update data failures =
      (setter.attempts more).bind fun result => .done (conclude data failures result) := by
  rw [update, h]

theorem exchanges_update (setter : BmcSetter) (host : Host) :
    (setter.update data failures).exchanges host =
      (setter.callRounds host).flatMap Round.exchanges := by
  cases h : setter.allowed.toNat with
  | zero => rw [update_of_none _ _ h, callRounds_of_none h, Script.exchanges_done, List.flatMap_nil]
  | succ more =>
    rw [update_of_some _ _ h, callRounds_of_some h, Script.exchanges_bind, Script.exchanges_done,
      List.append_nil, exchanges_attempts]

/-- What a call makes of its last round. -/
theorem value_update (h : setter.allowed.toNat = more + 1) (host : Host) :
    ((setter.update data failures).run host).value =
      conclude data failures ((setter.attempts more).run host).value := by
  rw [update_of_some _ _ h, Script.run_bind]
  rfl

end BmcSetter
end RaidProvision

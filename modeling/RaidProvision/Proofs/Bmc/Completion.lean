import RaidProvision.Proofs.Bmc.Round

/-!
# When a reported success is a finished update

A call reports success if its last round wrote everything, and also if its last round found the
assigned address in place. The second says nothing about the mask, the gateway and the notice: when
a round fails after it has set the address, the next one takes the address for the whole assignment.

* `success_completed_iff`: a success reported after a write is a finished update, unless a round
  that had written failed and the last round found the assigned address.
* `success_of_half_done_update`: a call of two rounds that reports success, where the mask was
  refused and neither the gateway nor the notice was ever sent.
-/
namespace RaidProvision.BmcSetter

open RaidProvision.Json

variable (setter : BmcSetter)

/-- A command that writes to the management controller, whatever it sets. -/
def IsWrite (command : Command) : Prop :=
  command.program = setter.tools.ipmitool ∧ ["lan", "set"] <+: command.arguments

instance : DecidablePred setter.IsWrite := fun _ => inferInstanceAs (Decidable (_ ∧ _))

/-- The data of a run say that the settings are in place. -/
def ReportsSuccess (data : Members) : Prop :=
  ((data.lookup resultKey).bind (Value.member? "result")).bind Value.boolean? = some true

instance : DecidablePred ReportsSuccess := fun _ => inferInstanceAs (Decidable (_ = _))

/-- All four settings of one assignment were written and the service was told: every command of the
update was run and succeeded. -/
def Completed (es : List Exchange) : Prop :=
  ∃ (a : Assignment) (url : String), ∀ command ∈ setter.updateCommands a url,
    ∃ e ∈ es, e.command = command ∧ e.succeeded = true

/-! ## What is told apart by its arguments -/

theorem isWrite_of_mem {a : Assignment} {command : Command}
    (h : command ∈ setter.writeCommands a) : setter.IsWrite command := by
  simp only [writeCommands, List.mem_cons, List.not_mem_nil, or_false] at h
  rcases h with rfl | rfl | rfl | rfl <;> exact ⟨rfl, by simp [setLan]⟩

theorem not_isWrite_of_reads {command : Command} (h : setter.Reads command) :
    ¬ setter.IsWrite command := by
  rintro ⟨-, hp⟩
  rcases h with rfl | rfl | ⟨url, rfl⟩
  · simp [ToolPaths.printSystem] at hp
  · simp [ToolPaths.printLan] at hp
  · simp [getSettings] at hp

theorem postNotice_not_isWrite (url : String) : ¬ setter.IsWrite (setter.postNotice url) := by
  rintro ⟨-, hp⟩
  simp [postNotice] at hp

theorem postNotice_not_reads (url : String) : ¬ setter.Reads (setter.postNotice url) := by
  rintro (h | h | ⟨other, h⟩) <;>
    simp [postNotice, ToolPaths.printSystem, ToolPaths.printLan, getSettings] at h

/-- In an update that stopped, the notice did not succeed: it is the last command. -/
theorem RunThrough.notice_failed {a : Assignment} {url : String} {es : List Exchange}
    {cause : ExecutionError}
    (h : RunThrough (setter.updateCommands a url) es (.error cause)) {e : Exchange} (he : e ∈ es)
    {other : String} (hc : e.command = setter.postNotice other) : e.succeeded = false := by
  cases h with
  | stopped done failed rest cause hes hcs hs hf =>
    rw [hes, List.mem_append, List.mem_singleton] at he
    rcases he with he | rfl
    · exfalso
      -- A command before the failed one is not the last, and all others are writes.
      have hsplit : done.map Exchange.command <+: setter.writeCommands a := by
        have hlen := congrArg List.length hcs
        simp only [updateCommands, List.length_append, List.length_cons, List.length_nil,
          List.length_map] at hlen
        have hdone : done.map Exchange.command <+: setter.updateCommands a url := by
          rw [hcs]
          exact List.prefix_append _ _
        refine List.prefix_of_prefix_length_le hdone (List.prefix_append _ _) ?_
        rw [List.length_map]
        omega
      have hmem := hsplit.subset (List.mem_map_of_mem (f := Exchange.command) he)
      rw [hc] at hmem
      exact setter.postNotice_not_isWrite other (setter.isWrite_of_mem hmem)
    · exact hf

/-! ## One round -/

variable {setter}

/-- A round in which the notice succeeded ended the update. -/
theorem RoundCase.updated_of_notice {r : Round} (h : setter.RoundCase r) {e : Exchange}
    (he : e ∈ r.exchanges) {url : String} (hc : e.command = setter.postNotice url)
    (hs : e.succeeded = true) : r.value = .ok .updated := by
  have hreads : ¬ setter.Reads e.command := hc ▸ setter.postNotice_not_reads url
  cases h with
  | unread cause hr hv hx => exact absurd (hx e he) hreads
  | unassigned reading hr ha hv hx => exact absurd (hx e he) hreads
  | alreadySet reading a hr ha heq hv hx => exact absurd (hx e he) hreads
  | updating reading a hr ha hne reads update hx hreads' result hrun hv =>
    rw [hx, List.mem_append] at he
    rcases he with he | he
    · exact absurd (hreads' e he) hreads
    cases result with
    | ok _ => exact hv
    | error cause =>
      have hfailed := RunThrough.notice_failed setter hrun he hc
      rw [hs] at hfailed
      cases hfailed

/-- A round that ends the update ran all of its commands, and they succeeded. -/
theorem RoundCase.completed_of_updated {r : Round} (h : setter.RoundCase r)
    (hu : r.value = .ok .updated) : setter.Completed r.exchanges := by
  cases h with
  | unread cause hr hv hx => rw [hv] at hu; cases hu
  | unassigned reading hr ha hv hx => rw [hv] at hu; cases hu
  | alreadySet reading a hr ha heq hv hx => rw [hv] at hu; cases hu
  | updating reading a hr ha hne reads update hx hreads result hrun hv =>
    cases hrun with
    | stopped done failed rest cause hes hcs hs hf => rw [hv] at hu; cases hu
    | all hcs hs =>
      refine ⟨a, reading.url, fun command hc => ?_⟩
      rw [← hcs, List.mem_map] at hc
      obtain ⟨e, he, rfl⟩ := hc
      exact ⟨e, by rw [hx]; exact List.mem_append_right _ he, rfl, hs e he⟩

/-- A round that found the assigned address in place wrote nothing. -/
theorem RoundCase.no_write_of_alreadySet {r : Round} (h : setter.RoundCase r)
    (hv : r.value = .ok .alreadySet) : ∀ e ∈ r.exchanges, ¬ setter.IsWrite e.command := by
  intro e he
  cases h with
  | unread cause hr hv' hx => exact setter.not_isWrite_of_reads (hx e he)
  | unassigned reading hr ha hv' hx => exact setter.not_isWrite_of_reads (hx e he)
  | alreadySet reading a hr ha heq hv' hx => exact setter.not_isWrite_of_reads (hx e he)
  | updating reading a hr ha hne reads update hx hreads result hrun hv' =>
    rw [hv'] at hv
    cases result <;> cases hv

/-- A round read an assignment with the address that it read from the management controller. -/
def Round.FoundInPlace (r : Round) : Prop :=
  ∃ reading a, r.reading = .ok reading ∧ reading.assigned = some a ∧ a.address = reading.current

theorem RoundCase.alreadySet_iff {r : Round} (h : setter.RoundCase r) :
    r.value = .ok .alreadySet ↔ r.FoundInPlace := by
  constructor
  · intro hv
    cases h with
    | unread cause hr hv' hx => rw [hv'] at hv; cases hv
    | unassigned reading hr ha hv' hx => rw [hv'] at hv; cases hv
    | alreadySet reading a hr ha heq hv' hx => exact ⟨reading, a, hr, ha, heq⟩
    | updating reading a hr ha hne reads update hx hreads result hrun hv' =>
      rw [hv'] at hv
      cases result <;> cases hv
  · rintro ⟨reading, a, hr, ha, heq⟩
    cases h with
    | unread cause hr' hv hx => rw [hr'] at hr; cases hr
    | unassigned reading' hr' ha' hv hx =>
      rw [hr'] at hr; cases hr
      rw [ha'] at ha; cases ha
    | alreadySet reading' a' hr' ha' heq' hv hx => exact hv
    | updating reading' a' hr' ha' hne reads update hx hreads result hrun hv =>
      rw [hr'] at hr; cases hr
      rw [ha'] at ha; cases ha
      exact absurd heq hne

/-! ## A call -/

theorem lookup_record (data : Members) (inPlace : Bool) :
    (record data inPlace).lookup resultKey = some (.object [("result", .boolean inPlace)]) := by
  rw [record, Members.lookup_insert, if_pos rfl]

theorem reportsSuccess_record (data : Members) (inPlace : Bool) :
    ReportsSuccess (record data inPlace) ↔ inPlace = true := by
  simp [ReportsSuccess, lookup_record, Value.member?, Value.boolean?]

/-- A call that makes attempts reports success iff they ended with settings in place. -/
theorem reportsSuccess_update_iff {setter : BmcSetter} {more : Nat}
    (h : setter.allowed.toNat = more + 1) (data : Members) (failures : Failures) (host : Host) :
    ReportsSuccess ((setter.update data failures).run host).value.1 ↔
      ((setter.attempts more).run host).value = .ok .alreadySet ∨
        ((setter.attempts more).run host).value = .ok .updated := by
  rw [value_update _ _ h]
  cases ((setter.attempts more).run host).value with
  | error cause => simp [conclude, reportsSuccess_record]
  | ok outcome => cases outcome <;> simp [conclude, reportsSuccess_record]

/-- A call that makes no attempt does not report success. -/
theorem not_reportsSuccess_of_none {setter : BmcSetter} (h : setter.allowed.toNat = 0)
    (data : Members) (failures : Failures) (host : Host) :
    ¬ ReportsSuccess ((setter.update data failures).run host).value.1 := by
  rw [update_of_none _ _ h, Script.run_done, reportsSuccess_record]
  exact Bool.false_ne_true

/-- An update was left half done: a round failed after it had written, and the last round found the
assigned address in place. -/
def HalfDone (setter : BmcSetter) (rounds : List Round) : Prop :=
  (∃ r ∈ rounds.dropLast, ∃ e ∈ r.exchanges, setter.IsWrite e.command) ∧
    ∃ r, rounds.getLast? = some r ∧ r.FoundInPlace

theorem halfDone_concat {failed : List Round} {last : Round} (h : setter.RoundCase last) :
    setter.HalfDone (failed ++ [last]) ↔
      (∃ r ∈ failed, ∃ e ∈ r.exchanges, setter.IsWrite e.command) ∧
        last.value = .ok .alreadySet := by
  rw [HalfDone, List.dropLast_concat, h.alreadySet_iff]
  simp

section
variable {failed : List Round} {last : Round}

/-- If the last round found the address in place, no round sent the notice: those before it failed,
and it wrote nothing. -/
theorem not_completed_of_alreadySet (hcase : ∀ r ∈ failed ++ [last], setter.RoundCase r)
    (hfailed : ∀ r ∈ failed, ∃ cause, r.value = .error cause)
    (hv : last.value = .ok .alreadySet) :
    ¬ setter.Completed ((failed ++ [last]).flatMap Round.exchanges) := by
  rintro ⟨a, url, hall⟩
  obtain ⟨e, he, hc, hs⟩ := hall (setter.postNotice url) (by simp [updateCommands])
  obtain ⟨r, hr, he⟩ := List.mem_flatMap.1 he
  have hup := (hcase r hr).updated_of_notice he hc hs
  rcases List.mem_append.1 hr with hr | hr
  · obtain ⟨cause, herr⟩ := hfailed r hr
    rw [herr] at hup
    cases hup
  · rw [List.mem_singleton.1 hr, hv] at hup
    cases hup

/-- If the last round ended the update, all of its commands are in the call. -/
theorem completed_of_updated (hlast : setter.RoundCase last) (hv : last.value = .ok .updated) :
    setter.Completed ((failed ++ [last]).flatMap Round.exchanges) := by
  obtain ⟨a, url, hall⟩ := hlast.completed_of_updated hv
  refine ⟨a, url, fun command hc => ?_⟩
  obtain ⟨e, he, hec, hes⟩ := hall command hc
  exact ⟨e, List.mem_flatMap.2 ⟨last, by simp, he⟩, hec, hes⟩

/-- What a call wrote before a last round that found the address in place, an earlier round
wrote. -/
theorem exists_write_of_alreadySet (hlast : setter.RoundCase last)
    (hv : last.value = .ok .alreadySet) {e : Exchange}
    (he : e ∈ (failed ++ [last]).flatMap Round.exchanges) (hwrite : setter.IsWrite e.command) :
    ∃ r ∈ failed, ∃ e ∈ r.exchanges, setter.IsWrite e.command := by
  obtain ⟨r, hr, her⟩ := List.mem_flatMap.1 he
  rcases List.mem_append.1 hr with hr | hr
  · exact ⟨r, hr, e, her, hwrite⟩
  · rw [List.mem_singleton.1 hr] at her
    exact absurd hwrite (hlast.no_write_of_alreadySet hv e her)

end

/-- A success that is reported after a write is a finished update, in every call but those that left
an update half done. -/
theorem success_completed_iff (setter : BmcSetter) (data : Members) (failures : Failures)
    (host : Host) :
    let call := setter.update data failures
    (ReportsSuccess (call.run host).value.1 →
        (∃ e ∈ call.exchanges host, setter.IsWrite e.command) →
        setter.Completed (call.exchanges host)) ↔
      ¬ setter.HalfDone (setter.callRounds host) := by
  intro call
  cases hallowed : setter.allowed.toNat with
  | zero =>
    rw [callRounds_of_none hallowed]
    refine iff_of_true (fun hsuccess => ?_) ?_
    · exact absurd hsuccess (not_reportsSuccess_of_none hallowed data failures host)
    · rintro ⟨⟨r, hr, -⟩, -⟩
      cases hr
  | succ more =>
    obtain ⟨failed, last, hrounds, hfailed, hlast⟩ := setter.rounds_eq more host
    have hcase : ∀ r ∈ failed ++ [last], setter.RoundCase r := by
      rw [← hrounds]
      exact fun r hr => setter.roundCase_of_mem _ host hr
    have hlastCase : setter.RoundCase last := hcase last (by simp)
    rw [reportsSuccess_update_iff hallowed, exchanges_update, callRounds_of_some hallowed, ← hlast,
      hrounds, halfDone_concat hlastCase]
    constructor
    · rintro hclaim ⟨⟨r, hr, w, hw, hwrite⟩, hv⟩
      have hmem := List.mem_flatMap.2 ⟨r, List.mem_append_left [last] hr, hw⟩
      exact not_completed_of_alreadySet hcase hfailed hv (hclaim (.inl hv) ⟨w, hmem, hwrite⟩)
    · rintro hdone (hv | hv) ⟨w, hw, hwrite⟩
      · exact absurd ⟨exists_write_of_alreadySet hlastCase hv hw hwrite, hv⟩ hdone
      · exact completed_of_updated hlastCase hv

/-! ## A half-done update -/

/-- A setter with one more attempt after the first. -/
def retryingOnce : BmcSetter := ⟨.standard, ⟨"1.1.1.1", 1, 0⟩⟩

/-- The address is set and the mask is refused; then the new address is read. -/
def refusedMask : Host :=
  let system := "System Information\n\tManufacturer: m\n\tProduct Name: p\n\tSerial Number: sn\n"
  let body := "\x7b\"ip_address\": \"10.0.0.2\", \"netmask\": \"255.0.0.0\", " ++
    "\"gateway\": \"10.0.0.1\"\x7d"
  .ofReplies [.printed system, .printed "IP Address : 0.0.0.0\n", .printed body, .silent, .silent,
    .ended (.exited 1) [] [], .printed system, .printed "IP Address : 10.0.0.2\n", .printed body]

theorem run_refusedMask :
    ReportsSuccess ((retryingOnce.update [] .empty).run refusedMask).value.1 ∧
    (∃ e ∈ (retryingOnce.update [] .empty).exchanges refusedMask,
      retryingOnce.IsWrite e.command) ∧
    ∀ e ∈ (retryingOnce.update [] .empty).exchanges refusedMask, "POST" ∉ e.command.arguments := by
  decide +kernel

/-- A success that is reported after a write need not be a finished update: here the mask was
refused, and neither the gateway nor the notice was sent. -/
theorem success_of_half_done_update :
    ¬ ∀ (setter : BmcSetter) (data : Members) (failures : Failures) (host : Host),
      setter.inspection.retries.toNat < UInt32.size - 1 →
        ReportsSuccess ((setter.update data failures).run host).value.1 →
        (∃ e ∈ (setter.update data failures).exchanges host, setter.IsWrite e.command) →
        setter.Completed ((setter.update data failures).exchanges host) := by
  intro h
  obtain ⟨hsuccess, hwrite, hnotice⟩ := run_refusedMask
  obtain ⟨a, url, hall⟩ := h retryingOnce [] .empty refusedMask (by decide) hsuccess hwrite
  obtain ⟨e, he, hc, -⟩ := hall (retryingOnce.postNotice url) (by simp [updateCommands])
  have hpost := hnotice e he
  rw [hc] at hpost
  exact hpost (by simp [postNotice])

end RaidProvision.BmcSetter

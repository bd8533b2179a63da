import RaidProvision.Proofs.Bmc.Completion

/-!
# In which order the management controller is set up

An attempt has eight commands, and it runs some of the first of them: three that read, four that
write and the notice to the service. Each is run only if those before it succeeded and could be
read, and the commands that write say what this attempt has read. What an earlier attempt has read
does not count.

* `attempt_attempted`: the commands of one attempt.
* `Attempted.of_notice`: an attempt that sends the notice has run all commands and ends with it.
* `update_disciplined`: the commands of a call, attempt by attempt.
-/
namespace RaidProvision

open RaidProvision.Json

namespace RunThrough

variable {commands : List Command} {es : List Exchange} {result : Except ExecutionError Unit}

theorem in_order (h : RunThrough commands es result) : es.map Exchange.command <+: commands := by
  cases h with
  | all hc hs => exact hc ▸ List.prefix_rfl
  | stopped done failed rest cause he hc hs hf => simp [he, hc]

theorem succeeded_of_mem_dropLast (h : RunThrough commands es result) :
    ∀ e ∈ es.dropLast, e.succeeded = true := by
  cases h with
  | all hc hs => exact fun e he => hs e ((List.dropLast_prefix es).subset he)
  | stopped done failed rest cause he hc hs hf => simpa [he] using hs

end RunThrough

/-- What is not in front of the last element of a list can only be the last element. -/
theorem eq_of_prefix_concat {α : Type} {front before after : List α} {x last : α}
    (h : before ++ x :: after <+: front ++ [last]) (hx : x ∉ front) :
    before = front ∧ after = [] := by
  rcases List.prefix_concat_iff.1 h with heq | hfront
  · rcases List.eq_nil_or_concat after with rfl | ⟨others, y, rfl⟩
    · exact ⟨(List.append_inj' heq rfl).1, rfl⟩
    · rw [List.concat_eq_append, ← List.cons_append, ← List.append_assoc] at heq
      have hfront : before ++ x :: others = front := (List.append_inj' heq rfl).1
      exact absurd (by simp [← hfront]) hx
  · exact absurd (hfront.subset (by simp)) hx

namespace BmcSetter

variable (setter : BmcSetter)

/-- The command that tells the service that the settings are in place. -/
def notification (url : String) : Command :=
  ⟨setter.tools.curl, ["-sSf", "--max-time", "10", "-X", "POST", "-H",
    "Content-Type: application/json", "-d", "\x7b\"has_set\":true\x7d", url]⟩

/-- All commands of an attempt on a machine with some serial number and assignment. -/
def sequence (serial : String) (a : Assignment) : List Command :=
  let url := serviceOf setter.inspection.callbackUrl ++ "/v1/bmc/" ++ serial
  let lan (arguments : List String) : Command := ⟨setter.tools.ipmitool, "lan" :: arguments⟩
  [⟨setter.tools.dmidecode, ["--type", "system"]⟩,
    lan ["print"],
    ⟨setter.tools.curl, ["-sSf", "--max-time", "10", url]⟩,
    lan ["set", "1", "ipsrc", "static"],
    lan ["set", "1", "ipaddr", a.address],
    lan ["set", "1", "netmask", a.netmask],
    lan ["set", "1", "defgw", "ipaddr", a.gateway],
    setter.notification url]

theorem postNotice_eq (url : String) : setter.postNotice url = setter.notification url := by
  have hnotice : notice = "\x7b\"has_set\":true\x7d" := by decide +kernel
  rw [postNotice, notification, hnotice]

theorem sequence_eq (serial : String) (a : Assignment) :
    setter.sequence serial a =
      [setter.tools.printSystem, setter.tools.printLan,
        setter.getSettings (setter.settingsUrl serial)] ++
        setter.updateCommands a (setter.settingsUrl serial) := by
  rw [updateCommands, postNotice_eq]
  rfl

/-- An attempt on a machine with some identity, present address and assignment. They are what the
attempt itself has read, as far as it came. -/
structure Attempted (identity : Identity) (current : String) (a : Assignment)
    (es : List Exchange) : Prop where
  in_order : es.map Exchange.command <+: setter.sequence identity.serial a
  /-- Nothing is run after a command that failed. -/
  succeeded : ∀ e ∈ es.dropLast, e.succeeded = true
  identified : 1 < es.length → ∃ e, es[0]? = some e ∧ e.Gives Identity.ofReport identity
  located : 2 < es.length → ∃ e, es[1]? = some e ∧ e.Gives Machine.bmcAddress current
  assigned : 3 < es.length →
    ∃ e, es[2]? = some e ∧ e.Gives Assignment.ofBody (some a) ∧ a.address ≠ current

/-! ## One attempt -/

variable {setter}

namespace Surveys

/-- An attempt that ends with its reading part. -/
theorem attempted {es : List Exchange} {result : Except BmcError Reading}
    (h : setter.Surveys es result) :
    ∃ identity current a, setter.Attempted identity current a es := by
  cases h with
  | unidentified system hs =>
    exact ⟨⟨"", "", ""⟩, "", ⟨"", "", ""⟩, by simp [sequence_eq, hs], by simp, by simp, by simp,
      by simp⟩
  | @unlocated system lan identity cause hs hi hl =>
    exact ⟨identity, "", ⟨"", "", ""⟩, by simp [sequence_eq, hs, hl], by simp [hi.succeeded],
      by simp [hi], by simp, by simp⟩
  | @unanswered system lan answer identity current cause hs hi hl hc ha =>
    exact ⟨identity, current, ⟨"", "", ""⟩, by simp [sequence_eq, hs, hl, ha],
      by simp [hi.succeeded, hc.succeeded], by simp [hi], by simp [hc], by simp⟩
  | @answered system lan answer identity current assigned hs hi hl hc ha hr =>
    exact ⟨identity, current, ⟨"", "", ""⟩, by simp [sequence_eq, hs, hl, ha],
      by simp [hi.succeeded, hc.succeeded], by simp [hi], by simp [hc], by simp⟩

/-- An attempt that goes on to write what it has read. -/
theorem attempted_append {es update : List Exchange} {reading : Reading} {a : Assignment}
    {result : Except ExecutionError Unit} (h : setter.Surveys es (.ok reading))
    (ha : reading.assigned = some a) (hne : a.address ≠ reading.current)
    (hrun : RunThrough (setter.updateCommands a reading.url) update result) :
    ∃ identity current a, setter.Attempted identity current a (es ++ update) := by
  cases h with
  | @answered system lan answer identity current assigned hs hi hl hc hask hr =>
    dsimp only at ha hne hrun
    subst ha
    refine ⟨identity, current, a, ?_, ?_, fun _ => ⟨system, rfl, hi⟩, fun _ => ⟨lan, rfl, hc⟩,
      fun _ => ⟨answer, rfl, hr, hne⟩⟩
    · have hupdate := hrun.in_order
      simpa [sequence_eq, hs, hl, hask] using hupdate
    · intro e he
      have hmem : e ∈ [system, lan, answer] ++ update.dropLast := by
        rw [List.dropLast_append] at he
        split at he
        · exact List.mem_append_left _ ((List.dropLast_prefix _).subset he)
        · exact he
      rcases List.mem_append.1 hmem with he | he
      · simp only [List.mem_cons, List.not_mem_nil, or_false] at he
        rcases he with rfl | rfl | rfl
        · exact hi.succeeded
        · exact hc.succeeded
        · exact hr.succeeded
      · exact hrun.succeeded_of_mem_dropLast e he

end Surveys

theorem attempt_attempted (setter : BmcSetter) (host : Host) :
    ∃ identity current a, setter.Attempted identity current a (setter.attempt.exchanges host) := by
  have hsurvey := setter.survey_surveys host
  rw [attempt_eq]
  cases hv : (setter.survey.run host).value with
  | error cause =>
    rw [Procedure.exchanges_bind_of_error _ hv]
    exact hsurvey.attempted
  | ok reading =>
    rw [Procedure.exchanges_bind_of_ok _ hv]
    rw [hv] at hsurvey
    have hacts := setter.act_acts reading (setter.survey.run host).host
    generalize (setter.act reading).exchanges (setter.survey.run host).host = es at hacts
    generalize ((setter.act reading).run (setter.survey.run host).host).value = value at hacts
    cases hacts with
    | unassigned ha => simpa using hsurvey.attempted
    | alreadySet a ha heq => simpa using hsurvey.attempted
    | updating a ha hne hrun => exact hsurvey.attempted_append ha hne hrun

/-! ## The notice -/

namespace Attempted

variable {identity : Identity} {current : String} {a : Assignment} {es : List Exchange}

/-- The notice is sent at the end of the whole sequence: it is none of the commands before. -/
theorem of_notice (h : setter.Attempted identity current a es) {before after : List Exchange}
    {notice : Exchange} {url : String} (hes : es = before ++ notice :: after)
    (hn : notice.command = setter.postNotice url) :
    es.map Exchange.command = setter.sequence identity.serial a ∧ after = [] := by
  have horder := h.in_order
  have hprefix := horder
  rw [sequence_eq, updateCommands, ← List.append_assoc, hes, List.map_append, List.map_cons]
    at hprefix
  obtain ⟨hbefore, hafter⟩ := eq_of_prefix_concat hprefix <| by
    rw [hn]
    intro hmem
    rcases List.mem_append.1 hmem with hread | hwrite
    · refine setter.postNotice_not_reads url ?_
      simp only [List.mem_cons, List.not_mem_nil, or_false] at hread
      rcases hread with hread | hread | hread
      · exact .inl hread
      · exact .inr (.inl hread)
      · exact .inr (.inr ⟨_, hread⟩)
    · exact setter.postNotice_not_isWrite url (setter.isWrite_of_mem hwrite)
  refine ⟨horder.eq_of_length ?_, List.map_eq_nil_iff.1 hafter⟩
  have hlength := congrArg List.length hbefore
  rw [sequence_eq, updateCommands, ← List.append_assoc, List.length_append, ← hlength, hes,
    List.map_eq_nil_iff.1 hafter]
  simp

theorem sequence_of_notice (h : setter.Attempted identity current a es)
    (hsent : ∃ notice ∈ es, ∃ url, notice.command = setter.notification url) :
    es.map Exchange.command = setter.sequence identity.serial a := by
  obtain ⟨notice, hmem, url, hn⟩ := hsent
  obtain ⟨before, after, hes⟩ := List.append_of_mem hmem
  exact (h.of_notice hes (hn.trans (setter.postNotice_eq url).symm)).1

end Attempted

/-! ## A call -/

/-- A call that is made of attempts. -/
structure Disciplined (setter : BmcSetter) (attempts : List (List Exchange))
    (es : List Exchange) : Prop where
  exchanges_eq : es = attempts.flatten
  /-- Each attempt goes by what it has read itself, and one that sends the notice has run the whole
  sequence. -/
  attempted : ∀ attempt ∈ attempts, ∃ identity current a,
    setter.Attempted identity current a attempt ∧
      ((∃ notice ∈ attempt, ∃ url, notice.command = setter.notification url) →
        attempt.map Exchange.command = setter.sequence identity.serial a)
  /-- Nothing is run after a notice that succeeded. -/
  noticed_last : ∀ before notice after url, es = before ++ notice :: after →
    notice.command = setter.notification url → notice.succeeded = true → after = []

/-- Only the last round can have sent a notice that succeeded, and the notice is its last command.
-/
theorem noticed_last_of_rounds {failed : List Round} {last : Round}
    (hcase : ∀ r ∈ failed, setter.RoundCase r)
    (hfailed : ∀ r ∈ failed, ∃ cause, r.value = .error cause) {identity : Identity}
    {current : String} {a : Assignment}
    (hlast : setter.Attempted identity current a last.exchanges)
    {before after : List Exchange} {notice : Exchange} {url : String}
    (hes : failed.flatMap Round.exchanges ++ last.exchanges = before ++ notice :: after)
    (hn : notice.command = setter.postNotice url) (hs : notice.succeeded = true) : after = [] := by
  -- A notice that succeeds ends the update, so it would have ended the call in an earlier round.
  have hnot : notice ∉ failed.flatMap Round.exchanges := by
    intro hmem
    obtain ⟨r, hr, he⟩ := List.mem_flatMap.1 hmem
    obtain ⟨cause, hv⟩ := hfailed r hr
    rw [(hcase r hr).updated_of_notice he hn hs] at hv
    cases hv
  rcases List.append_eq_append_iff.1 hes with ⟨others, -, hrest⟩ | ⟨others, hfront, hrest⟩
  · exact (hlast.of_notice hrest hn).2
  · cases others with
    | nil =>
      have hall : last.exchanges = [] ++ notice :: after := hrest.symm
      exact (hlast.of_notice hall hn).2
    | cons e others =>
      obtain ⟨rfl, -⟩ := List.cons.inj hrest
      exact absurd (by simp [hfront]) hnot

/-- A call is a list of attempts. Each runs the first few of its commands and each of them only if
those before it succeeded and could be read; what it writes is what this attempt was answered, and
only if the address in it is not the one that this attempt found. So the notice comes only after all
four settings of its attempt, and nothing comes after a notice that succeeded. -/
theorem update_disciplined (setter : BmcSetter) (data : Members) (failures : Failures)
    (host : Host) :
    ∃ attempts, setter.Disciplined attempts ((setter.update data failures).exchanges host) := by
  rw [exchanges_update]
  cases hallowed : setter.allowed.toNat with
  | zero =>
    rw [callRounds_of_none hallowed]
    refine ⟨[], rfl, by simp, fun before notice after url hes => ?_⟩
    simp at hes
  | succ more =>
    have hattempted : ∀ r ∈ setter.rounds more host,
        ∃ identity current a, setter.Attempted identity current a r.exchanges := by
      intro r hr
      obtain ⟨start, rfl⟩ := setter.exists_round_of_mem _ host hr
      exact setter.attempt_attempted start
    have hcase : ∀ r ∈ setter.rounds more host, setter.RoundCase r :=
      fun r => setter.roundCase_of_mem _ host
    obtain ⟨failed, last, hrounds, hfailed, -⟩ := setter.rounds_eq more host
    rw [callRounds_of_some hallowed]
    rw [hrounds] at hattempted hcase ⊢
    refine ⟨(failed ++ [last]).map Round.exchanges, List.flatMap_def .., ?_, ?_⟩
    · intro attempt hmem
      obtain ⟨r, hr, rfl⟩ := List.mem_map.1 hmem
      obtain ⟨identity, current, a, h⟩ := hattempted r hr
      exact ⟨identity, current, a, h, h.sequence_of_notice⟩
    · intro before notice after url hes hn hs
      obtain ⟨identity, current, a, h⟩ := hattempted last (by simp)
      rw [List.flatMap_append, List.flatMap_singleton] at hes
      rw [← postNotice_eq] at hn
      exact noticed_last_of_rounds (fun r hr => hcase r (by simp [hr])) hfailed h hes hn hs

end BmcSetter
end RaidProvision

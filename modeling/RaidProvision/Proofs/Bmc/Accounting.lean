import Mathlib.Logic.Function.Iterate
import RaidProvision.Proofs.Bmc.Discipline

/-!
# What a call counts and notes

A call makes attempts up to the first that does not fail, and no more than its settings allow. The
last of them alone decides what stands in the data and whether a failure is noted. Attempts are
numbered from 0, each on what those before it left to answer from (`trial`); calls in a row likewise
(`call`).

* `exists_endsWith`, `EndsWith.unique`: there is exactly one attempt that a call can end with.
* `rounds_eq_trials`, `run_attempts`: the attempts of a call, by induction on those allowed.
* `call_accounted`: what one call asks for, and what it leaves in the data and the failures.
* `calls_accounted`: calls in a row, and what is told of them in the end.
* `call_of_none`: where no attempt is allowed a call does nothing and notes nothing.
-/
namespace RaidProvision

open RaidProvision.Json

namespace BmcSetter

/-- The attempt came to nothing. -/
def Round.Failed (r : Round) : Prop := ∃ cause, r.value = .error cause

instance (r : Round) : Decidable r.Failed :=
  match h : r.value with
  | .error cause => .isTrue ⟨cause, h⟩
  | .ok _ => .isFalse fun ⟨_, hcause⟩ => by rw [h] at hcause; cases hcause

/-- The attempt ended with the settings in place. -/
def Round.InPlace (r : Round) : Prop := r.value = .ok .alreadySet ∨ r.value = .ok .updated

theorem Round.not_failed_iff (r : Round) : ¬ r.Failed ↔ ∃ outcome, r.value = .ok outcome := by
  unfold Failed
  cases r.value <;> simp

variable (setter : BmcSetter)

/-! ## Attempts in a row -/

/-- What is left to answer from after some attempts in a row, whatever they came to. -/
def hostAfter : Nat → Host → Host
  | 0, host => host
  | n + 1, host => hostAfter n (setter.attempt.run host).host

/-- An attempt in a row of attempts, counted from 0. -/
def trial (n : Nat) (host : Host) : Round := setter.round (setter.hostAfter n host)

/-- A call with some attempts after the first ends with an attempt: the first that does not fail, or
the last that is allowed. -/
structure EndsWith (more : Nat) (host : Host) (n : Nat) : Prop where
  allowed : n ≤ more
  failed_before : ∀ i < n, (setter.trial i host).Failed
  last : (setter.trial n host).Failed → n = more

variable {setter} {more n : Nat} {host : Host}

theorem EndsWith.succ (hfirst : (setter.trial 0 host).Failed)
    (h : setter.EndsWith more (setter.attempt.run host).host n) :
    setter.EndsWith (more + 1) host (n + 1) where
  allowed := Nat.succ_le_succ h.allowed
  failed_before i hi := by
    cases i with
    | zero => exact hfirst
    | succ i => exact h.failed_before i (Nat.lt_of_succ_lt_succ hi)
  last hlast := congrArg (· + 1) (h.last hlast)

/-- A call that ends with a later attempt goes on from its first one. -/
theorem EndsWith.tail (h : setter.EndsWith (more + 1) host (n + 1)) :
    setter.EndsWith more (setter.attempt.run host).host n where
  allowed := Nat.le_of_succ_le_succ h.allowed
  failed_before i hi := h.failed_before (i + 1) (Nat.succ_lt_succ hi)
  last hlast := Nat.succ.inj (h.last hlast)

theorem exists_endsWith (setter : BmcSetter) (more : Nat) (host : Host) :
    ∃ n, setter.EndsWith more host n := by
  induction more generalizing host with
  | zero => exact ⟨0, Nat.le_refl 0, by simp, fun _ => rfl⟩
  | succ more ih =>
    by_cases hfirst : (setter.trial 0 host).Failed
    · obtain ⟨n, hn⟩ := ih (setter.attempt.run host).host
      exact ⟨n + 1, hn.succ hfirst⟩
    · exact ⟨0, Nat.zero_le _, by simp, fun hlast => absurd hlast hfirst⟩

theorem EndsWith.unique {m : Nat} (hn : setter.EndsWith more host n)
    (hm : setter.EndsWith more host m) : n = m := by
  rcases Nat.lt_trichotomy n m with hlt | heq | hlt
  · have hmore := hn.last (hm.failed_before n hlt)
    exact absurd hm.allowed (by omega)
  · exact heq
  · have hmore := hm.last (hn.failed_before m hlt)
    exact absurd hn.allowed (by omega)

/-- A call ends with a failure iff all attempts that are allowed fail. -/
theorem EndsWith.failed_iff (h : setter.EndsWith more host n) :
    (setter.trial n host).Failed ↔ ∀ i ≤ more, (setter.trial i host).Failed := by
  constructor
  · intro hlast i hi
    rcases Nat.lt_or_eq_of_le (h.last hlast ▸ hi : i ≤ n) with hlt | rfl
    · exact h.failed_before i hlt
    · exact hlast
  · intro hall
    exact hall n h.allowed

/-! ## The attempts of a call -/

theorem rounds_eq_trials (h : setter.EndsWith more host n) :
    setter.rounds more host = (List.range (n + 1)).map fun i => setter.trial i host := by
  induction more generalizing host n with
  | zero =>
    obtain rfl : n = 0 := Nat.le_zero.1 h.allowed
    rfl
  | succ more ih =>
    rw [rounds, List.range_succ_eq_map, List.map_cons]
    refine congrArg₂ List.cons rfl ?_
    cases n with
    | zero =>
      have hok : ¬ (setter.round host).Failed := fun hfailed => by simpa using h.last hfailed
      obtain ⟨outcome, hv⟩ := (Round.not_failed_iff _).1 hok
      simp only [hv, List.range_zero, List.map_nil]
    | succ n =>
      obtain ⟨cause, hv⟩ : (setter.round host).Failed := h.failed_before 0 (Nat.succ_pos n)
      simp only [hv]
      rw [ih h.tail, List.map_map]
      rfl

/-- The attempts of a call come to what the last of them comes to. -/
theorem run_attempts (h : setter.EndsWith more host n) :
    ((setter.attempts more).run host).value = (setter.trial n host).value ∧
      ((setter.attempts more).run host).host = setter.hostAfter (n + 1) host := by
  induction more generalizing host n with
  | zero =>
    obtain rfl : n = 0 := Nat.le_zero.1 h.allowed
    exact ⟨rfl, rfl⟩
  | succ more ih =>
    rw [attempts, Script.run_bind]
    cases n with
    | zero =>
      have hok : ¬ (setter.round host).Failed := fun hfailed => by simpa using h.last hfailed
      obtain ⟨outcome, hv⟩ := (Round.not_failed_iff _).1 hok
      refine ⟨?_, ?_⟩
      · change _ = (setter.round host).value
        rw [hv]
        simp only [round, Procedure.run] at hv
        simp only [hv, Script.run_done]
      · simp only [round, Procedure.run] at hv
        simp only [hv, Script.run_done]
        rfl
    | succ n =>
      obtain ⟨cause, hv⟩ : (setter.round host).Failed := h.failed_before 0 (Nat.succ_pos n)
      simp only [round, Procedure.run] at hv
      simp only [hv]
      exact ih h.tail

theorem attempt_exchanges_ne_nil (setter : BmcSetter) (host : Host) :
    setter.attempt.exchanges host ≠ [] := by
  rw [attempt_eq, Procedure.exchanges_bind]
  have hsurvey := setter.survey_surveys host
  generalize setter.survey.exchanges host = es at hsurvey
  generalize (setter.survey.run host).value = result at hsurvey
  cases hsurvey <;> simp

/-- An attempt asks for the identity of the machine first, and once. -/
theorem count_printSystem_trial (setter : BmcSetter) (n : Nat) (host : Host) :
    ((setter.trial n host).exchanges.map Exchange.command).count setter.tools.printSystem = 1 := by
  change ((setter.attempt.exchanges (setter.hostAfter n host)).map Exchange.command).count _ = 1
  generalize setter.hostAfter n host = host
  obtain ⟨identity, current, a, hattempted⟩ := setter.attempt_attempted host
  have horder := hattempted.in_order
  rw [sequence_eq, List.cons_append] at horder
  rcases List.prefix_cons_iff.1 horder with hnone | ⟨others, heq, hothers⟩
  · exact absurd (List.map_eq_nil_iff.1 hnone) (setter.attempt_exchanges_ne_nil host)
  · have hnot : setter.tools.printSystem ∉ others := fun hmem => by
      have hlater := hothers.subset hmem
      simp [ToolPaths.printSystem, ToolPaths.printLan, getSettings, updateCommands, writeCommands,
        setLan, postNotice] at hlater
    rw [heq, List.count_cons_self, List.count_eq_zero_of_not_mem hnot]

/-! ## One call -/

/-- What calls in a row work on. -/
structure Progress where
  data : Members
  failures : Failures
  /-- What is left to answer from. -/
  host : Host

/-- One more call. -/
def call (setter : BmcSetter) (s : Progress) : Progress :=
  let o := (setter.update s.data s.failures).run s.host
  ⟨o.value.1, o.value.2, o.host⟩

/-- No attempt that is allowed comes to anything. -/
def Exhausted (setter : BmcSetter) (host : Host) : Prop :=
  ∀ i ≤ setter.inspection.retries.toNat, (setter.trial i host).Failed

/-- A call that ends with an attempt. -/
structure Accounted (setter : BmcSetter) (s : Progress) (n : Nat) : Prop where
  ends : setter.EndsWith setter.inspection.retries.toNat s.host n
  /-- The commands are those of the first `n + 1` attempts. -/
  exchanges_eq : (setter.update s.data s.failures).exchanges s.host =
    (List.range (n + 1)).flatMap fun i => (setter.trial i s.host).exchanges
  /-- Each attempt asks once for the identity of the machine. -/
  identified : (((setter.update s.data s.failures).exchanges s.host).map Exchange.command).count
    setter.tools.printSystem = n + 1
  /-- The next call goes on with the answers that these attempts left. -/
  host_eq : (setter.call s).host = setter.hostAfter (n + 1) s.host
  /-- The last attempt decides what is reported, whatever was reported before. -/
  reported : ∃ inPlace, (setter.call s).data.lookup "set_ipmi" =
    some (.object [("result", .boolean inPlace)]) ∧
      (inPlace = true ↔ (setter.trial n s.host).InPlace)
  others_kept : ∀ key, key ≠ "set_ipmi" → (setter.call s).data.lookup key = s.data.lookup key
  unnoted : ¬ setter.Exhausted s.host → (setter.call s).failures = s.failures
  noted : setter.Exhausted s.host → ∃ cause, (setter.trial n s.host).value = .error cause ∧
    (setter.call s).failures.entries =
      s.failures.entries ++ ["failed to set bmc address: " ++ cause.message]

theorem lookup_record_of_ne (data : Members) (inPlace : Bool) {key : String}
    (h : key ≠ resultKey) : (record data inPlace).lookup key = data.lookup key := by
  rw [record, Members.lookup_insert, if_neg h]

theorem call_accounted {setter : BmcSetter}
    (hretries : setter.inspection.retries.toNat < UInt32.size - 1) (s : Progress) :
    ∃! n, setter.Accounted s n := by
  have hallowed := setter.toNat_allowed hretries
  obtain ⟨n, hends⟩ := setter.exists_endsWith setter.inspection.retries.toNat s.host
  have hexchanges : (setter.update s.data s.failures).exchanges s.host =
      (List.range (n + 1)).flatMap fun i => (setter.trial i s.host).exchanges := by
    rw [exchanges_update, callRounds_of_some hallowed, rounds_eq_trials hends, List.flatMap_map]
  obtain ⟨hvalue, hhost⟩ := run_attempts hends
  have hcall := value_update s.data s.failures hallowed s.host
  rw [hvalue] at hcall
  refine ⟨n, ⟨hends, hexchanges, ?_, ?_, ?_, ?_, ?_, ?_⟩, fun m hm => hm.ends.unique hends⟩
  · rw [hexchanges, List.map_flatMap, List.count_flatMap]
    simp [Function.comp_def, count_printSystem_trial, List.map_const']
  · rw [← hhost, call, update_of_some _ _ hallowed, Script.run_bind]
    rfl
  · change ∃ inPlace, ((setter.update s.data s.failures).run s.host).value.1.lookup _ = _ ∧ _
    rw [hcall]
    cases hv : (setter.trial n s.host).value with
    | error cause => exact ⟨false, lookup_record _ _, by simp [Round.InPlace, hv]⟩
    | ok outcome =>
      refine ⟨outcome ≠ .unassigned, lookup_record _ _, ?_⟩
      cases outcome <;> simp [Round.InPlace, hv]
  · intro key hkey
    change ((setter.update s.data s.failures).run s.host).value.1.lookup key = _
    rw [hcall]
    cases (setter.trial n s.host).value <;> exact lookup_record_of_ne _ _ hkey
  · intro hsome
    obtain ⟨outcome, hv⟩ := (Round.not_failed_iff _).1 (mt hends.failed_iff.1 hsome)
    change ((setter.update s.data s.failures).run s.host).value.2 = _
    rw [hcall, hv]
    rfl
  · intro hall
    obtain ⟨cause, hv⟩ := hends.failed_iff.2 hall
    refine ⟨cause, hv, ?_⟩
    change ((setter.update s.data s.failures).run s.host).value.2.entries = _
    rw [hcall, hv]
    rfl

instance (setter : BmcSetter) : DecidablePred setter.Exhausted := fun host =>
  inferInstanceAs (Decidable (∀ i ≤ setter.inspection.retries.toNat, (setter.trial i host).Failed))

/-- What a call notes: the error of the last attempt that is allowed, if none of them came to
anything. -/
def note? (setter : BmcSetter) (host : Host) : Option String :=
  if setter.Exhausted host then
    match (setter.trial setter.inspection.retries.toNat host).value with
    | .error cause => some ("failed to set bmc address: " ++ cause.message)
    | .ok _ => none
  else none

theorem isSome_note?_iff (setter : BmcSetter) (host : Host) :
    (setter.note? host).isSome ↔ setter.Exhausted host := by
  unfold note?
  split
  case isTrue hall =>
    obtain ⟨cause, hv⟩ := hall _ (Nat.le_refl _)
    simp [hv, hall]
  case isFalse hsome => simp [hsome]

section
variable {setter : BmcSetter} (hretries : setter.inspection.retries.toNat < UInt32.size - 1)
include hretries

/-- A call notes one failure or none. -/
theorem entries_call (s : Progress) :
    (setter.call s).failures.entries = s.failures.entries ++ (setter.note? s.host).toList := by
  obtain ⟨n, haccounted, -⟩ := call_accounted hretries s
  unfold note?
  split
  case isTrue hall =>
    obtain ⟨cause, hv, hentries⟩ := haccounted.noted hall
    rw [haccounted.ends.last ⟨cause, hv⟩] at hv
    rw [hentries, hv]
    rfl
  case isFalse hsome => rw [haccounted.unnoted hsome, Option.toList_none, List.append_nil]

/-- What calls in a row note, in their order. -/
theorem entries_calls (s : Progress) (count : Nat) :
    (setter.call^[count] s).failures.entries =
      s.failures.entries ++ (List.range count).filterMap fun i =>
        setter.note? (setter.call^[i] s).host := by
  induction count with
  | zero => simp
  | succ count ih =>
    rw [Function.iterate_succ_apply', entries_call hretries, ih, List.range_succ,
      List.filterMap_append, List.append_assoc]
    cases hnote : setter.note? (setter.call^[count] s).host <;> simp [hnote]

end

theorem verdict?_eq (failures : Failures) :
    failures.verdict? = if failures.entries = [] then none
      else some ("inspection failed: The following errors were encountered:\n" ++
        "\n".intercalate (failures.entries.map ("* " ++ ·))) := by
  unfold Failures.verdict? Failures.error? Failures.isEmpty
  cases failures.entries with
  | nil => rfl
  | cons first rest =>
    simp only [List.isEmpty_cons, reduceCtorEq, if_false, Bool.false_eq_true, Option.map_some]
    rw [← String.append_assoc]
    rfl

/-- Calls in a row on one sink. Each makes attempts up to the first that comes to something, or all
that are allowed, and the last of them says what the call leaves in the data and the sink. What is
told in the end has one entry for each call that came to nothing, in the order of the calls. -/
theorem calls_accounted (setter : BmcSetter)
    (hretries : setter.inspection.retries.toNat < UInt32.size - 1) (data : Members)
    (failures : Failures) (host : Host) (count : Nat) :
    (∀ i, ∃! n, setter.Accounted (setter.call^[i] ⟨data, failures, host⟩) n) ∧
      let before (i : Nat) : Host := (setter.call^[i] ⟨data, .empty, host⟩).host
      let verdict := (setter.call^[count] ⟨data, .empty, host⟩).failures.verdict?
      let notes := (List.range count).filterMap fun i => setter.note? (before i)
      (verdict.isSome ↔ ∃ i < count, setter.Exhausted (before i)) ∧
        verdict = if notes = [] then none
          else some ("inspection failed: The following errors were encountered:\n" ++
            "\n".intercalate (notes.map ("* " ++ ·))) := by
  refine ⟨fun i => call_accounted hretries _, ?_⟩
  intro before verdict notes
  have hentries : (setter.call^[count] ⟨data, .empty, host⟩).failures.entries = notes :=
    entries_calls hretries ⟨data, .empty, host⟩ count
  have hverdict := verdict?_eq (setter.call^[count] ⟨data, .empty, host⟩).failures
  rw [hentries] at hverdict
  refine ⟨?_, hverdict⟩
  have hnotes : notes ≠ [] ↔ ∃ i < count, setter.Exhausted (before i) := by
    simp only [notes, ne_eq, List.filterMap_eq_nil_iff, List.mem_range, not_forall,
      ← Option.not_isSome_iff_eq_none, isSome_note?_iff, not_not, exists_prop]
  rw [← hnotes]
  change (Failures.verdict? _).isSome ↔ _
  rw [hverdict]
  by_cases hnone : notes = []
  · simp [hnone]
  · simp [hnone]

/-- The report on the machine cannot be had twice, and is there the third time; the network has the
address that is assigned. -/
def unreadTwice : Host :=
  .ofReplies [.ended (.exited 1) [] [], .ended (.exited 1) [] [],
    .printed "System Information\n\tManufacturer: m\n\tProduct Name: p\n\tSerial Number: sn\n",
    .printed "IP Address : 10.0.0.2\n",
    .printed "[\"10.0.0.2\", \"255.0.0.0\", \"10.0.0.1\"]"]

/-- What the first of two calls notes, which spends both its attempts. -/
def unreadNote : String :=
  "failed to set bmc address: reading host facts: execution error: Command " ++
    "[dmidecode --type system] executed and failed with status: 1  stdout:   stderr: "

/-- The second call ends with its first attempt, so one failure is told in the end. -/
theorem calls_accounted_unreadTwice :
    retryingOnce.inspection.retries.toNat < UInt32.size - 1 ∧
    (∀ i, ∃! n, retryingOnce.Accounted (retryingOnce.call^[i] ⟨[], .empty, unreadTwice⟩) n) ∧
    (retryingOnce.call^[2] ⟨[], .empty, unreadTwice⟩).failures.verdict? =
      some ("inspection failed: The following errors were encountered:\n" ++
        "\n".intercalate ["* " ++ unreadNote]) := by
  have hretries : retryingOnce.inspection.retries.toNat < UInt32.size - 1 := by decide
  have hnotes : ((List.range 2).filterMap fun i =>
      retryingOnce.note? (retryingOnce.call^[i] ⟨[], .empty, unreadTwice⟩).host) =
        [unreadNote] := by decide +kernel
  obtain ⟨haccounted, -, hverdict⟩ := calls_accounted retryingOnce hretries [] .empty unreadTwice 2
  refine ⟨hretries, haccounted, hverdict.trans ?_⟩
  rw [hnotes, if_neg (List.cons_ne_nil _ _), List.map_singleton]

end BmcSetter
end RaidProvision

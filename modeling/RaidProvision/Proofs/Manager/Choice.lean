import RaidProvision.Manager.Basic
import RaidProvision.Proofs.Manager.Ranking
import RaidProvision.Proofs.Session.Exchange
import RaidProvision.Proofs.Session.Quiet

/-!
# Asking managers

Managers are asked in turn whether they find a controller, and the first one that does is chosen.
Asking takes one command and one reply for each manager, whatever the reply is, so the managers that
follow are asked with the replies that are left.

* `ShowsController`, `finds_iff`: which replies show a controller.
* `run_support`: asking one manager.
* `value_detect_iff`, `value_support_eq_mainline_iff`: what is told then.
* `run_evaluateAll`, `choose_eq_find?`: asking all of them, and what is chosen then.
* `run_dispatch`: the two together.
-/
namespace RaidProvision

/-! ## Asking one manager -/

/-- The number of controllers that the output of a probe tells. -/
def Family.count : Family → String → Except ReportError UInt32
  | .arcconf => Arcconf.controllerCount
  | .megacli => MegaCli.adapterCount

namespace Manager

variable (manager : Manager)

/-- The command that counts the controllers of the family. -/
def probe : Command :=
  match manager.family with
  | .arcconf => manager.arcconf.command Arcconf.listArguments
  | .megacli => manager.megacli.command MegaCli.countArguments

/-- A reply to the probe shows a controller: the probe succeeded and tells a number that is not
zero. -/
def ShowsController (reply : Reply) : Prop :=
  ∃ n : UInt32, n ≠ 0 ∧ Exchange.Gives ⟨manager.probe, reply⟩ manager.family.count n

/-- Whether a reply shows a controller. -/
def finds (reply : Reply) : Bool :=
  match reply.read manager.probe with
  | .error _ => false
  | .ok report =>
    match manager.family.count report with
    | .ok n => n != 0
    | .error _ => false

theorem finds_iff (reply : Reply) : manager.finds reply = true ↔ manager.ShowsController reply := by
  unfold finds ShowsController Exchange.Gives
  cases hread : reply.read manager.probe with
  | error cause => simp
  | ok report =>
    cases hcount : manager.family.count report with
    | error cause => simp [hcount]
    | ok n => simp [hcount]

/-- The level of support that a reply leads to. -/
def level (reply : Reply) : Support := if manager.finds reply then .mainline else .none

/-- One probe is run and one reply is taken. -/
theorem run_support (host : Host) :
    manager.support.run host =
      ⟨manager.level (host.reply manager.probe), [.run manager.probe],
        host.withReplies host.replies.tail⟩ := by
  obtain ⟨family, tools⟩ := manager
  cases family <;> rfl

section
variable {manager}

theorem value_detect_iff {host : Host} :
    (manager.detect.run host).value = true ↔
      manager.ShowsController (host.reply manager.probe) := by
  rw [← finds_iff]
  obtain ⟨family, tools⟩ := manager
  cases family <;> exact Iff.rfl

theorem value_support_eq_mainline_iff {host : Host} :
    (manager.support.run host).value = .mainline ↔
      manager.ShowsController (host.reply manager.probe) := by
  rw [← finds_iff, run_support, level]
  split <;> simp [*]

theorem value_support_eq_none_iff {host : Host} :
    (manager.support.run host).value = .none ↔
      ¬ manager.ShowsController (host.reply manager.probe) := by
  rw [← finds_iff, run_support, level]
  split <;> simp [*]

end

/-! ## Asking all of them -/

/-- What managers tell of their support, asked one after the other. -/
def heard : List Manager → Host → List (Manager × Support)
  | [], _ => []
  | manager :: rest, host =>
    (manager, manager.level (host.reply manager.probe)) ::
      heard rest (host.withReplies host.replies.tail)

theorem run_evaluateAll (managers : List Manager) : ∀ host : Host,
    (evaluateAll support managers).run host =
      ⟨heard managers host, managers.map fun manager => .run manager.probe,
        host.withReplies (host.replies.drop managers.length)⟩ := by
  induction managers with
  | nil => exact fun host => rfl
  | cons manager rest ih =>
    intro host
    simp only [evaluateAll, Script.run_bind, run_support, ih, Script.run_done, List.append_nil,
      heard, List.map_cons, List.length_cons, List.singleton_append]
    simp only [Host.withReplies, List.drop_tail]

theorem level_heard {managers : List Manager} : ∀ {host : Host},
    ∀ told ∈ heard managers host, told.2 = .none ∨ told.2 = .mainline := by
  induction managers with
  | nil => exact fun told h => absurd h List.not_mem_nil
  | cons manager rest ih =>
    intro host told htold
    rcases List.mem_cons.1 htold with rfl | hrest
    · unfold level
      cases manager.finds (host.reply manager.probe) <;> simp
    · exact ih told hrest

section
variable {α : Type}

/-- Where there is full support or none, the first full one is chosen. -/
theorem choose_eq_find? {candidates : List (α × Support)}
    (h : ∀ candidate ∈ candidates, candidate.2 = .none ∨ candidate.2 = .mainline) :
    choose candidates =
      (candidates.find? fun candidate => candidate.2 = .mainline).map Prod.fst := by
  have hleads := leads_answers candidates
  unfold choose
  congr 1
  generalize candidates.foldl better none = result at hleads ⊢
  cases hleads with
  | nobody hnobody =>
    refine (List.find?_eq_none.2 fun candidate hmem => ?_).symm
    simp [hnobody candidate hmem]
  | @first best before after hseen hbest hbefore _ =>
    have hfull : best.2 = .mainline := (h best (by simp [hseen])).resolve_left hbest
    refine (List.find?_eq_some_iff_append.2 ⟨by simp [hfull], before, after, hseen, ?_⟩).symm
    intro candidate hmem
    have hlower := hbefore candidate hmem
    simp only [Bool.not_eq_true', decide_eq_false_iff_not]
    intro heq
    rw [heq, hfull] at hlower
    exact Nat.lt_irrefl _ hlower

end

/-- The first manager whose reply shows a controller, where each takes the next reply. -/
def first? : List Manager → Host → Option Manager
  | [], _ => none
  | manager :: rest, host =>
    if manager.finds (host.reply manager.probe) then some manager
    else first? rest (host.withReplies host.replies.tail)

theorem find?_heard (managers : List Manager) : ∀ host : Host,
    ((heard managers host).find? fun told => told.2 = .mainline).map Prod.fst =
      first? managers host := by
  induction managers with
  | nil => exact fun host => rfl
  | cons manager rest ih =>
    intro host
    rw [heard, first?]
    cases hfinds : manager.finds (host.reply manager.probe) with
    | true => simp [level, hfinds]
    | false => simp [level, hfinds, ih]

/-- Choosing among managers takes a probe and a reply for each of them, whatever they are, and ends
with the first one that finds a controller. -/
theorem run_dispatch (managers : List Manager) (host : Host) :
    (dispatch support managers).run host =
      ⟨first? managers host, managers.map fun manager => .run manager.probe,
        host.withReplies (host.replies.drop managers.length)⟩ := by
  rw [← find?_heard, ← choose_eq_find? level_heard]
  simp only [dispatch, Script.run_bind, run_evaluateAll, Script.run_done, List.append_nil]

/-- Only the replies matter to the choice. -/
theorem first?_congr {managers : List Manager} : ∀ {a b : Host}, a.replies = b.replies →
    first? managers a = first? managers b := by
  induction managers with
  | nil => exact fun _ => rfl
  | cons manager rest ih =>
    intro a b h
    have hreply : a.reply manager.probe = b.reply manager.probe := by
      simp only [Host.reply, Host.nextReply, h]
    have hrest : first? rest (a.withReplies a.replies.tail) =
        first? rest (b.withReplies b.replies.tail) :=
      ih (by simp only [Host.withReplies, h])
    simp only [first?, hreply, hrest]

end Manager

end RaidProvision

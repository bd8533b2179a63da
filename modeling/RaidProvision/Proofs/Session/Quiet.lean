import RaidProvision.Session.ToolTask

/-!
# Steps without a command

Before a tool runs, files are read and written. `Script.Quiet` says that a script runs no command on
any host of some kind, leaves a host of that kind and ends with a value of some kind. It goes from
the parts of a script to the whole. If a part always fails, those after it are not reached, so
nothing has to be known of what they run.

* `Script.Quiet.bind`, `Procedure.Quiet.bind`: a part and then the rest, given what the part ends
  with.
* `Script.quiet_request`: a request that is no command.
* `Script.run_withReplies`, `Procedure.run_withReplies`: without a command, the replies make no
  difference.
-/
namespace RaidProvision

variable {ε α β : Type} {I : Host → Prop}

namespace Script

/-- Run on a host of some kind, a script runs no command, leaves a host of that kind and ends with
a value of some kind. -/
def Quiet (I : Host → Prop) (Q : α → Prop) (s : Script α) : Prop :=
  ∀ host, I host → (s.run host).commands = [] ∧ I (s.run host).host ∧ Q (s.run host).value

variable {Q : α → Prop} {R : β → Prop}

theorem quiet_done {a : α} (ha : Q a) : Quiet I Q (done a) := fun _ hI => ⟨rfl, hI, ha⟩

theorem commands_bind (s : Script α) (k : α → Script β) (host : Host) :
    ((s.bind k).run host).commands =
      (s.run host).commands ++ ((k (s.run host).value).run (s.run host).host).commands := by
  simp only [run_bind, Outcome.commands, List.filterMap_append]

theorem Quiet.bind {s : Script α} {k : α → Script β} (h : Quiet I Q s)
    (hk : ∀ a, Q a → Quiet I R (k a)) : Quiet I R (s.bind k) := by
  intro host hI
  obtain ⟨hcommands, hleft, hvalue⟩ := h host hI
  obtain ⟨hcommands', hleft', hvalue'⟩ := hk _ hvalue _ hleft
  rw [commands_bind, hcommands, hcommands', run_bind]
  exact ⟨rfl, hleft', hvalue'⟩

/-- A request that is no command, after which the host is of the same kind. -/
theorem quiet_request {r : Request} {Q : r.Answer → Prop} (hr : ∀ command, r ≠ .run command)
    (hI : ∀ host, I host → I (host.answer r).2 ∧ Q (host.answer r).1) :
    Quiet I Q (request r) := by
  intro host h
  refine ⟨?_, hI host h⟩
  cases r with
  | run command => exact absurd rfl (hr command)
  | _ => rfl

end Script

namespace Procedure

/-- The same of a procedure. -/
def Quiet (I : Host → Prop) (Q : Except ε α → Prop) (p : Procedure ε α) : Prop :=
  p.script.Quiet I Q

variable {Q : Except ε α → Prop} {R : Except ε β → Prop}

theorem quiet_pure {a : α} (ha : Q (.ok a)) : Quiet I Q (pure a) := Script.quiet_done ha

theorem quiet_throw {cause : ε} (hcause : Q (.error cause)) : Quiet I Q (throw cause) :=
  Script.quiet_done hcause

theorem quiet_lift {P : α → Prop} {s : Script α} (h : s.Quiet I P) (hP : ∀ a, P a → Q (.ok a)) :
    Quiet I Q (s : Procedure ε α) :=
  h.bind fun a ha => Script.quiet_done (hP a ha)

/-- The rest is only reached if the first part does not fail. -/
theorem Quiet.bind {p : Procedure ε α} {k : α → Procedure ε β} (h : Quiet I Q p)
    (hok : ∀ a, Q (.ok a) → Quiet I R (k a))
    (herror : ∀ cause, Q (.error cause) → R (.error cause)) : Quiet I R (p >>= k) := by
  refine Script.Quiet.bind (s := p.script) h ?_
  intro result hresult
  cases result with
  | ok a => exact hok a hresult
  | error cause => exact Script.quiet_done (herror cause hresult)

/-- A script comes first, which does not fail. -/
theorem quiet_lift_bind {P : α → Prop} {s : Script α} (h : s.Quiet I P) {k : α → Procedure ε β}
    (hk : ∀ a, P a → Quiet I R (k a)) : Quiet I R ((s : Procedure ε α) >>= k) := by
  have hlift : Quiet (ε := ε) I (fun result => ∃ a, result = .ok a ∧ P a) s :=
    quiet_lift h fun a ha => ⟨a, rfl, ha⟩
  refine hlift.bind ?_ ?_
  · rintro a ⟨_, ⟨⟩, ha⟩
    exact hk a ha
  · rintro cause ⟨_, ⟨⟩, -⟩

end Procedure

/-! ## Replies that are not taken -/

namespace Host

/-- The host with other replies. -/
def withReplies (host : Host) (replies : List Reply) : Host := { host with replies := replies }

/-- What is answered from files and the clock does not depend on the replies. -/
theorem answer_withReplies (host : Host) (replies : List Reply) {r : Request}
    (hr : ∀ command, r ≠ .run command) :
    (host.withReplies replies).answer r =
      ((host.answer r).1, (host.answer r).2.withReplies replies) ∧
    (host.answer r).2.replies = host.replies := by
  cases r with
  | run command => exact absurd rfl (hr command)
  | replaceFile path content =>
    simp only [answer, withReplies]
    cases host.files.replace host.directory (Text.octets path) (Text.octets content) <;>
      exact ⟨rfl, rfl⟩
  | appendFile path =>
    simp only [answer, withReplies]
    cases host.files.touch host.directory (Text.octets path) <;> exact ⟨rfl, rfl⟩
  | _ => exact ⟨rfl, rfl⟩

end Host

/-- A run without a command does not depend on the replies, and leaves them all. -/
theorem Script.run_withReplies (s : Script α) : ∀ host, (s.run host).commands = [] →
    ∀ replies, s.run (host.withReplies replies) =
      ⟨(s.run host).value, (s.run host).transcript, (s.run host).host.withReplies replies⟩ ∧
    (s.run host).host.replies = host.replies := by
  induction s with
  | done a => exact fun host _ replies => ⟨rfl, rfl⟩
  | ask r next ih =>
    intro host hcommands replies
    have hr : ∀ command, r ≠ .run command := by
      rintro command rfl
      simp [run, Outcome.commands] at hcommands
    obtain ⟨hanswer, hreplies⟩ := host.answer_withReplies replies hr
    have hrest : ((next (host.answer r).1).run (host.answer r).2).commands = [] := by
      cases r with
      | run command => exact absurd rfl (hr command)
      | _ => exact hcommands
    obtain ⟨hrun, hleft⟩ := ih _ (host.answer r).2 hrest replies
    refine ⟨?_, hleft.trans hreplies⟩
    simp only [run, hanswer, hrun]

theorem Procedure.run_withReplies (p : Procedure ε α) {host : Host}
    (h : (Procedure.run p host).commands = []) (replies : List Reply) :
    Procedure.run p (host.withReplies replies) =
      ⟨(Procedure.run p host).value, (Procedure.run p host).transcript,
        (Procedure.run p host).host.withReplies replies⟩ ∧
    (Procedure.run p host).host.replies = host.replies :=
  p.script.run_withReplies host h replies

end RaidProvision

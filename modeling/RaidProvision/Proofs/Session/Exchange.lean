import RaidProvision.Session.ToolTask

/-!
# Commands with their replies

A transcript says what a run asked for and not what it was told. `Script.exchanges` lists the
commands of a run together with their replies, so that what was run can be related to what came of
it.

* `map_command_exchanges`: the commands are those of the transcript.
* `reply_of_getElem?_exchanges`: the replies are those of the host, in order.
* `exchanges_bind`, `Procedure.exchanges_bind`: the exchanges of a run in two parts.
* `ToolTask.exchanges_execute_bind_of_ok`, `ToolTask.value_execute_bind_of_ok` and their likes: a
  task that begins with a command, by what came of the command.
-/
namespace RaidProvision

theorem line_injective {s t : String} (h : Command.line s = Command.line t) : s = t := by
  simpa [Command.line] using h

namespace Procedure

variable {ε δ α : Type} {f : ε → δ} {result : Except ε α}

theorem mapError_eq_ok {a : α} : result.mapError f = .ok a ↔ result = .ok a := by
  cases result with
  | error cause => constructor <;> rintro ⟨⟩
  | ok b => constructor <;> rintro ⟨⟩ <;> rfl

theorem mapError_eq_error {other : δ} :
    result.mapError f = .error other ↔ ∃ cause, result = .error cause ∧ f cause = other := by
  cases result with
  | error cause =>
    constructor
    · rintro ⟨⟩
      exact ⟨cause, rfl, rfl⟩
    · rintro ⟨_, ⟨⟩, rfl⟩
      rfl
  | ok b =>
    constructor
    · rintro ⟨⟩
    · rintro ⟨_, ⟨⟩, -⟩

end Procedure

/-- A command that was run and what came of it. -/
structure Exchange where
  command : Command
  reply : Reply
  deriving DecidableEq, Repr

namespace Exchange

/-- The command was started and ended with a status of zero. -/
def succeeded (e : Exchange) : Bool :=
  match e.reply with
  | .ended (.exited 0) _ _ => true
  | _ => false

theorem succeeded_iff (e : Exchange) :
    e.succeeded = true ↔ ∃ text, e.reply.read e.command = .ok text := by
  constructor
  · intro h
    unfold succeeded at h
    split at h
    · rename_i output errors hr
      exact ⟨_, Reply.read_eq_ok.2 ⟨output, errors, hr, rfl⟩⟩
    · cases h
  · rintro ⟨text, h⟩
    obtain ⟨output, errors, hr, -⟩ := Reply.read_eq_ok.1 h
    simp only [succeeded, hr]

theorem not_succeeded_iff (e : Exchange) :
    e.succeeded = false ↔ ∃ cause, e.reply.read e.command = .error cause := by
  cases h : e.reply.read e.command with
  | ok text => simp [(succeeded_iff e).2 ⟨text, h⟩]
  | error cause =>
    have hs : ¬ e.succeeded = true := by
      rw [succeeded_iff, h]
      rintro ⟨_, ⟨⟩⟩
    simpa using hs

/-- The command succeeded, and its output reads as something. -/
def Gives {ε α : Type} (e : Exchange) (parse : String → Except ε α) (a : α) : Prop :=
  ∃ text, e.reply.read e.command = .ok text ∧ parse text = .ok a

theorem Gives.succeeded {ε α : Type} {e : Exchange} {parse : String → Except ε α} {a : α}
    (h : e.Gives parse a) : e.succeeded = true := by
  obtain ⟨text, hr, -⟩ := h
  exact e.succeeded_iff.2 ⟨text, hr⟩

section
variable {α : Type} (e : Exchange) (parse : String → Except ReportError α)

/-- The command failed, or its output cannot be read. -/
inductive Fails : ToolError → Prop where
  | execution {fault : ExecutionError} (h : e.reply.read e.command = .error fault) :
    Fails (.execution fault)
  | report {text : String} {cause : ReportError} (hr : e.reply.read e.command = .ok text)
    (hp : parse text = .error cause) : Fails (.report cause)

/-- What a task that needs the output ends with. -/
def outcome : Except ToolError α :=
  match e.reply.read e.command with
  | .error fault => .error (.execution fault)
  | .ok text => (parse text).mapError .report

variable {e parse}

theorem outcome_eq_ok_iff {a : α} : e.outcome parse = .ok a ↔ e.Gives parse a := by
  unfold outcome Gives
  cases e.reply.read e.command with
  | error fault => simp
  | ok text =>
    simp only [Except.ok.injEq, exists_eq_left', Procedure.mapError_eq_ok]

theorem outcome_eq_error_iff {cause : ToolError} :
    e.outcome parse = .error cause ↔ e.Fails parse cause := by
  constructor
  · intro h
    unfold outcome at h
    cases hr : e.reply.read e.command with
    | error fault =>
      rw [hr] at h
      obtain rfl := Except.error.inj h
      exact .execution hr
    | ok text =>
      rw [hr] at h
      obtain ⟨reason, hp, rfl⟩ := Procedure.mapError_eq_error.1 h
      exact .report hr hp
  · unfold outcome
    rintro (hr | ⟨hr, hp⟩)
    · rw [hr]
    · rw [hr]
      exact Procedure.mapError_eq_error.2 ⟨_, hp, rfl⟩

theorem toOption_outcome_eq_some_iff {a : α} :
    (e.outcome parse).toOption = some a ↔ e.Gives parse a := by
  rw [← outcome_eq_ok_iff]
  cases e.outcome parse <;> simp [Except.toOption]

theorem toOption_outcome_eq_none_iff :
    (e.outcome parse).toOption = none ↔ ∃ cause, e.Fails parse cause := by
  simp only [← outcome_eq_error_iff]
  cases e.outcome parse <;> simp [Except.toOption]

/-- What a command gives it gives instead of failing. -/
theorem Gives.not_fails {a : α} (h : e.Gives parse a) (cause : ToolError) :
    ¬ e.Fails parse cause := by
  intro hf
  rw [← outcome_eq_ok_iff] at h
  rw [← outcome_eq_error_iff, h] at hf
  cases hf

end

end Exchange

/-- What a request adds to the exchanges. -/
def Host.exchange (host : Host) : Request → List Exchange
  | .run command => [⟨command, host.reply command⟩]
  | _ => []

namespace Script

variable {α β : Type}

/-- The commands of a run, each with its reply. -/
def exchanges : Script α → Host → List Exchange
  | done _, _ => []
  | ask r next, host =>
    host.exchange r ++ (next (host.answer r).1).exchanges (host.answer r).2

@[simp]
theorem exchanges_done (a : α) (host : Host) : (done a).exchanges host = [] := rfl

@[simp]
theorem exchanges_execute (command : Command) (host : Host) :
    (execute command).exchanges host = [⟨command, host.reply command⟩] := rfl

theorem exchanges_bind (s : Script α) (k : α → Script β) (host : Host) :
    (s.bind k).exchanges host =
      s.exchanges host ++ (k (s.run host).value).exchanges (s.run host).host := by
  induction s generalizing host with
  | done a => rfl
  | ask r next ih => simp only [bind, exchanges, run, ih, List.append_assoc]

theorem map_command_exchanges (s : Script α) (host : Host) :
    (s.exchanges host).map Exchange.command = (s.run host).commands := by
  induction s generalizing host with
  | done a => rfl
  | ask r next ih =>
    rw [exchanges, List.map_append, ih]
    cases r <;> rfl

theorem reply_of_getElem?_exchanges (s : Script α) (host : Host) (i : Nat) {e : Exchange}
    (h : (s.exchanges host)[i]? = some e) :
    e.reply = (host.replies[i]?.getD .silent).orRefused e.command := by
  induction s generalizing host i with
  | done a => simp at h
  | ask r next ih =>
    cases r with
    | run command =>
      cases i with
      | zero =>
        simp only [exchanges, Host.exchange, List.singleton_append, List.getElem?_cons_zero,
          Option.some.injEq] at h
        subst h
        rw [← List.head?_eq_getElem?]
        rfl
      | succ i =>
        have hreply := ih _ _ i h
        rwa [Host.answer, List.getElem?_tail] at hreply
    | readFile path => exact ih _ _ i h
    | replaceFile path content =>
      have hreply := ih _ _ i h
      simp only [Host.answer, Host.withFiles] at hreply
      split at hreply <;> exact hreply
    | appendFile path =>
      have hreply := ih _ _ i h
      simp only [Host.answer, Host.withFiles] at hreply
      split at hreply <;> exact hreply
    | print text => exact ih _ _ i h
    | clock => exact ih _ _ i h
    | pause seconds => exact ih _ _ i h

end Script

namespace Procedure

variable {ε δ α β : Type}

/-- The commands of a run, each with its reply. -/
def exchanges (p : Procedure ε α) (host : Host) : List Exchange := p.script.exchanges host

theorem exchanges_bind (p : Procedure ε α) (k : α → Procedure ε β) (host : Host) :
    Procedure.exchanges (p >>= k) host =
      p.exchanges host ++ match (p.run host).value with
        | .error _ => []
        | .ok a => (k a).exchanges (p.run host).host := by
  simp only [exchanges, script, Bind.bind, ExceptT.bind, ExceptT.run, ExceptT.mk]
  rw [Script.exchanges_bind]
  congr 1
  simp only [run, script, ExceptT.run]
  cases (Script.run p host).value <;> rfl

@[simp]
theorem exchanges_pure (a : α) (host : Host) :
    Procedure.exchanges (pure a : Procedure ε α) host = [] := rfl

@[simp]
theorem exchanges_ofResult (result : Except ε α) (host : Host) :
    (ofResult result).exchanges host = [] := rfl

@[simp]
theorem exchanges_execute (command : Command) (host : Host) :
    (execute command).exchanges host = [⟨command, host.reply command⟩] := rfl

@[simp]
theorem exchanges_mapFailure (f : ε → δ) (p : Procedure ε α) (host : Host) :
    (mapFailure f p).exchanges host = p.exchanges host := by
  simp only [exchanges, mapFailure, script, ExceptT.run, ExceptT.mk, Script.exchanges_bind,
    Script.exchanges_done, List.append_nil]

theorem exists_of_map_toOption {result : Except ε α} {f : α → β} {b : β}
    (h : result.toOption.map f = some b) : ∃ a, result = .ok a ∧ f a = b := by
  cases result with
  | error cause => cases h
  | ok a => exact ⟨a, rfl, Option.some.inj h⟩

theorem value_mapFailure_eq_ok {f : ε → δ} {p : Procedure ε α} {host : Host} {a : α} :
    ((mapFailure f p).run host).value = .ok a ↔ (p.run host).value = .ok a := by
  rw [run_mapFailure, mapError_eq_ok]

section
variable {p : Procedure ε α} {host : Host} (k : α → Procedure ε β)

theorem exchanges_bind_of_ok {a : α} (h : (p.run host).value = .ok a) :
    Procedure.exchanges (p >>= k) host = p.exchanges host ++ (k a).exchanges (p.run host).host := by
  rw [exchanges_bind, h]

theorem value_bind_of_ok {a : α} (h : (p.run host).value = .ok a) :
    (Procedure.run (p >>= k) host).value = ((k a).run (p.run host).host).value := by
  rw [run_bind]
  simp only [h]

theorem exchanges_bind_of_error {cause : ε} (h : (p.run host).value = .error cause) :
    Procedure.exchanges (p >>= k) host = p.exchanges host := by
  rw [exchanges_bind, h, List.append_nil]

theorem value_bind_of_error {cause : ε} (h : (p.run host).value = .error cause) :
    (Procedure.run (p >>= k) host).value = .error cause := by
  rw [run_bind]
  simp only [h]

end

theorem exchanges_bind_pure (p : Procedure ε α) (f : α → β) (host : Host) :
    Procedure.exchanges (p >>= fun a => pure (f a)) host = p.exchanges host := by
  rw [exchanges_bind]
  cases (p.run host).value <;> simp

theorem value_bind_pure (p : Procedure ε α) (f : α → β) (host : Host) :
    (Procedure.run (p >>= fun a => pure (f a)) host).value = (p.run host).value.map f := by
  cases h : (p.run host).value with
  | error cause => rw [value_bind_of_error _ h]; rfl
  | ok a => rw [value_bind_of_ok _ h]; rfl

end Procedure

namespace ToolTask

variable {α : Type}

@[simp]
theorem exchanges_execute (command : Command) (host : Host) :
    Procedure.exchanges (execute command) host = [⟨command, host.reply command⟩] := by
  simp only [execute, Procedure.exchanges_mapFailure, Procedure.exchanges_execute]

/-- A task that runs a command and reads its output. -/
theorem run_executeRead (command : Command) (parse : String → Except ReportError α) (host : Host) :
    Procedure.run (do let text ← execute command; read (parse text) : ToolTask α) host =
      ⟨(⟨command, host.reply command⟩ : Exchange).outcome parse, [.run command],
        { host with replies := host.replies.tail }⟩ := by
  rw [Procedure.run_bind, run_execute]
  unfold Exchange.outcome
  cases (host.reply command).read command <;> rfl

/-- A task that runs a command and reads its output runs that command alone. -/
theorem exchanges_executeRead (command : Command) (parse : String → Except ReportError α)
    (host : Host) :
    Procedure.exchanges (do let text ← execute command; read (parse text) : ToolTask α) host =
      [⟨command, host.reply command⟩] := by
  rw [Procedure.exchanges_bind, exchanges_execute]
  split <;> rfl

theorem value_executeRead_eq_ok {command : Command} {parse : String → Except ReportError α}
    {host : Host} {a : α} :
    (Procedure.run (do let text ← execute command; read (parse text) : ToolTask α) host).value =
      .ok a ↔ (⟨command, host.reply command⟩ : Exchange).Gives parse a := by
  rw [Procedure.run_bind, run_execute]
  unfold Exchange.Gives
  cases (host.reply command).read command with
  | error fault =>
    constructor
    · rintro ⟨⟩
    · rintro ⟨text, ⟨⟩, -⟩
  | ok text =>
    change (parse text).mapError ToolError.report = .ok a ↔ _
    rw [Procedure.mapError_eq_ok]
    constructor
    · intro h
      exact ⟨text, rfl, h⟩
    · rintro ⟨_, ⟨⟩, h⟩
      exact h

/-! ## A command first, and then the rest -/

section
variable {β : Type} {command : Command} {host : Host} (k : String → ToolTask β)

theorem value_execute_of_ok {text : String} (h : (host.reply command).read command = .ok text) :
    (Procedure.run (execute command) host).value = .ok text := by
  rw [run_execute, h]
  rfl

theorem value_execute_of_error {fault : ExecutionError}
    (h : (host.reply command).read command = .error fault) :
    (Procedure.run (execute command) host).value = .error (.execution fault) := by
  rw [run_execute, h]
  rfl

theorem exchanges_execute_bind_of_ok {text : String}
    (h : (host.reply command).read command = .ok text) :
    Procedure.exchanges (execute command >>= k) host =
      ⟨command, host.reply command⟩ ::
        (k text).exchanges { host with replies := host.replies.tail } :=
  Procedure.exchanges_bind_of_ok k (value_execute_of_ok h)

theorem value_execute_bind_of_ok {text : String}
    (h : (host.reply command).read command = .ok text) :
    (Procedure.run (execute command >>= k) host).value =
      ((k text).run { host with replies := host.replies.tail }).value :=
  Procedure.value_bind_of_ok k (value_execute_of_ok h)

theorem exchanges_execute_bind_ne_nil : Procedure.exchanges (execute command >>= k) host ≠ [] := by
  rw [Procedure.exchanges_bind, exchanges_execute, List.singleton_append]
  exact List.cons_ne_nil _ _

theorem exchanges_execute_bind_of_error {fault : ExecutionError}
    (h : (host.reply command).read command = .error fault) :
    Procedure.exchanges (execute command >>= k) host = [⟨command, host.reply command⟩] :=
  Procedure.exchanges_bind_of_error k (value_execute_of_error h)

theorem value_execute_bind_of_error {fault : ExecutionError}
    (h : (host.reply command).read command = .error fault) :
    (Procedure.run (execute command >>= k) host).value = .error (.execution fault) :=
  Procedure.value_bind_of_error k (value_execute_of_error h)

end

theorem read_ok_bind {β : Type} (a : α) (k : α → ToolTask β) : read (.ok a) >>= k = k a := rfl

end ToolTask
end RaidProvision

import RaidProvision.Session.Host
import RaidProvision.Shell.Run

/-!
# Rehearsals

A rehearsal runs a script without a machine: lines for the shell and the programs of the system are
run in memory, and the files that they change are those of the host.

* `rehearse_done`: a script that asks for nothing prints nothing.
-/
namespace RaidProvision

open RaidProvision.Text

namespace Rehearsal

/-- The variables that programs are given. -/
abbrev Environment := List (String × String)

/-- The streams that a program starts with: an empty input and two pipes for what it prints. -/
def streams : Array Stream := #[.null, .pipe "", .pipe ""]

/-- A program as it is started, with the name that it is started by. -/
def process (environment : Environment) (host : Host) (name : String) : Process :=
  ⟨name, host.directory, [(0, 0), (1, 1), (2, 2)], environment⟩

/-- Runs the program of a command. Returns its status, or nothing if a signal ended it. -/
def start (words : List String) : Work (Except OsError Status) := do
  match words with
  | [] => return .error .notFound
  | name :: args =>
    if name = Command.shell then
      match ← Shell.shellEnding Shell.run args with
      | .ok status => return .ok (.exited status)
      | .error _ => return .ok .killed
    else return (← Shell.launch Shell.run none words).map .exited

/-- What a stream holds at the end. -/
def printed (system : System) (number : Nat) : List UInt8 :=
  bytes (String.ofList (system.held number))

/-- The reply to a command, and the files as it leaves them. -/
def reply (environment : Environment) (host : Host) (command : Command) : Reply × FileTree :=
  if !command.isPassable then (.notStarted .nulInCommand, host.files)
  else
    let words := (command.program :: command.arguments).map octets
    let (result, system) :=
      (start words (process environment host (octets command.program))).run ⟨host.files, streams⟩
    match result with
    | .error cause => (.notStarted cause, host.files)
    | .ok status => (.ended status (printed system 1) (printed system 2), system.files)

/-- The answer to a request. -/
def answer (environment : Environment) (host : Host) : (r : Request) → r.Answer × Host
  | .run command =>
    let (reply, files) := reply environment host command
    (reply, { host with files := files })
  | r => host.answer r

end Rehearsal

namespace Script

variable {α : Type}

/-- Runs a script in a rehearsal. -/
def rehearse (environment : Rehearsal.Environment) : Script α → Host → Outcome α
  | done a, host => ⟨a, [], host⟩
  | ask r next, host =>
    let (a, host) := Rehearsal.answer environment host r
    let o := (next a).rehearse environment host
    { o with transcript := r :: o.transcript }

@[simp]
theorem rehearse_done (environment : Rehearsal.Environment) (a : α) (host : Host) :
    (done a).rehearse environment host = ⟨a, [], host⟩ := rfl

end Script
end RaidProvision

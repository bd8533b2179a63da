import RaidProvision.FileTree.Change
import RaidProvision.Session.Script
import RaidProvision.Text.Octets

/-!
# Running scripts with given answers

A `Host` answers the requests of a script: commands with replies that are given beforehand, one
after the other, and files from memory. When the replies have run out every command succeeds and
prints nothing. A run keeps a transcript of what was asked for.

* `run_bind`: a script in two parts is run one part after the other.
* `run_execute`: running one command takes one reply.
-/
namespace RaidProvision

open RaidProvision.Text

/-- Answers given beforehand. -/
structure Host where
  replies : List Reply
  files : FileTree
  /-- Where paths start that are not taken from the root. -/
  directory : Way
  now : Moment
  deriving DecidableEq, Repr

namespace Host

/-- A host without files. -/
def ofReplies (replies : List Reply) : Host := ⟨replies, .empty, [], default⟩

/-- The reply to the next command. -/
def nextReply (host : Host) : Reply := host.replies.head?.getD .silent

/-- What comes of a command. -/
def reply (host : Host) (command : Command) : Reply := host.nextReply.orRefused command

/-- The text in a file. -/
def readText (host : Host) (path : String) : Except OsError String :=
  match host.files.read host.directory (octets path) with
  | .error cause => .error cause
  | .ok content =>
    match ofOctets? content with
    | some text => .ok text
    | none => .error .notText

/-- Goes on with changed files. -/
def withFiles (host : Host) : Except OsError FileTree → Except OsError Unit × Host
  | .ok files => (.ok (), { host with files := files })
  | .error cause => (.error cause, host)

/-- The answer to a request, and what is left to answer from. -/
def answer (host : Host) : (r : Request) → r.Answer × Host
  | .run command => (host.reply command, { host with replies := host.replies.tail })
  | .readFile path => (host.readText path, host)
  | .replaceFile path content =>
    host.withFiles (host.files.replace host.directory (octets path) (octets content))
  | .appendFile path => host.withFiles (host.files.touch host.directory (octets path))
  | .print _ => ((), host)
  | .clock => (host.now, host)
  | .pause _ => ((), host)

end Host

/-- What came of running a script. -/
structure Outcome (α : Type) where
  value : α
  /-- Everything that was asked for, in order. -/
  transcript : List Request
  /-- What is left to answer from. -/
  host : Host

namespace Outcome

variable {α : Type}

/-- The commands that were run. -/
def commands (o : Outcome α) : List Command :=
  o.transcript.filterMap fun | .run command => some command | _ => none

/-- The commands as they are shown. -/
def calls (o : Outcome α) : List String := o.commands.map Command.render

/-- What was printed. -/
def printed (o : Outcome α) : String :=
  String.join (o.transcript.filterMap fun | .print text => some text | _ => none)

end Outcome

namespace Script

variable {α β : Type}

/-- Runs a script on a host. -/
def run : Script α → Host → Outcome α
  | done a, host => ⟨a, [], host⟩
  | ask r next, host =>
    let (a, host) := host.answer r
    let o := (next a).run host
    { o with transcript := r :: o.transcript }

@[simp]
theorem run_done (a : α) (host : Host) : (done a).run host = ⟨a, [], host⟩ := rfl

theorem run_bind (s : Script α) (k : α → Script β) (host : Host) :
    (s.bind k).run host =
      let first := s.run host
      let second := (k first.value).run first.host
      { second with transcript := first.transcript ++ second.transcript } := by
  induction s generalizing host with
  | done a => rfl
  | ask r next ih => simp only [bind, run, ih, List.cons_append]

@[simp]
theorem run_execute (command : Command) (host : Host) :
    (execute command).run host =
      ⟨(host.reply command).read command, [.run command],
        { host with replies := host.replies.tail }⟩ := rfl

end Script
end RaidProvision

import RaidProvision.Session.OsError
import RaidProvision.Text.Utf8

/-!
# Commands and their replies (raidmgr specification §6.1 and §7)

A `Command` is a program with its arguments. A `Reply` is what came of running one: it could not be
started, or it ended with a status and left two streams of bytes. `Reply.read` turns a reply into
the text of its output; everything but a start and a status of zero is an `ExecutionError`.

* `Command.render_line`: a line for the shell is shown as it is, unless it holds a NUL.
* `Reply.read_eq_ok`: which replies are read, and as what.
-/
namespace RaidProvision

open RaidProvision.Text

/-- A program and its arguments. -/
structure Command where
  program : String
  arguments : List String
  deriving DecidableEq, Repr

namespace Command

/-- The shell that runs lines. -/
def shell : String := "/bin/sh"

/-- A line for the shell (§6.1). -/
def line (text : String) : Command := ⟨shell, ["-c", text]⟩

/-- Whether a program or an argument holds a NUL, which ends the texts that the system reads. -/
def holdsNul (word : String) : Bool := word.toList.contains '\x00'

/-- A program or an argument as it is shown. -/
def shownWord (word : String) : String := if holdsNul word then "<string-with-nul>" else word

/-- The command as an operator would type it (§6.1). -/
def render (command : Command) : String :=
  match command.program == shell, command.arguments.map shownWord with
  | true, ["-c", text] => text
  | _, arguments => " ".intercalate (shownWord command.program :: arguments)

@[simp]
theorem render_line (text : String) : (line text).render = shownWord text := by
  have h : shownWord "-c" = "-c" := by simp [shownWord, holdsNul]
  simp [render, line, h]

/-- Whether the system can be asked to run the command. -/
def isPassable (command : Command) : Bool :=
  !(command.program :: command.arguments).any holdsNul

end Command

/-- How a program ended. -/
inductive Status where
  | exited (code : Nat)
  | killed
  deriving DecidableEq, Repr

def Status.label : Status → String
  | .exited code => Nat.repr code
  | .killed => "signal"

/-- What came of running a command. -/
inductive Reply where
  | notStarted (cause : OsError)
  | ended (status : Status) (output errors : List UInt8)
  deriving DecidableEq, Repr

/-- Why a command gave no output. The command is given as it is shown (§7). -/
inductive ExecutionError where
  | notStarted (command : String) (cause : OsError)
  | failed (command status output errors : String)
  deriving DecidableEq, Repr

def ExecutionError.message : ExecutionError → String
  | notStarted command cause => s!"Failed to start execution of [{command}]: {cause.message}"
  | failed command status output errors =>
    s!"Command [{command}] executed and failed with status: {status}  stdout: {output}" ++
      s!"  stderr: {errors}"

namespace Reply

/-- What comes of a command if the system would reply to it. -/
def orRefused (command : Command) (reply : Reply) : Reply :=
  if command.isPassable then reply else .notStarted .nulInCommand

/-- A program that printed a text and succeeded. -/
def printed (text : String) : Reply := .ended (.exited 0) text.toUTF8.toList []

/-- A program that printed nothing and succeeded. -/
def silent : Reply := .ended (.exited 0) [] []

/-- The output of a command that succeeded (§6.1). -/
def read (command : Command) : Reply → Except ExecutionError String
  | .notStarted cause => .error (.notStarted command.render cause)
  | .ended (.exited 0) output _ => .ok (decodeUtf8 output)
  | .ended status output errors =>
    .error (.failed command.render status.label (decodeUtf8 output) (decodeUtf8 errors))

theorem read_eq_ok {command : Command} {reply : Reply} {text : String} :
    reply.read command = .ok text ↔
      ∃ output errors, reply = .ended (.exited 0) output errors ∧ decodeUtf8 output = text := by
  constructor
  · intro h
    unfold read at h
    split at h
    · cases h
    · simp only [Except.ok.injEq] at h
      exact ⟨_, _, rfl, h⟩
    · cases h
  · rintro ⟨output, errors, rfl, rfl⟩
    rfl

end Reply
end RaidProvision

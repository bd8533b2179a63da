import RaidProvision.CommandLine.Program

/-!
# The command line

The program works under an agent that owns the machine. What a script asks of the machine is handed
to the agent as a line of JSON on standard error, and its answer is a line of JSON on standard
input: a command is answered with its status and its output, the clock with the time. Files are read
and written by the program itself.
-/
namespace RaidProvision.CommandLine

open RaidProvision.Json

/-- The number of an error, as far as it is known. -/
def errorOf : IO.Error → OsError
  | .noFileOrDirectory .. => .notFound
  | .permissionDenied .. => .permissionDenied
  | .inappropriateType _ code _ | .resourceBusy code _ | .otherError code _ => .numbered code.toNat
  | _ => .numbered 5

/-- Runs an action of the system for its result. -/
def attempt {α : Type} (action : IO α) : IO (Except OsError α) := do
  try
    return .ok (← action)
  catch e => return .error (errorOf e)

/-- Hands a request to the agent and reads the answer. -/
def askAgent (request : Value) : IO Value := do
  (← IO.getStderr).putStrLn request.write
  (← IO.getStderr).flush
  return (Value.parse? (← (← IO.getStdin).getLine)).getD .null

/-- A command as the agent gets it. -/
def commandValue (command : Command) : Value :=
  .object [("run", .text command.program), ("arguments", .array (command.arguments.map .text))]

/-- A number in an answer of the agent. -/
def answeredNumber (name : String) (answer : Value) : Option Nat :=
  (answer.member? name).bind Value.word? |>.map UInt64.toNat

/-- A text in an answer of the agent. -/
def answeredText (name : String) (answer : Value) : String :=
  ((answer.member? name).bind Value.text?).getD ""

/-- What an answer of the agent says of a command. -/
def replyOf (answer : Value) : Reply :=
  match answeredNumber "errno" answer with
  | some code => .notStarted (.numbered code)
  | none =>
    let status :=
      match answeredNumber "status" answer with
      | some code => .exited code
      | none => .killed
    .ended status (answeredText "stdout" answer).toUTF8.toList
      (answeredText "stderr" answer).toUTF8.toList

/-- The directory in which a file stands. -/
def directoryOf (path : String) : String :=
  "/".intercalate ((path.splitOn "/").dropLast)

/-- Answers a request. -/
def answerOf : (r : Request) → IO r.Answer
  | .run command => do
    if command.isPassable then return replyOf (← askAgent (commandValue command))
    else return .notStarted .nulInCommand
  | .readFile path => attempt (IO.FS.readFile path)
  | .replaceFile path content => attempt do
    IO.FS.createDirAll (directoryOf path)
    IO.FS.writeFile path content
  | .appendFile path => attempt (IO.FS.withFile path .append fun _ => pure ())
  | .print text => do
    (← IO.getStdout).putStr text
    (← IO.getStdout).flush
  | .clock => do
    let answer ← askAgent (.object [("clock", .null)])
    return ⟨answeredText "plain" answer, answeredText "stamp" answer⟩
  | .pause seconds => seconds.forM fun _ _ => IO.sleep 1000

/-- The directory of the user's settings. -/
def settingsDirectory : IO (Option String) := do
  match ← IO.getEnv "XDG_CONFIG_HOME" with
  | some directory =>
    if directory.startsWith "/" then return some directory
    else return (← IO.getEnv "HOME").map (Settings.extendPath · ".config")
  | none => return (← IO.getEnv "HOME").map (Settings.extendPath · ".config")

end RaidProvision.CommandLine

open RaidProvision.CommandLine in
def main (arguments : List String) : IO UInt32 := do
  let ending ← (program (← settingsDirectory) arguments).interpret answerOf
  if let some text := ending.error then IO.eprintln text
  return UInt32.ofNat ending.code

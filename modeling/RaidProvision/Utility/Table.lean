import RaidProvision.Utility.Awk.Run
import RaidProvision.Utility.Base64
import RaidProvision.Utility.Echo
import RaidProvision.Utility.Expr
import RaidProvision.Utility.Find
import RaidProvision.Utility.Grep
import RaidProvision.Utility.Launch
import RaidProvision.Utility.Order
import RaidProvision.Utility.Printf
import RaidProvision.Utility.Sed.Run
import RaidProvision.Utility.Surroundings
import RaidProvision.Utility.Test

/-!
# The programs of the system

The programs that every system has, by their names. A few of them run others, and some are the
shell.

* `shellNames_subset`: the names of the shell are among those of the programs.
* `interpreter?_plain`: a script that does not start with a number sign names no program.
-/
namespace RaidProvision.Utility

/-- A program that ends with a status and does nothing else. -/
def finish (status : Nat) : Utility := fun _ => return status

/-- Programs that run no others. -/
def programs : List (String × Utility) :=
  [("true", finish 0), ("false", finish 1), ("sleep", finish 0), ("sync", finish 0),
    ("echo", echo), ("printf", printf), ("test", test), ("[", bracket),
    ("cat", cat), ("head", head), ("tail", tail), ("tac", tac), ("rev", rev), ("tee", tee),
    ("wc", wc), ("grep", grep (.regular .basic)), ("egrep", grep (.regular .extended)),
    ("fgrep", grep .fixed), ("cut", cut), ("tr", tr), ("paste", paste), ("fold", fold), ("nl", nl),
    ("sort", sort), ("uniq", uniq), ("seq", seq), ("yes", yes),
    ("base64", base64), ("mktemp", mktemp), ("basename", basename), ("dirname", dirname),
    ("realpath", realpath), ("mkdir", mkdir), ("rmdir", rmdir), ("rm", rm), ("touch", touch),
    ("cp", cp), ("mv", mv), ("chmod", chmod), ("ls", ls), ("expr", expr), ("pwd", pwd),
    ("printenv", printenv), ("whoami", tell userName), ("id", id), ("uname", uname),
    ("which", which), ("cmp", cmp), ("sed", sed), ("hostname", tell "localhost"),
    ("date", tell "Thu Jan  1 00:00:00 UTC 1970"), ("nproc", tell "1"), ("arch", tell "x86_64"),
    ("groups", tell userName)]

/-- Programs that run others. -/
def launchers (launch : Launch) : List (String × Utility) :=
  [("env", env launch), ("xargs", xargs launch), ("find", find launch), ("awk", awk launch),
    ("mawk", awk launch), ("nohup", carry launch fun args => args),
    ("timeout", carry launch dropLimit), ("nice", carry launch dropPriority),
    ("setsid", carry launch fun args => args), ("stdbuf", carry launch dropPriority)]

/-- Names of the shell. -/
def shellNames : List String := ["sh", "dash", "bash"]

/-- All names of programs. -/
def names : List String :=
  programs.map Prod.fst ++
    (launchers fun _ => return .ok 0).map Prod.fst ++ shellNames

theorem shellNames_subset : ∀ name ∈ shellNames, name ∈ names := by
  simp +contextual [names]

/-- The program that the first line of a script names, and an argument for it. -/
def interpreter? (script : String) : Option (String × Option String) :=
  match script.toList with
  | '#' :: '!' :: rest =>
    let isSpace (c : Char) : Bool := c == ' ' || c == '\t'
    let line := (rest.takeWhile (· != '\n')).dropWhile isSpace
    let path := line.takeWhile fun c => !isSpace c
    let argument := Text.dropTrailing isSpace ((line.drop path.length).dropWhile isSpace)
    if path.isEmpty then none
    else
      some (String.ofList path,
        if argument.isEmpty then none else some (String.ofList argument))
  | _ => none

theorem interpreter?_plain (script : String) (h : ¬ script.toList.head? = some '#') :
    interpreter? script = none := by
  unfold interpreter?
  split
  · simp_all
  · rfl

/-- Runs a program that is looked for in given places, or where its variables say. `shell` runs
scripts with their names and arguments, `fuel` bounds how often programs run others. -/
def launchFrom (shell : Utility) : (fuel : Nat) → Option (List String) → Launch
  | 0, _, _ => return .error .notFound
  | _, _, [] => return .ok 0
  | fuel + 1, places, name :: args => do
    let process ← read
    let places := places.getD (FileTree.placesOf process.environment)
    match (← Work.files).program process.directory places name with
    | .error cause => return .error cause
    | .ok (path, entry) =>
      let run (utility : Utility) : Work Nat :=
        withReader (fun process => { process with name := name }) (utility args)
      match entry with
      | .program word =>
        let launch := launchFrom shell fuel none
        if shellNames.contains word then return .ok (← run shell)
        match programs.lookup word <|> (launchers launch).lookup word with
        | some utility => return .ok (← run utility)
        | none => return .error .notFound
      | entry =>
        match interpreter? entry.content with
        | some (interpreter, argument) =>
          launchFrom shell fuel none (interpreter :: argument.toList ++ path :: args)
        | none => return .ok (← run fun args => shell (path :: args))

end RaidProvision.Utility

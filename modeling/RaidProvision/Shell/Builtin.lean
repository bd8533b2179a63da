import RaidProvision.Shell.Variables
import RaidProvision.System.Lookup
import RaidProvision.Utility.Echo
import RaidProvision.Utility.Printf
import RaidProvision.Utility.Test

/-!
# Builtins of the shell

What the shell does by itself when a command names it. Some builtins are special: a fault in them
ends the shell, and variables assigned in front of them keep their values.

* `isSpecial_colon`: the builtin that does nothing is special.
-/
namespace RaidProvision.Shell.Builtin

/-! ## Leaving -/

/-- Leaves loops. -/
def leaveLoops (name : String) (leave : Nat → Leave) : Builtin := fun args => do
  let count ←
    match args with
    | [] => pure 1
    | text :: _ => numberArgument name text
  if count = 0 then abort name "Illegal number: 0"
  let loops := (← get).loops
  if 0 < loops then throw (leave (min count loops))
  return 0

/-- Leaves a function or the shell with a status. -/
def leaveWith (name : String) (leave : Nat → Leave) : Builtin := fun args => do
  match args with
  | [] => throw (leave (← get).status)
  | text :: _ => throw (leave ((← numberArgument name text) % 256))

/-! ## Directories -/

/-- The path of a way. -/
def pathOf (way : Way) : String := "/" ++ "/".intercalate way

/-- Goes to a directory. -/
def changeDirectory : Builtin := fun args => do
  let args := args.filter fun arg => arg != "-P" && arg != "-L" && arg != "--"
  let state ← get
  let (target, shown) :=
    match args with
    | [] => ((state.value? "HOME").getD "", false)
    | "-" :: _ => ((state.value? "OLDPWD").getD "", true)
    | path :: _ => (path, false)
  if target.isEmpty then return 0
  match state.system.files.find state.directory target with
  | .ok (way, .directory) =>
    set { (state.assign "OLDPWD" (pathOf state.directory)).assign "PWD" (pathOf way) with
      directory := way }
    if shown then print (pathOf way ++ "\n")
    return 0
  | _ =>
    complain "cd" s!"can't cd to {target}"
    return 2

/-! ## Signals -/

def signals : List (String × Nat) :=
  [("EXIT", 0), ("HUP", 1), ("INT", 2), ("QUIT", 3), ("ILL", 4), ("TRAP", 5), ("ABRT", 6),
    ("BUS", 7), ("FPE", 8), ("KILL", 9), ("USR1", 10), ("SEGV", 11), ("USR2", 12), ("PIPE", 13),
    ("ALRM", 14), ("TERM", 15), ("CHLD", 17), ("CONT", 18), ("STOP", 19), ("TSTP", 20)]

/-- The number of a signal, which its name or a number gives. -/
def signal? (text : String) : Option Nat :=
  match text.toNat? with
  | some n => if n ≤ 64 then some n else none
  | none => signals.lookup text.toUpper

def signalName (n : Nat) : String :=
  ((signals.find? fun (_, number) => number == n).map Prod.fst).getD (Nat.repr n)

/-- Says what is run at signals, or lists that. -/
def trap : Builtin := fun args => do
  let args := if args.head? = some "--" then args.drop 1 else args
  match args with
  | [] =>
    print (String.join ((← get).traps.map fun (name, action) =>
      s!"trap -- {quote action} {name}\n"))
    return 0
  | first :: rest =>
    let drops := rest.isEmpty || first.toNat?.isSome || first == "-"
    let names := if rest.isEmpty || first.toNat?.isSome then first :: rest else rest
    let mut status := 0
    for name in names do
      match signal? name with
      | none =>
        complain "trap" s!"{name}: bad trap"
        status := 1
      | some n =>
        let name := signalName n
        modify fun state =>
          let others := state.traps.filter (·.1 != name)
          { state with traps := if drops then others else others ++ [(name, first)] }
    return status

/-- The signal and the rest of the arguments of `kill`. -/
def killArguments : List String → Option (Nat × List String)
  | "-s" :: name :: rest => (signal? name).map (·, rest)
  | "--" :: rest => some (15, rest)
  | arg :: rest =>
    if arg.startsWith "-" && 1 < arg.length then
      (signal? (arg.drop 1).toString).map (·, if rest.head? = some "--" then rest.drop 1 else rest)
    else some (15, arg :: rest)
  | [] => none

/-- Sends a signal to the shell or to a command in the background, which has ended. -/
def kill : Builtin := fun args => do
  match args, killArguments args with
  | "-l" :: _, _ =>
    print ("0\n" ++ String.join ((signals.drop 1).map fun (name, _) => name ++ "\n"))
    return 0
  | _, none => abort "kill" "Usage: kill [-s sigspec | -signum | -sigspec] [pid | job]..."
  | _, some (n, targets) =>
    let mut status := 0
    for target in targets do
      let state ← get
      let known (p : Nat) := State.processNumber < p && p ≤ State.processNumber + state.jobs.length
      match target.toNat? with
      | some p =>
        if p = State.processNumber && n != 0 then throw (.killed n)
        else if p != State.processNumber && !known p then
          complain "kill" "No such process"
          status := 1
      | none =>
        complain "kill" s!"Illegal number: {target}"
        status := 2
    return status

/-- The status of a command in the background. -/
def wait : Builtin := fun args => do
  let jobs := (← get).jobs
  match args.getLast? with
  | none => return 0
  | some text =>
    match text.toNat? with
    | some p =>
      return if p ≤ State.processNumber then 127
        else (jobs[p - State.processNumber - 1]?).getD 127
    | none => return (jobs.getLast?).getD 127

/-! ## Aliases -/

/-- Has names stand for texts, or tells what they stand for. -/
def setAliases : Builtin := fun args => do
  let told (entry : String × String) : String := s!"{entry.1}={quote entry.2}\n"
  if args.isEmpty then print (String.join ((← get).aliases.reverse.map told))
  let mut status := 0
  for arg in args do
    let aliases := (← get).aliases
    match splitAssignment arg with
    | (name, some text) =>
      modify fun state => { state with aliases := (name, text) :: aliases.filter (·.1 != name) }
    | (name, none) =>
      match aliases.lookup name with
      | some text => print (told (name, text))
      | none =>
        complain "alias" s!"{name} not found"
        status := 1
  return status

/-- Has names stand for themselves again. -/
def dropAliases : Builtin := fun args => do
  if args.head? = some "-a" then
    modify fun state => { state with aliases := [] }
    return 0
  let mut status := 0
  for name in args do
    let aliases := (← get).aliases
    if (aliases.lookup name).isNone then
      complain "unalias" s!"{name} not found"
      status := 1
    modify fun state => { state with aliases := aliases.filter (·.1 != name) }
  return status

/-! ## The table -/

def succeed : Builtin := fun _ => return 0

/-- Prints a text. -/
def tell (text : String) : Action Nat := do
  print text
  return 0

def showDirectory : Builtin := fun _ => do tell (pathOf (← get).directory ++ "\n")

/-- A program as a builtin. -/
def ofUtility (name : String) (utility : Utility) : Builtin := fun args =>
  Action.builtin name (utility args)

/-- Prints arguments in the way of the shell at hand. -/
def echo : Builtin := fun args => do
  ofUtility "echo" (if (← get).plainEcho then Utility.echo else Utility.shellEcho) args

/-- Builtins that run nothing else. -/
def simple : List (String × Builtin) :=
  [(":", succeed), ("true", succeed), ("false", fun _ => return 1),
    ("break", leaveLoops "break" .breaks), ("continue", leaveLoops "continue" .continues),
    ("exit", leaveWith "exit" .exits), ("return", leaveWith "return" .returns),
    ("cd", changeDirectory), ("chdir", changeDirectory),
    ("pwd", showDirectory),
    ("export", exportAll), ("readonly", protectAll), ("local", localAll), ("unset", unset),
    ("set", setAll), ("shift", shift), ("read", readInto), ("getopts", getOptions),
    ("trap", trap), ("kill", kill), ("wait", wait),
    ("umask", fun args => tell (if args.isEmpty then "0022\n" else "")),
    ("times", fun _ => tell "0m0.000000s 0m0.000000s\n0m0.000000s 0m0.000000s\n"),
    ("ulimit", fun _ => tell "unlimited\n"),
    ("hash", succeed), ("jobs", succeed), ("alias", setAliases), ("unalias", dropAliases),
    ("bg", succeed), ("fg", succeed),
    ("echo", echo), ("printf", ofUtility "printf" Utility.printf),
    ("test", ofUtility "test" Utility.test), ("[", ofUtility "[" Utility.bracket)]

/-- Builtins that run something. -/
def running : List String := ["eval", ".", "command", "exec", "type"]

def isBuiltin (name : String) : Bool := running.contains name || (simple.lookup name).isSome

/-- Builtins in which a fault ends the shell. -/
def special : List String :=
  [".", ":", "break", "continue", "eval", "exec", "exit", "export", "readonly", "return", "set",
    "shift", "times", "trap", "unset"]

def isSpecial (name : String) : Bool := special.contains name

theorem isSpecial_colon : isSpecial ":" := by decide

/-- Builtins whose arguments are assignments. -/
def assigning : List String := ["export", "readonly", "local", "alias"]

end RaidProvision.Shell.Builtin

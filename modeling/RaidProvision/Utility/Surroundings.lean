import RaidProvision.System.Lookup
import RaidProvision.Utility.Files

/-!
# Programs that tell where they are

Programs that print what surrounds them: the directory, variables, the user, and where other
programs are.

* `userName_root`: programs are run by the administrator.
-/
namespace RaidProvision.Utility

def userName : String := "root"

theorem userName_root : userName = "root" := rfl

/-- Prints a text and succeeds. -/
def tell (text : String) : Utility := fun _ => do
  Work.print (text ++ "\n")
  return 0

def pwd : Utility := fun _ => do
  Work.print (absolutePath (← read).directory ++ "\n")
  return 0

/-- Prints variables, or the values of some. -/
def printenv : Utility := fun args => do
  let bindings := (← read).environment
  if args.isEmpty then
    Work.print (joinLines (bindings.map fun (name, value) => name ++ "=" ++ value))
    return 0
  let values := args.filterMap fun name => bindings.lookup name
  Work.print (joinLines values)
  return Work.statusOf (values.length = args.length)

def id : Utility := fun args =>
  match args with
  | ["-u"] | ["-g"] => tell "0" []
  | ["-un"] | ["-gn"] | ["-u", "-n"] | ["-n", "-u"] => tell userName []
  | _ => tell "uid=0(root) gid=0(root) groups=0(root)" []

def uname : Utility := fun args =>
  match args with
  | [] | ["-s"] => tell "Linux" []
  | ["-m"] | ["-p"] | ["-i"] => tell "x86_64" []
  | ["-o"] => tell "GNU/Linux" []
  | _ => tell "Linux" []

/-- Prints where programs are. -/
def which : Utility := fun args => do
  let process ← read
  let files ← Work.files
  let places := FileTree.placesOf process.environment
  let mut complete := true
  for name in args.filter fun arg => !arg.startsWith "-" do
    match files.program process.directory places name with
    | .ok (path, _) => Work.print (path ++ "\n")
    | .error _ => complete := false
  return Work.statusOf complete

/-- Says whether two files are the same. -/
def cmp : Utility := fun args => do
  let silent := args.contains "-s" || args.contains "-q"
  match args.filter fun arg => arg = "-" || !arg.startsWith "-" with
  | [a, b] =>
    match ← Work.readOperand a, ← Work.readOperand b with
    | .ok first, .ok second =>
      if first = second then return 0
      let places := (first.toList.zip second.toList).findIdx? fun (c, d) => c != d
      match places with
      | some i =>
        let line := ((first.toList.take i).count '\n') + 1
        let place := Nat.repr (i + 1)
        if !silent then Work.print s!"{a} {b} differ: char {place}, line {line}\n"
      | none =>
        let short := if first.length < second.length then a else b
        if !silent then Work.complain s!"EOF on {short}"
      return 1
    | .error cause, _ => do
      if !silent then Work.complainOf a cause
      return 2
    | _, .error cause => do
      if !silent then Work.complainOf b cause
      return 2
  | _ => Work.fail 2 "missing operand"

end RaidProvision.Utility

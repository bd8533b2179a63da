import RaidProvision.System.Lookup
import RaidProvision.System.Work
import RaidProvision.Utility.Options

/-!
# Programs that run programs

Some programs run the one that their arguments name: with other variables, with arguments from their
input, or just so. How a program is run is given to them.

* `splitItems_nil`: an empty input has no items.
-/
namespace RaidProvision

/-- Runs a program that the first of some words names with the others as arguments. -/
abbrev Launch := List String → Work (Except OsError Nat)

namespace Utility

/-- The status if a program cannot be run. -/
def statusOfRefusal (cause : OsError) : Nat := if cause = .notFound then 127 else 126

/-- Runs a program, or complains and fails. -/
def launchOrFail (launch : Launch) (words : List String) : Work Nat := do
  match ← launch words with
  | .ok status => return status
  | .error cause =>
    let name := words.headD ""
    Work.complain s!"'{name}': {cause.plainMessage}"
    return statusOfRefusal cause

/-- A variable of an argument that gives it a value. -/
def variableArgument? (arg : String) : Option (String × String) := Text.splitFirst "=" arg

/-- Changes variables and runs a program, or lists the variables. `fuel` bounds the number of
arguments. -/
def envWith (launch : Launch) : (fuel : Nat) → List (String × String) → List String → Work Nat
  | 0, _, _ => return 125
  | fuel + 1, bindings, args => do
    match args with
    | "-i" :: rest | "-" :: rest => envWith launch fuel [] rest
    | "-u" :: name :: rest => envWith launch fuel (bindings.filter (·.1 != name)) rest
    | "--" :: rest => envWith launch fuel bindings rest
    | [] =>
      Work.print (String.join (bindings.map fun (name, value) => s!"{name}={value}\n"))
      return 0
    | arg :: rest =>
      match variableArgument? arg with
      | some (name, value) =>
        envWith launch fuel (bindings.filter (·.1 != name) ++ [(name, value)]) rest
      | none =>
        withReader (fun process => { process with environment := bindings })
          (launchOrFail launch args)

/-- Runs a program with other variables. -/
def env (launch : Launch) : Utility := fun args => do
  envWith launch (args.length + 1) (← read).environment args

/-- Runs a program after dropping some arguments. -/
def carry (launch : Launch) (drop : List String → List String) : Utility := fun args => do
  launchOrFail launch (drop args)

/-- Drops the arguments of a program that limits the time of another one. -/
def dropLimit (args : List String) : List String :=
  (args.dropWhile fun arg => arg.startsWith "-").drop 1

/-- Drops the arguments of a program that changes the priority of another one. -/
def dropPriority : List String → List String
  | "-n" :: _ :: rest => rest
  | args => args.dropWhile fun arg => arg.startsWith "-"

/-! ## Arguments from the input -/

/-- An item that is being read, the last character first, and the items before, the latest first. -/
structure Items where
  done : List String
  current : Option (List Char)

namespace Items

def finish (items : Items) : Items :=
  match items.current with
  | some cs => ⟨String.ofList cs.reverse :: items.done, none⟩
  | none => items

def add (items : Items) (cs : List Char) : Items :=
  { items with current := some (cs.reverse ++ items.current.getD []) }

end Items

/-- Splits at white space, with quotes and backslashes. `fuel` bounds the length. -/
def splitItems : (fuel : Nat) → Items → List Char → List String
  | 0, items, _ => items.finish.done.reverse
  | _, items, [] => items.finish.done.reverse
  | fuel + 1, items, '\\' :: c :: rest => splitItems fuel (items.add [c]) rest
  | fuel + 1, items, c :: rest =>
    if c == '"' || c == '\'' then
      let inside := rest.takeWhile (· != c)
      splitItems fuel (items.add inside) (rest.drop (inside.length + 1))
    else if c == ' ' || c == '\t' || c == '\n' then splitItems fuel items.finish rest
    else splitItems fuel (items.add [c]) rest

theorem splitItems_nil (fuel : Nat) : splitItems fuel ⟨[], none⟩ [] = [] := by
  cases fuel <;> rfl

/-- Groups of at most some items. `fuel` bounds their number. -/
def groups (size : Nat) : (fuel : Nat) → List String → List (List String)
  | 0, _ => []
  | _, [] => []
  | fuel + 1, items => items.take size :: groups size fuel (items.drop size)

def xargsOptions : OptionTable :=
  { flags := "0rtx", valued := "nILdsPa",
    long := [("null", '0'), ("no-run-if-empty", 'r'), ("max-args", 'n'), ("delimiter", 'd'),
      ("replace", 'I')], mixed := false }

/-- The items of an input. -/
def itemsOf (options : Options) (input : String) : List String :=
  let between (mark : Char) : List String :=
    let pieces := Text.pieces mark input
    if pieces.getLast? = some "" then pieces.dropLast else pieces
  let delimiter := (options.value? 'd').map fun text =>
    match text with
    | "\\n" => '\n'
    | "\\t" => '\t'
    | "\\0" => '\x00'
    | text => text.toList.headD '\n'
  if options.has '0' then between '\x00'
  else
    match delimiter with
    | some mark => between mark
    | none =>
      if options.has 'I' || options.has 'L' then
        ((splitLines input).1.map fun line =>
          String.ofList (line.toList.dropWhile fun c => c == ' ' || c == '\t')).filter (· != "")
      else splitItems (input.length + 1) ⟨[], none⟩ input.toList

/-- The status that stands for those of the programs that were run. -/
def jointStatus (statuses : List Nat) : Nat :=
  if statuses.any (126 ≤ ·) then (statuses.find? (126 ≤ ·)).getD 0
  else if statuses.any (· != 0) then 123 else 0

/-- A word with a text put in for each place where a mark stands. -/
def replaceAll (mark text word : String) : String := text.intercalate (word.splitOn mark)

/-- Runs a program with arguments from the input. -/
def xargs (launch : Launch) : Utility := fun args => do
  match xargsOptions.parse args with
  | .error fault => Work.fail 1 fault
  | .ok options => do
    match ← Work.readAll 0 with
    | .error cause => Work.fail 1 cause.plainMessage
    | .ok input =>
      let items := itemsOf options input
      let words := if options.operands.isEmpty then ["echo"] else options.operands
      let calls : List (List String) :=
        match options.value? 'I' with
        | some mark => items.map fun item => words.map (replaceAll mark item)
        | none =>
          match ((options.value? 'n') <|> (options.value? 'L')).bind String.toNat? with
          | some size => (groups (max 1 size) items.length items).map (words ++ ·)
          | none =>
            if items.isEmpty && options.has 'r' then [] else [words ++ items]
      let (number, system) := (← getThe System).openStream .null
      set system
      let closed (process : Process) : Process :=
        { process with descriptors := (0, number) :: process.descriptors.filter (·.1 != 0) }
      return jointStatus (← calls.mapM fun words => withReader closed (launchOrFail launch words))

end Utility
end RaidProvision

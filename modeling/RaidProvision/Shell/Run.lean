import RaidProvision.Shell.Builtin
import RaidProvision.Shell.Reader
import RaidProvision.Shell.Redirect
import RaidProvision.Utility.Table

/-!
# Running statements

A statement is run in the state of a shell. Statements contain others, call functions and read
scripts; `step` runs one of them when told how the others are run, and `run` ties this together with
a bound on their depth.

* `step_nothing`: the empty statement succeeds.
-/
namespace RaidProvision.Shell

/-- How statements are run. -/
abbrev Runner := Statement → Action Unit

namespace Action

/-- Runs an action for its result, which may be that it was left. -/
def observe {α : Type} (action : Action α) : Action (Except Leave α) := ExceptT.lift action.run

/-- Ends the shell if a failure is not looked at and that is asked for. -/
def checkFailure : Action Unit := do
  let state ← get
  if state.options.contains 'e' && !state.tested && state.status != 0 then
    throw (.exits state.status)

end Action

section

variable (run : Runner)

/-! ## Scripts -/

/-- Runs a script line by line. `fuel` bounds the number of lines. -/
def runLines : (fuel : Nat) → Cursor → Action Unit
  | 0, _ => return ()
  | fuel + 1, cursor => do
    match readLine.run { cursor with aliases := (← get).aliases } with
    | .error fault =>
      modify fun state => { state with line := fault.line }
      Action.abort fault.cause.message
    | .ok (none, _) => return ()
    | .ok (some statement, cursor) =>
      if !(← get).options.contains 'n' then run statement
      runLines fuel cursor

/-- Runs a script. -/
def runText (text : String) : Action Unit := runLines run (text.length + 1) (.ofText text)

/-- Runs an action, and at the end what was asked for then. -/
def withEnd (action : Action Unit) : Action Unit := do
  let result ← action.observe
  let state ← get
  match state.traps.lookup "EXIT", Action.statusOfLeave state.status result with
  | some text, .ok status =>
    set { state with traps := state.traps.filter (·.1 != "EXIT"), status := status }
    runText run text
    throw (.exits status)
  | _, _ => MonadExcept.ofExcept result

/-- Runs a statement in a subshell. -/
def runInSubshell (body : Statement) : Action Nat := Action.inSubshell (withEnd run (run body))

/-- Drops the ends of lines at the end of a text, and what texts cannot hold. -/
def trimOutput (text : String) : String :=
  String.ofList ((text.toList.reverse.dropWhile (· == '\n')).reverse.filter (· != '\x00'))

/-- What a statement prints. -/
def capture (body : Statement) : Action String := do
  let state ← get
  let (number, system) := state.system.openStream (.pipe "")
  set { state with system := system }
  let status ← Action.withDescriptors (connect state.descriptors 1 number)
    (Action.withTested false (runInSubshell run body))
  let state ← get
  let (text, system) := state.system.readAll number
  set { state with system := system, outputStatus := status }
  return trimOutput text

/-! ## Shells -/

/-- The variables that a shell has if it is not given others. -/
def standardVariables : List (String × Variable) :=
  [("OPTIND", "1"), ("IFS", " \t\n"), ("PATH", FileTree.standardPlaces)].map fun (name, value) =>
    (name, ⟨some value, false, false⟩)

/-- The state of a new shell. -/
def newState (process : Process) (system : System) (name : String) (parameters : List String) :
    State :=
  let given := process.environment.filter fun (name, _) => isName name
  let given := given ++ [("PWD", Builtin.pathOf process.directory)]
  let state : State :=
    { system := system, directory := process.directory, bindings := standardVariables,
      functions := [], parameters := parameters, name := name, line := 0, status := 0,
      outputStatus := 0, options := [], descriptors := process.descriptors, loops := 0,
      locals := [], tested := false, traps := [], jobs := [], optionOffset := 0,
      aliases := [], plainEcho := Utility.baseName process.name = "bash" }
  given.foldl (fun state (name, value) => state.putVariable name ⟨some value, true, false⟩) state

/-- What a new shell is asked to do. -/
structure Start where
  name : String
  parameters : List String
  options : List Char
  text : String

/-- Runs a script in a new shell. Returns its status, or the signal that ended it. -/
def runStart (start : Start) : Work (Except Nat Nat) := do
  let state := newState (← read) (← getThe System) start.name start.parameters
  let (result, after) :=
    (withEnd run (runText run start.text)).run { state with options := start.options }
  set after.system
  match Action.statusOfLeave after.status result with
  | .ok status => return .ok status
  | .error (.killed signal) => return .error signal
  | .error _ => return .ok after.status

/-- Reads the options of a shell. Returns them, whether a line is given, and the operands. `fuel`
bounds the number of arguments. -/
def shellOptions : (fuel : Nat) → List Char → List String → List Char × List String
  | 0, options, args => (options, args)
  | _, options, [] => (options, [])
  | fuel + 1, options, arg :: rest =>
    match arg.toList with
    | ['-'] | ['-', '-'] => (options, rest)
    | '-' :: letters =>
      if letters.contains 'o' then shellOptions fuel (options ++ letters) (rest.drop 1)
      else shellOptions fuel (options ++ letters) rest
    | '+' :: _ => shellOptions fuel options rest
    | _ => (options, arg :: rest)

/-- What the arguments of a shell ask for. -/
def startOf (args : List String) : Work (Except Nat Start) := do
  let (letters, operands) := shellOptions args.length [] args
  let options := letters.filter "aefux".toList.contains
  let own := (← read).name
  let refuse (text : String) : Work (Except Nat Start) := do
    Work.write 2 s!"{own}: 0: {text}\n"
    return .error 2
  if letters.contains 'c' then
    match operands with
    | [] => refuse "-c requires an argument"
    | [line] => return .ok ⟨own, [], options, line⟩
    | line :: name :: parameters => return .ok ⟨name, parameters, options, line⟩
  else
    match operands, letters.contains 's' with
    | path :: parameters, false =>
      match ← Work.readFile path with
      | .ok text => return .ok ⟨path, parameters, options, text⟩
      | .error .isADirectory => return .ok ⟨path, parameters, options, ""⟩
      | .error cause => refuse (Redirecting.refusal "open" "No such file" path cause)
    | parameters, _ =>
      return .ok ⟨own, parameters, options, ((← Work.readAll 0).toOption).getD ""⟩

/-- Runs a shell as a program. Returns the signal that ended it, if one did. -/
def shellEnding (args : List String) : Work (Except Nat Nat) := do
  match ← startOf args with
  | .error status => return .ok status
  | .ok start => runStart run start

/-- Runs a shell as a program. -/
def shellProgram : Utility := fun args => do
  match ← shellEnding run args with
  | .ok status => return status
  | .error signal => return 128 + signal

/-- Runs a program, which is looked for in given places, or where its variables say. -/
def launch (places : Option (List String)) : Launch := fun words =>
  Utility.launchFrom (shellProgram run) (words.length + 8) places words

/-! ## Commands -/

/-- Runs a program, or complains that it cannot be run, with a text in front of its name. -/
def runProgram (lead : String) (words : List String) : Action Nat := do
  match ← Action.work "" (launch run (← get).places words) with
  | .ok status => return status
  | .error cause =>
    let text := if cause = .notFound then "not found" else cause.plainMessage
    let name := words.headD ""
    Action.complain s!"{lead}{name}: {text}"
    return Utility.statusOfRefusal cause

/-- Calls a function. -/
def callFunction (body : Statement) (args : List String) : Action Nat := do
  let before ← get
  set { before with parameters := args, loops := 0, locals := [] :: before.locals }
  let result ← (run body).observe
  Builtin.restore ((← get).locals.headD [])
  modify fun state =>
    { state with
      parameters := before.parameters, loops := before.loops, locals := before.locals }
  match result with
  | .ok () => return (← get).status
  | .error (.returns status) => return status
  | .error leave => throw leave

/-- Runs the arguments as a script. -/
def evaluate : Builtin := fun args => do
  let text := " ".intercalate args
  if text.toList.all fun c => c == ' ' || c == '\t' || c == '\n' then return 0
  runText run text
  return (← get).status

/-- Runs a script in the shell itself. -/
def source : Builtin := fun args => do
  match args with
  | [] => return 0
  | name :: _ =>
    let state ← get
    let files := state.system.files
    let paths :=
      if name.toList.contains '/' then [name] else state.places.map (· ++ "/" ++ name)
    match paths.findSome? fun path => (files.read state.directory path).toOption with
    | none => Builtin.abort "." s!"{name}: not found"
    | some text =>
      Action.setStatus 0
      match ← (runText run text).observe with
      | .ok () => return (← get).status
      | .error (.returns status) => return status
      | .error leave => throw leave

/-- Words that begin or end statements. -/
def keywords : List String := openingKeywords ++ closingKeywords ++ ["in", "!"]

/-- Where the program with a name is. -/
def programPath? (state : State) (name : String) : Option String :=
  ((state.system.files.program state.directory state.places name).toOption).map Prod.fst

/-- What a name stands for in front of a command, in few words or in a sentence. -/
def describe (brief : Bool) (name : String) : Action Nat := do
  let state ← get
  let tell (kind : String) : Action Nat := do
    Builtin.print (if brief then name ++ "\n" else s!"{name} is {kind}\n")
    return 0
  if keywords.contains name then tell "a shell keyword"
  else if (state.functions.lookup name).isSome then tell "a shell function"
  else if Builtin.isSpecial name then tell "a special shell builtin"
  else if Builtin.isBuiltin name then tell "a shell builtin"
  else
    match programPath? state name with
    | some path =>
      Builtin.print (if brief then path ++ "\n" else s!"{name} is {path}\n")
      return 0
    | none =>
      if !brief then Builtin.print s!"{name}: not found\n"
      return 127

/-- Describes names in sentences. -/
def describeAll (names : List String) : Action Nat := do
  let statuses ← names.mapM (describe false)
  return (statuses.find? (· != 0)).getD 0

/-- Runs what a signal that is sent to the shell asks for. -/
def handleSignal (action : Action Nat) : Action Nat := do
  match ← action.observe with
  | .error (.killed signal) =>
    match (← get).traps.lookup (Builtin.signalName signal) with
    | some text =>
      if signal = 9 then throw (.killed signal)
      runText run text
      return 0
    | none => throw (.killed signal)
  | result => MonadExcept.ofExcept result

/-- Runs a builtin, in which a fault may end the shell. -/
def runBuiltin (fatal : Bool) (action : Action Nat) : Action Nat := do
  match ← (handleSignal run action).observe with
  | .error .faults => if fatal then throw .faults else return 2
  | result => MonadExcept.ofExcept result

/-- Replaces the shell by a program. -/
def replaceShell (words : List String) : Action Nat := do
  let words := if words.head? = some "--" then words.drop 1 else words
  if words.isEmpty then return 0
  let status ← runProgram run "exec: " words
  modify fun state => { state with traps := [] }
  throw (.exits status)

/-- Runs a command without its redirections. `plain` passes over functions, `fuel` bounds how often
a command names another one. -/
def execute : (fuel : Nat) → (plain : Bool) → List String → Action Nat
  | 0, _, _ => return 127
  | _, _, [] => do return (← get).outputStatus
  | fuel + 1, plain, name :: args => do
    let functions := (← get).functions
    match if plain then none else functions.lookup name with
    | some body => callFunction run body args
    | none =>
      let fatal := !plain && Builtin.isSpecial name
      match name with
      | "eval" => runBuiltin run fatal (evaluate run args)
      | "." => runBuiltin run fatal (source run args)
      | "exec" => runBuiltin run fatal (replaceShell run args)
      | "type" => describeAll args
      | "command" =>
        match args with
        | "-v" :: name :: _ => describe true name
        | "-V" :: name :: _ => describe false name
        | "-p" :: words | "--" :: words | words => execute fuel true words
      | name =>
        match Builtin.simple.lookup name with
        | some builtin => runBuiltin run fatal (builtin args)
        | none => runProgram run "" (name :: args)

/-- Gives variables their values while a command is run, or for good. -/
def withAssignments (lasting exported : Bool) (assignments : List (String × Word))
    (action : Action Nat) : Action Nat := do
  let before ← get
  assignments.forM fun (name, word) => do
    Action.assign name (← expandText (capture run) word)
    if exported then
      modify fun state =>
        state.putVariable name { (state.held? name).getD default with exported := true }
  let result ← action.observe
  if !lasting then
    Builtin.restore (assignments.map fun (name, _) => (name, before.held? name))
  MonadExcept.ofExcept result

/-- The arguments of a command, whose builtin may take assignments. -/
def expandArguments (words : List Word) : Action (List String) := do
  match words with
  | [] => return []
  | first :: rest =>
    let head ← expandFields (capture run) first
    let assigning := (head.head?).any Builtin.assigning.contains
    let tails ← rest.mapM fun word => do
      match if assigning then word.assignment? else none with
      | some (name, value) => return [name ++ "=" ++ (← expandText (capture run) value)]
      | none => expandFields (capture run) word
    return head ++ tails.flatten

/-- Runs a command. -/
def runCommand (assignments : List (String × Word)) (words : List Word)
    (redirections : List Redirection) : Action Unit := do
  modify fun state => { state with outputStatus := 0 }
  let args ← expandArguments run words
  let before ← get
  if before.options.contains 'x' && !args.isEmpty then
    Action.work "" (Work.write 2 ("+ " ++ " ".intercalate args ++ "\n"))
  let name := args.headD ""
  let isFunction := (before.functions.lookup name).isSome
  let special := !isFunction && Builtin.isSpecial name
  if ← redirectAll (capture run) redirections then
    let task := withAssignments run (args.isEmpty || special) (!args.isEmpty) assignments
      (execute run (args.length + 1) false args)
    let result ← task.observe
    if args != ["exec"] || isFunction then
      modify fun state => { state with descriptors := before.descriptors }
    Action.setStatus (← MonadExcept.ofExcept result)
  else
    modify fun state => { state with descriptors := before.descriptors }
    if special then throw .faults
    Action.setStatus 2

/-! ## Statements -/

/-- How often a loop is run at most. -/
def maxRounds : Nat := 100000

/-- What came of a round of a loop: whether it goes on, and its status so far. -/
abbrev Round := Bool × Nat

/-- Runs a round of a loop, which may be left. -/
def inLoop (action : Action Round) : Action Round := do
  match ← action.observe with
  | .error (.breaks loops) =>
    if loops ≤ 1 then return (false, 0) else throw (.breaks (loops - 1))
  | .error (.continues loops) =>
    if loops ≤ 1 then return (true, 0) else throw (.continues (loops - 1))
  | result => MonadExcept.ofExcept result

/-- Repeats a round as long as it asks for that. -/
def rounds (round : Nat → Action Round) : (fuel : Nat) → Nat → Action Nat
  | 0, status => return status
  | fuel + 1, status => do
    let (goOn, status) ← round status
    if goOn then rounds round fuel status else return status

/-- Runs the rounds of a loop. -/
def withLoop (action : Action Nat) : Action Unit := do
  let loops := (← get).loops
  modify fun state => { state with loops := loops + 1 }
  let result ← action.observe
  modify fun state => { state with loops := loops }
  Action.setStatus (← MonadExcept.ofExcept result)

/-- Runs a body while a test ends in the way that is asked for. -/
def runLoop (whileFails : Bool) (test body : Statement) : Action Unit :=
  withLoop (rounds (fun status => inLoop do
    Action.withTested true (run test)
    let fails := (← get).status != 0
    if fails != whileFails then return (false, status)
    run body
    return (true, (← get).status)) maxRounds 0)

/-- Runs a body for each of some values. -/
def runEach (name : String) (body : Statement) : List String → Nat → Action Nat
  | [], status => return status
  | value :: rest, _ => do
    Action.assign name value
    let (goOn, status) ← inLoop do
      run body
      return (true, (← get).status)
    if goOn then runEach name body rest status else return status

/-- Runs the body of the first case that has a matching pattern. -/
def runChoice (cs : List Char) : List (List Word × Statement) → Action Unit
  | [] => Action.setStatus 0
  | (patterns, body) :: rest => do
    let found ← patterns.anyM fun pattern =>
      return Wildcard.matchAll (← expandPattern (capture run) pattern) cs
    if found then
      match body with
      | .nothing => Action.setStatus 0
      | body => run body
    else runChoice cs rest

/-- Runs the parts of a pipeline, where the first one reads from a stream if one is given. -/
def runParts (descriptors : List (Nat × Nat)) (input : Option Nat) : List Statement → Action Nat
  | [] => return 0
  | part :: rest => do
    let led := (input.map (connect descriptors 0)).getD descriptors
    if rest.isEmpty then Action.withDescriptors led (runInSubshell run part)
    else
      let state ← get
      let (number, system) := state.system.openStream (.pipe "")
      set { state with system := system }
      discard (Action.withDescriptors (connect led 1 number) (runInSubshell run part))
      runParts descriptors (some number) rest

/-- Runs a statement that has ended with a status before it is looked at. -/
def finishWith (status : Nat) : Action Unit := do
  Action.setStatus status
  Action.checkFailure

/-- Runs a statement, when it is told how others are run. -/
def step : Statement → Action Unit
  | .nothing => Action.setStatus 0
  | .command line assignments words redirections => do
    modify fun state => { state with line := line }
    runCommand run assignments words redirections
    Action.checkFailure
  | .pipeline negated parts => do
    match negated, parts with
    | true, [part] => do
      Action.withTested true (run part)
      Action.setStatus (if (← get).status = 0 then 1 else 0)
    | _, _ => do
      let status ← runParts run (← get).descriptors none parts
      if negated then Action.setStatus (if status = 0 then 1 else 0) else finishWith status
  | .both first second => do
    Action.withTested true (run first)
    if (← get).status = 0 then run second
  | .either first second => do
    Action.withTested true (run first)
    if (← get).status != 0 then run second
  | .sequence first second => do
    run first
    step second
  | .background body => do
    let state ← get
    let (number, system) := state.system.openStream .null
    set { state with system := system }
    let status ← Action.withDescriptors (connect state.descriptors 0 number)
      (runInSubshell run body)
    modify fun state => { state with jobs := state.jobs ++ [status], status := 0 }
  | .subshell body => do finishWith (← runInSubshell run body)
  | .conditional test success failure => do
    Action.withTested true (run test)
    if (← get).status = 0 then run success else run failure
  | .loop whileFails test body => runLoop run whileFails test body
  | .each name words body => do
    let values ←
      match words with
      | some words => expandAll (capture run) words
      | none => pure (← get).parameters
    withLoop (runEach run name body values 0)
  | .choice word cases => do
    runChoice run (← expandText (capture run) word).toList cases
  | .define name body => do
    modify fun state =>
      { state with
        functions := (name, body) :: state.functions.filter (·.1 != name), status := 0 }
  | .redirected body redirections => do
    let saved := (← get).descriptors
    if ← redirectAll (capture run) redirections then
      let result ← (run body).observe
      modify fun state => { state with descriptors := saved }
      MonadExcept.ofExcept result
    else
      modify fun state => { state with descriptors := saved }
      finishWith 2

theorem step_nothing (state : State) :
    (step run .nothing).run state = (.ok (), { state with status := 0 }) := rfl

end

/-- How deep statements may be inside one another. -/
def maxDepth : Nat := 2000

/-- Runs a statement down to a depth. -/
def runTo : (depth : Nat) → Runner
  | 0, _ => throw (.killed 11)
  | depth + 1, statement => do
    if (← get).options.contains 'n' then return ()
    step (runTo depth) statement

/-- Runs a statement. -/
def run : Runner := runTo maxDepth

end RaidProvision.Shell

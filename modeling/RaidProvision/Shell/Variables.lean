import RaidProvision.Shell.State

/-!
# Builtins for variables and parameters

Builtins of the shell that mark, list, read and take away variables, and that set options and
parameters.

* `quote_plain`: a text without quotes stands between two of them.
-/
namespace RaidProvision.Shell

/-- A builtin with its arguments. -/
abbrev Builtin := List String → Action Nat

namespace Builtin

def print (text : String) : Action Unit := Action.work "" (Work.print text)

/-- Complains in the name of a builtin. -/
def complain (name text : String) : Action Unit := Action.builtin name (Work.complain text)

/-- Complains in the name of a builtin and leaves what cannot be done. -/
def abort {α : Type} (name text : String) : Action α := do
  complain name text
  throw .faults

/-- A text between quotes, as the shell would read it. -/
def quote (s : String) : String :=
  "'" ++ "'\"'\"'".intercalate (Text.pieces '\'' s) ++ "'"

theorem quote_plain : quote "a b" = "'a b'" := by decide +kernel

/-- A number that an argument has to be. -/
def numberArgument (name text : String) : Action Nat := do
  match text.toNat? with
  | some n =>
    if n < 2147483648 then return n
    abort name s!"Illegal number: {text}"
  | none => abort name s!"Illegal number: {text}"

/-- A name and the value behind an equals sign. -/
def splitAssignment (text : String) : String × Option String :=
  match Text.splitFirst "=" text with
  | some (name, value) => (name, some value)
  | none => (text, none)

/-- Variables by their names. -/
def sortedVariables (state : State) : List (String × Variable) :=
  state.bindings.mergeSort fun a b => !decide (b.1 < a.1)

/-- A variable as the shell would read it. -/
def shown (lead : String) (entry : String × Variable) : String :=
  lead ++ entry.1 ++ ((entry.2.value?.map fun value => "=" ++ quote value).getD "") ++ "\n"

/-- Marks a variable, which may get a value. -/
def mark (builtin : String) (change : Variable → Variable) (text : String) : Action Unit := do
  let (name, value?) := splitAssignment text
  if !isName name then abort builtin s!"{name}: bad variable name"
  value?.forM (Action.assign name)
  modify fun state =>
    state.putVariable name (change ((state.held? name).getD ⟨none, false, false⟩))

/-- Marks variables, or lists those that are marked. -/
def markAll (builtin : String) (marked : Variable → Bool) (change : Variable → Variable) :
    Builtin :=
  fun args => do
    let listed := args.head? = some "-p" || args.isEmpty
    if listed then
      let entries := (sortedVariables (← get)).filter fun entry => marked entry.2
      print (String.join (entries.map (shown (builtin ++ " "))))
      return 0
    (if args.head? = some "--" then args.drop 1 else args).forM (mark builtin change)
    return 0

def exportAll : Builtin :=
  markAll "export" Variable.exported fun held => { held with exported := true }

def protectAll : Builtin :=
  markAll "readonly" Variable.readOnly fun held => { held with readOnly := true }

/-- Makes variables local to the function that is being run. -/
def localAll : Builtin := fun args => do
  match (← get).locals with
  | [] => abort "local" "not in a function"
  | _ =>
    args.forM fun text => do
      let (name, value?) := splitAssignment text
      if !isName name then abort "local" s!"{name}: bad variable name"
      modify fun state =>
        match state.locals with
        | [] => state
        | first :: rest => { state with locals := ((name, state.held? name) :: first) :: rest }
      value?.forM (Action.assign name)
    return 0

/-- Puts variables back as they were. -/
def restore (saved : List (String × Option Variable)) : Action Unit :=
  modify fun state => saved.foldl (fun state (name, held?) =>
    match held? with
    | some held => state.putVariable name held
    | none => state.dropVariable name) state

/-- Takes away variables or functions. -/
def unset : Builtin := fun args => do
  let functions := args.head? = some "-f"
  let names := if functions || args.head? = some "-v" then args.drop 1 else args
  names.forM fun name => do
    let state ← get
    if functions then
      set { state with functions := state.functions.filter (·.1 != name) }
    else if (state.held? name).any Variable.readOnly then
      abort "unset" s!"{name}: is read only"
    else if (state.held? name).isSome then set (state.dropVariable name)
    else if isName name then
      set { state with functions := state.functions.filter (·.1 != name) }
    else abort "unset" s!"{name}: bad variable name"
  return 0

/-- Long names of options. -/
def optionNames : List (String × Char) :=
  [("errexit", 'e'), ("noglob", 'f'), ("ignoreeof", 'I'), ("interactive", 'i'), ("monitor", 'm'),
    ("noexec", 'n'), ("stdin", 's'), ("xtrace", 'x'), ("verbose", 'v'), ("vi", 'V'),
    ("emacs", 'E'), ("noclobber", 'C'), ("allexport", 'a'), ("notify", 'b'), ("nounset", 'u')]

/-- Sets or drops an option. -/
def switch (on : Bool) (letter : Char) : Action Unit :=
  modify fun state =>
    let others := state.options.filter (· != letter)
    { state with options := if on then letter :: others else others }

/-- Sets options. Returns the arguments that follow them, if parameters are given. `fuel` bounds
their number. -/
def setOptions (builtin : String) : (fuel : Nat) → List String → Action (Option (List String))
  | 0, _ => return none
  | _, [] => return none
  | fuel + 1, arg :: rest => do
    match arg.toList with
    | ['-'] => return if rest.isEmpty then none else some rest
    | ['-', '-'] => return some rest
    | sign :: letters =>
      if sign != '-' && sign != '+' then return some (arg :: rest)
      let on := sign == '-'
      let mut rest := rest
      for letter in letters do
        if letter == 'o' then
          match rest with
          | [] => pure ()
          | name :: others =>
            match optionNames.lookup name with
            | some letter => switch on letter
            | none => abort builtin s!"Illegal option -o {name}"
            rest := others
        else if optionNames.any fun (_, known) => known == letter then switch on letter
        else abort builtin s!"Illegal option -{letter}"
      setOptions builtin fuel rest
    | [] => return some (arg :: rest)

/-- Sets options and parameters, or lists variables. -/
def setAll : Builtin := fun args => do
  if args.isEmpty then
    print (String.join ((sortedVariables (← get)).map fun entry =>
      if entry.2.value?.isSome then shown "" entry else ""))
    return 0
  match ← setOptions "set" (args.length + 1) args with
  | some parameters => modify fun state => { state with parameters := parameters }
  | none => pure ()
  return 0

/-- Drops the first parameters. -/
def shift : Builtin := fun args => do
  let count ←
    match args with
    | [] => pure 1
    | text :: _ => numberArgument "shift" text
  let state ← get
  if state.parameters.length < count then abort "shift" "can't shift that many"
  set { state with parameters := state.parameters.drop count }
  return 0

/-! ## Reading -/

/-- A character of a line and whether a backslash stood before it. -/
abbrev LineChar := Char × Bool

/-- The next line and whether it has an end, with the number of characters read. A backslash takes
the meaning from a character and joins lines, unless the line is `raw`. -/
def takeLine (raw : Bool) : List Char → List LineChar × Bool × Nat
  | [] => ([], false, 0)
  | '\n' :: _ => ([], true, 1)
  | '\\' :: '\n' :: rest =>
    if raw then ([('\\', false)], true, 2)
    else
      let (cs, ended, count) := takeLine raw rest
      (cs, ended, count + 2)
  | '\\' :: c :: rest =>
    if raw then
      let (cs, ended, count) := takeLine raw (c :: rest)
      (('\\', false) :: cs, ended, count + 1)
    else
      let (cs, ended, count) := takeLine raw rest
      ((c, true) :: cs, ended, count + 2)
  | c :: rest =>
    let (cs, ended, count) := takeLine raw rest
    ((c, false) :: cs, ended, count + 1)

def isSpaceIn (separators : List Char) (c : LineChar) : Bool :=
  !c.2 && separators.contains c.1 && (c.1 == ' ' || c.1 == '\t' || c.1 == '\n')

def separates (separators : List Char) (c : LineChar) : Bool := !c.2 && separators.contains c.1

def lineText (cs : List LineChar) : String := String.ofList (cs.map Prod.fst)

/-- Drops white space at the end. -/
def trimSpaces (separators : List Char) (cs : List LineChar) : List LineChar :=
  (cs.reverse.dropWhile (isSpaceIn separators)).reverse

/-- Drops what separates a field from the next one. -/
def dropSeparator (separators : List Char) (cs : List LineChar) : List LineChar :=
  let cs := cs.dropWhile (isSpaceIn separators)
  match cs with
  | c :: rest =>
    if separates separators c then rest.dropWhile (isSpaceIn separators) else cs
  | [] => []

/-- The last field: what is left, without a separator at its end if nothing else is left. -/
def lastField (separators : List Char) (cs : List LineChar) : String :=
  let field := cs.takeWhile fun c => !separates separators c
  if (dropSeparator separators (cs.drop field.length)).isEmpty then lineText field
  else lineText (trimSpaces separators cs)

/-- The values that a line gives to some names. -/
def lineFields (separators : List Char) : List String → List LineChar → List (String × String)
  | [], _ => []
  | [name], cs => [(name, lastField separators cs)]
  | name :: names, cs =>
    let field := cs.takeWhile fun c => !separates separators c
    (name, lineText field) ::
      lineFields separators names (dropSeparator separators (cs.drop field.length))

/-- Reads a line into variables. -/
def readInto : Builtin := fun args => do
  let raw := args.head? = some "-r"
  let names := if raw then args.drop 1 else args
  let names :=
    match names with
    | "-p" :: _ :: names => names
    | names => names
  if names.isEmpty then abort "read" "arg count"
  let state ← get
  match state.descriptors.lookup 0 with
  | none => return 1
  | some number =>
    let (cs, ended, count) := takeLine raw (state.system.held number)
    set { state with system := state.system.pass number count }
    let separators := state.separators
    let cs := cs.dropWhile (isSpaceIn separators)
    (lineFields separators names cs).forM fun (name, value) => do
      if !isName name then abort "read" s!"{name}: bad variable name"
      Action.assign name value
    return if ended then 0 else 1

/-! ## Options of scripts -/

/-- What `getopts` finds. -/
structure FoundOption where
  name : String
  /-- The value, if there is one to be set. -/
  value : Option String
  complaint : Option String
  index : Nat
  /-- How much of the argument before the index was seen, if not all. -/
  offset : Nat

/-- The next option of some arguments, where `index` is the place of the next argument and `offset`
how much of the one before was seen. -/
def nextOption? (letters : List Char) (args : List String) (index offset : Nat) :
    Nat × Option FoundOption :=
  let before := ((args[index - 2]?).getD "").toList
  let going := 2 ≤ index && 0 < offset && offset < before.length
  let word := if going then before else ((args[index - 1]?).getD "").toList
  let seen := if going then offset else 1
  let index := if going then index else index + 1
  if !going && (word.head? != some '-' || word.length < 2) then (index - 1, none)
  else if !going && word == ['-', '-'] then (index, none)
  else
    let c := word[seen]?.getD '?'
    let rest := word.drop (seen + 1)
    let offset := if rest.isEmpty then 0 else seen + 1
    let silent := letters.head? = some ':'
    let known := letters.dropWhile (· != c)
    if c == ':' || known.isEmpty then
      let complaint := if silent then none else some s!"Illegal option -{c}"
      (index, some ⟨"?", if silent then some c.toString else none, complaint, index, offset⟩)
    else if known[1]? = some ':' then
      if !rest.isEmpty then
        (index, some ⟨c.toString, some (String.ofList rest), none, index, 0⟩)
      else
        match args[index - 1]? with
        | some value => (index + 1, some ⟨c.toString, some value, none, index + 1, 0⟩)
        | none =>
          if silent then (index, some ⟨":", some c.toString, none, index, 0⟩)
          else (index, some ⟨"?", none, some s!"No arg for -{c} option", index, 0⟩)
    else (index, some ⟨c.toString, some "", none, index, offset⟩)

/-- Finds the next option of the parameters, or of the arguments. -/
def getOptions : Builtin
  | letters :: name :: args => do
    let state ← get
    let args := if args.isEmpty then state.parameters else args
    let index := max 1 (((state.value? "OPTIND").bind String.toNat?).getD 1)
    let offset := if index ≤ 1 then 0 else state.optionOffset
    let (index, found) := nextOption? letters.toList args index offset
    Action.assign "OPTIND" (Nat.repr index)
    modify fun state => { state with optionOffset := (found.map FoundOption.offset).getD 0 }
    match found with
    | none =>
      Action.assign name "?"
      return 1
    | some option =>
      option.complaint.forM fun text => Action.work "" (Work.write 2 (text ++ "\n"))
      match option.value with
      | some value => Action.assign "OPTARG" value
      | none => modify fun state => state.dropVariable "OPTARG"
      Action.assign name option.name
      return 0
  | _ => abort "getopts" "Usage: getopts optstring var [arg...]"

end Builtin
end RaidProvision.Shell

import RaidProvision.System.Work
import RaidProvision.Utility.Options
import RaidProvision.Utility.Passing
import RaidProvision.Utility.Sed.Script

/-!
# The stream editor

The editor takes one line after the other into its pattern space, goes through its script with it
and prints what has become of it. A second space holds what is kept between lines.

* `ends_finish`: behind its last instruction a script is at its end.
-/
namespace RaidProvision.Sed

/-- What is printed after the line at hand. -/
inductive Queued where
  | text (s : String)
  | file (path : String)

/-- The state of the editor. -/
structure Editor where
  /-- The lines that are left. -/
  lines : List String
  /-- Whether the last line of the input has an end. -/
  complete : Bool
  number : Nat
  space : List Char
  /-- Whether a line of the space has an end when it is printed. -/
  spaceEnds : Bool
  held : List Char
  heldEnds : Bool
  queue : List Queued
  substituted : Bool
  lastRegex : Option Regex
  /-- The instructions whose ranges have begun, with the last line if that is known. -/
  active : List (Nat × Option Nat)
  /-- Whether what was printed last lacks the end of a line. -/
  open? : Bool

/-- How the way through the script ends. -/
inductive After where
  | finished
  | deleted
  /-- The script is gone through again with what is left. -/
  | again
  /-- The editor stops, with a status, after the line is printed or not. It may see to it that what
  is printed ends with a line. -/
  | quits (status : Nat) (printed closes : Bool)

abbrev Editing (α : Type) := StateT Editor Work α

section

variable (script : List Instruction) (quiet : Bool)

/-! ## Printing -/

/-- Prints a text behind what was printed before. -/
def emit (text : String) : Editing Unit := do
  if (← get).open? then Work.print "\n"
  modify fun editor => { editor with open? := false }
  Work.print text

/-- Prints a line. -/
def emitLine (cs : List Char) : Editing Unit := do
  emit (String.ofList cs)
  if (← get).spaceEnds then Work.print "\n"
  else modify fun editor => { editor with open? := true }

/-- Prints what was queued. -/
def flush : Editing Unit := do
  let queue := (← get).queue
  modify fun editor => { editor with queue := [] }
  queue.reverse.forM fun
    | .text s => emit s
    | .file path => do
      match ← Work.readFile path with
      | .ok text => if text.isEmpty then return () else emit text
      | .error _ => return ()

/-- Takes the next line. -/
def takeNext : Editing (Option (List Char)) := do
  let editor ← get
  match editor.lines with
  | [] => return none
  | line :: rest =>
    set { editor with lines := rest, number := editor.number + 1,
                      spaceEnds := !rest.isEmpty || editor.complete }
    return some line.toList

/-! ## Lines that are named -/

/-- The expression that a pattern stands for. -/
def regexOf (pattern : Pattern) : Editing Regex := do
  match pattern.regex with
  | some r =>
    modify fun editor => { editor with lastRegex := some r }
    return r
  | none => return ((← get).lastRegex).getD .empty

def findIn (pattern : Pattern) (place : Position) : Editing (Option Regex.Match) := do
  let r ← regexOf pattern
  return r.find? pattern.fold (fun _ _ => true) place

/-- Whether an address names the line at hand. -/
def names (address : Address) : Editing Bool := do
  let editor ← get
  match address with
  | .line n => return editor.number = n
  | .last => return editor.lines.isEmpty
  | .step first every =>
    return if every = 0 then editor.number = first
      else first ≤ editor.number && (editor.number - first) % every = 0
  | .found pattern => return (← findIn pattern (.ofText editor.space)).isSome

/-- Begins a range at the line at hand, unless it ends there. -/
def beginRange (i : Nat) (first : Address) (finish : RangeEnd) : Editing Unit := do
  let n := (← get).number
  let start (last : Option Nat) : Editing Unit :=
    modify fun editor => { editor with active := (i, last) :: editor.active }
  match finish with
  | .at (.line last) => if n < last then start (some last)
  | .after count => if 0 < count then start (some (n + count))
  | .multiple m => if m != 0 && n % m != 0 then start (some ((n + m - 1) / m * m))
  | .at .last => if !(← get).lines.isEmpty then start none
  | .at address =>
    match first, address with
    | .line 0, .found _ => if !(← names address) then start none
    | _, _ => start none

/-- Whether the line at hand is in a range that has begun. -/
def goOnRange (i : Nat) (finish : RangeEnd) (last : Option Nat) : Editing Bool := do
  let close : Editing Unit := modify fun editor =>
    { editor with active := editor.active.filter (·.1 != i) }
  let n := (← get).number
  match last, finish with
  | some last, _ =>
    if last ≤ n then close
    return n ≤ last
  | none, .at address =>
    if ← names address then close
    return true
  | none, _ => return true

/-- Whether an instruction is for the line at hand. -/
def isFor (i : Nat) (condition : Condition) : Editing Bool := do
  let named ←
    match condition.first, condition.finish with
    | none, _ => pure true
    | some first, none => names first
    | some first, some finish =>
      match (← get).active.lookup i with
      | some last => goOnRange i finish last
      | none =>
        let begins : Bool ←
          match first with
          | .line 0 => pure ((← get).number = 1)
          | first => names first
        if begins then beginRange i first finish
        pure begins
  return named != condition.negated

/-! ## Substitution -/

/-- How the letters that follow are changed. -/
structure CaseState where
  all : Option CaseMark
  next : Option CaseMark

def CaseState.apply (state : CaseState) (c : Char) : Char :=
  match state.next, state.all with
  | some .nextUpper, _ => c.toUpper
  | some .nextLower, _ => c.toLower
  | _, some .allUpper => c.toUpper
  | _, some .allLower => c.toLower
  | _, _ => c

/-- What is put in for a match. -/
def fill (found : Regex.Match) : CaseState → List Part → List Char
  | _, [] => []
  | state, part :: rest =>
    let put (cs : List Char) : List Char :=
      match cs with
      | [] => fill found state rest
      | c :: cs =>
        let after := { state with next := none }
        state.apply c :: cs.map after.apply ++ fill found after rest
    match part with
    | .literal c => put [c]
    | .group n => put (found.group n)
    | .case .allUpper => fill found ⟨some .allUpper, state.next⟩ rest
    | .case .allLower => fill found ⟨some .allLower, state.next⟩ rest
    | .case .unchanged => fill found ⟨none, none⟩ rest
    | .case mark => fill found { state with next := some mark } rest

/-- Replaces matches from a place on: the `skip`ped ones are kept. Returns the text and whether
something was replaced. `afterMatch` says whether a match ended here. `fuel` bounds the length. -/
def replaceFrom (r : Regex) (s : Substitution) :
    (fuel : Nat) → (skip : Nat) → (afterMatch : Bool) → Position → List Char × Bool
  | 0, _, _, place => (place.rest, false)
  | fuel + 1, skip, afterMatch, place =>
    match r.find? s.pattern.fold (fun start finish =>
        !(afterMatch && start == place && finish.rest.length = place.rest.length)) place with
    | none => (place.rest, false)
    | some found =>
      let before := place.upTo found.start
      let finish := { found.finish with groups := [] }
      let replaced := skip = 0
      let put := if replaced then fill found ⟨none, none⟩ s.parts else found.text
      if replaced && !s.all then (before ++ put ++ finish.rest, true)
      else
        let (after, more) := replaceFrom r s fuel (skip - 1) true finish
        (before ++ put ++ after, replaced || more)

def substitute (s : Substitution) : Editing Unit := do
  let r ← regexOf s.pattern
  let cs := (← get).space
  let (space, replaced) := replaceFrom r s (2 * cs.length + 2) (s.number - 1) false (.ofText cs)
  if replaced then
    modify fun editor => { editor with space := space, substituted := true }
    if s.printed then emitLine space
    if let some path := s.file then
      discard (Work.writeFile path (String.ofList space ++ "\n") true)

/-! ## Deeds -/

/-- A character as it is listed. -/
def listed (c : Char) : List Char :=
  match c with
  | '\\' => ['\\', '\\']
  | '\x07' => ['\\', 'a']
  | '\x08' => ['\\', 'b']
  | '\x0C' => ['\\', 'f']
  | '\n' => ['\\', 'n']
  | '\r' => ['\\', 'r']
  | '\t' => ['\\', 't']
  | '\x0B' => ['\\', 'v']
  | c =>
    if 32 ≤ c.toNat && c.toNat < 127 then [c]
    else
      let digits := Nat.toDigits 8 c.toNat
      '\\' :: List.replicate (3 - digits.length) '0' ++ digits

/-- Listed characters in lines. -/
def wrap (width : Nat) : (used : Nat) → List (List Char) → List Char
  | _, [] => ['$', '\n']
  | used, cs :: rest =>
    if width ≤ used + cs.length then ['\\', '\n'] ++ cs ++ wrap width cs.length rest
    else cs ++ wrap width (used + cs.length) rest

def setSpace (space : List Char) : Editing Unit :=
  modify fun editor => { editor with space := space }

/-- Keeps something of the line at hand. -/
def hold (held : List Char) : Editing Unit :=
  modify fun editor => { editor with held := held, heldEnds := editor.spaceEnds }

/-- Brings something back that was kept. -/
def bring (space : List Char) : Editing Unit :=
  modify fun editor => { editor with space := space, spaceEnds := editor.heldEnds }

/-- Does what an instruction asks for. Returns the place to go on from, or how the way ends. -/
def perform (i : Nat) (instruction : Instruction) : Editing (Except After Nat) := do
  let editor ← get
  let goOn (task : Editing Unit) : Editing (Except After Nat) := do
    task
    return .ok (i + 1)
  let space := editor.space
  let firstLine := space.takeWhile (· != '\n')
  match instruction.deed with
  | .nothing | .block _ => return .ok (i + 1)
  | .quit status printed => return .error (.quits status printed true)
  | .substitute s => goOn (substitute s)
  | .transliterate table => goOn (setSpace (space.map fun c => (table.lookup c).getD c))
  | .delete => return .error .deleted
  | .deleteFirst =>
    if space.contains '\n' then
      setSpace (space.drop (firstLine.length + 1))
      return .error .again
    else return .error .deleted
  | .print => goOn (emitLine space)
  | .printFirst => goOn (emit (String.ofList (firstLine ++ ['\n'])))
  | .next => do
    if editor.lines.isEmpty then return .error (.quits 0 true false)
    if !quiet then emitLine space
    flush
    setSpace ((← takeNext).getD [])
    return .ok (i + 1)
  | .appendNext => do
    if editor.lines.isEmpty then return .error (.quits 0 true false)
    flush
    setSpace (space ++ '\n' :: (← takeNext).getD [])
    return .ok (i + 1)
  | .hold => goOn (hold space)
  | .holdMore => goOn (hold (editor.held ++ '\n' :: space))
  | .get => goOn (bring editor.held)
  | .getMore => goOn (bring (space ++ '\n' :: editor.held))
  | .exchange => goOn (modify fun editor =>
      { editor with
        held := space, heldEnds := editor.spaceEnds, space := editor.held,
        spaceEnds := editor.heldEnds })
  | .append text => goOn (modify fun editor => { editor with queue := .text text :: editor.queue })
  | .insert text => goOn (emit text)
  | .change text => do
    if instruction.condition.negated || (editor.active.lookup i).isNone then emit text
    return .error .deleted
  | .branch target => return .ok target
  | .branchIf wanted target => do
    modify fun editor => { editor with substituted := false }
    return .ok (if editor.substituted = wanted then target else i + 1)
  | .lineNumber => goOn (emit (Nat.repr editor.number ++ "\n"))
  | .list => goOn (emit (String.ofList (wrap 70 0 (space.map listed))))
  | .readFile path => goOn (modify fun editor =>
      { editor with queue := .file path :: editor.queue })
  | .writeFile path => goOn (do
      discard (Work.writeFile path (String.ofList space ++ "\n") true))
  | .clear => goOn (setSpace [])
  | .fileName => goOn (emit "-\n")

/-- Goes through the script from an instruction on. `fuel` bounds the number of steps. -/
def walk : (fuel : Nat) → (i : Nat) → Editing After
  | 0, _ => return .finished
  | fuel + 1, i => do
    match script[i]? with
    | none => return .finished
    | some instruction =>
      let isFor ← isFor i instruction.condition
      match instruction.deed with
      | .block finish => walk fuel (if isFor then i + 1 else finish)
      | _ =>
        if isFor then
          match ← perform quiet i instruction with
          | .ok next => walk fuel next
          | .error after => return after
        else walk fuel (i + 1)

theorem ends_finish (fuel : Nat) :
    walk script quiet (fuel + 1) script.length = pure After.finished := by
  simp [walk]

/-- The steps that one line may take. -/
def maxSteps : Nat := 100000

/-- Goes through the script with one line after the other. `fuel` bounds their number; `fresh` says
whether a line is to be taken. Returns the status. -/
def cycles : (fuel : Nat) → (fresh : Bool) → Editing Nat
  | 0, _ => return 0
  | fuel + 1, fresh => do
    if fresh then
      match ← takeNext with
      | none => return 0
      | some space => modify fun editor => { editor with space := space, substituted := false }
    let finish (printed : Bool) : Editing Unit := do
      if printed && !quiet then emitLine (← get).space
      flush
    match ← walk script quiet maxSteps 0 with
    | .finished =>
      finish true
      cycles fuel true
    | .deleted =>
      finish false
      cycles fuel true
    | .again =>
      finish false
      cycles fuel false
    | .quits status printed closes =>
      finish printed
      if closes then emit ""
      return status

end

/-! ## The program -/

def sedOptions : OptionTable :=
  { flags := "nErsuzb", valued := "efl",
    long := [("quiet", 'n'), ("silent", 'n'), ("regexp-extended", 'E'), ("expression", 'e'),
      ("file", 'f'), ("separate", 's')], mixed := true }

/-- The files that a script writes, which are emptied first. -/
def writtenFiles (script : List Instruction) : List String :=
  script.filterMap fun instruction =>
    match instruction.deed with
    | .writeFile path => some path
    | .substitute s => s.file
    | _ => none

/-- Edits a text. Returns the status. -/
def edit (script : List Instruction) (quiet : Bool) (text : String) : Work Nat := do
  let (lines, complete) := splitLines text
  let lines := if complete || lines != [""] then lines else []
  let editor : Editor :=
    { lines := lines, complete := complete, number := 0, space := [], spaceEnds := true,
      held := [], heldEnds := true, queue := [], substituted := false, lastRegex := none,
      active := [], open? := false }
  let (status, _) ← (cycles script quiet (2 * text.length + 2) true).run editor
  return status

/-- A text that ends its last line. -/
def closed (text : String) : String :=
  if text.isEmpty || text.endsWith "\n" then text else text ++ "\n"

/-- Edits a file in its place. -/
def editInPlace (script : List Instruction) (quiet : Bool) (ending path : String) : Work Bool := do
  match ← Work.readFile path with
  | .error cause =>
    Work.complain s!"can't read {path}: {cause.plainMessage}"
    return false
  | .ok text =>
    let (number, system) := (← getThe System).openStream (.pipe "")
    set system
    discard <| withReader (fun process =>
      { process with descriptors := (1, number) :: process.descriptors.filter (·.1 != 1) })
      (edit script quiet text)
    let (result, system) := (← getThe System).readAll number
    set system
    if ending != "" then discard (Work.writeFile (path ++ ending) text false)
    discard (Work.writeFile path result false)
    return true

/-- The ending for kept files if files are edited in their place, and the other arguments. -/
def takeInPlace (args : List String) : Option String × List String :=
  let isInPlace (arg : String) : Bool :=
    arg.startsWith "--in-place" || (arg.startsWith "-" && !arg.startsWith "--" &&
      (arg.toList.takeWhile (· != 'i')).all "-nErsuz".toList.contains &&
      arg.toList.contains 'i')
  match args.find? isInPlace with
  | none => (none, args)
  | some arg =>
    let others := args.filter (· != arg)
    if arg.startsWith "--" then
      (some (((Text.splitFirst "=" arg).map Prod.snd).getD ""), others)
    else
      let lead := arg.toList.takeWhile (· != 'i')
      let ending := String.ofList (arg.toList.drop (lead.length + 1))
      (some ending, if lead.length ≤ 1 then others else String.ofList lead :: others)

/-- The text of the script and the operands that are left. -/
def scriptOf (options : Options) : Work (Except String (String × List String)) := do
  let mut parts := #[]
  for (letter, value) in options.given do
    if letter == 'e' then parts := parts.push value
    else if letter == 'f' then
      match ← Work.readOperand value with
      | .ok text =>
        parts := parts.push (if text.endsWith "\n" then (text.dropEnd 1).toString else text)
      | .error cause => return .error s!"couldn't open file {value}: {cause.plainMessage}"
  if parts.isEmpty then
    match options.operands with
    | [] =>
      return .error
        "Usage: sed [OPTION]... \x7bscript-only-if-no-other-script\x7d [input-file]..."
    | text :: rest => return .ok (text, rest)
  return .ok ("\n".intercalate parts.toList, options.operands)

end RaidProvision.Sed

namespace RaidProvision.Utility

/-- Edits lines with a script. -/
def sed : Utility := fun args =>
  let (inPlace, args) := Sed.takeInPlace args
  withOptions Sed.sedOptions 1 (fun options => do
    match ← Sed.scriptOf options with
    | .error fault => Work.fail 1 fault
    | .ok (text, paths) =>
      let dialect := if options.has 'E' || options.has 'r' then .extended else .basic
      match Sed.ofText dialect text with
      | .error fault => Work.fail fault.status s!"-e expression #1: {fault.message}"
      | .ok script =>
        let quiet := options.has 'n' || text.startsWith "#n\n"
        for path in Sed.writtenFiles script do
          if path != "/dev/stdout" && path != "/dev/stderr" then
            discard (Work.writeFile path "" false)
        match inPlace with
        | some ending =>
          let worked ← paths.mapM (Sed.editInPlace script quiet ending)
          return if worked.all fun worked => worked then 0 else 4
        | none =>
          let mut texts := #[]
          let mut complete := true
          for path in if paths.isEmpty then ["-"] else paths do
            match ← Work.readOperand path with
            | .ok text => texts := texts.push text
            | .error cause =>
              Work.complain s!"can't read {path}: {cause.plainMessage}"
              complete := false
          if options.has 's' then
            texts.forM fun text => discard (Sed.edit script quiet text)
            return if complete then 0 else 2
          let joined := (texts.toList.dropLast.map Sed.closed) ++ texts.toList.drop (texts.size - 1)
          let status ← Sed.edit script quiet (String.join joined)
          return if status != 0 then status else if complete then 0 else 2) args

end RaidProvision.Utility

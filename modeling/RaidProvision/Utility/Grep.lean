import RaidProvision.Regex.Reader
import RaidProvision.System.Work
import RaidProvision.Utility.Options
import RaidProvision.Utility.Passing

/-!
# Searching lines

`grep` prints the lines of its input in which one of some patterns is found, or those in which none
is, with what is asked for around them.

* `marked_nil`: an input without lines has none to print.
-/
namespace RaidProvision.Utility

/-- How patterns are written: as expressions or as they are. -/
inductive PatternStyle where
  | regular (dialect : Regex.Dialect)
  | fixed
  deriving DecidableEq, Repr

/-- An expression for a text as it is. -/
def fixedRegex (s : String) : Regex :=
  s.toList.foldr (fun c r => (Regex.literal c).andThen r) .empty

def patternRegex (style : PatternStyle) (s : String) : Except Regex.RegexFault Regex :=
  match style with
  | .fixed => .ok (fixedRegex s)
  | .regular dialect => Regex.ofText dialect s

/-- An expression for what one of some expressions takes up. -/
def anyRegex : List Regex → Option Regex
  | [] => none
  | r :: rest =>
    match anyRegex rest with
    | none => some r
    | some other => some (.either r other)

/-- What is looked for. -/
structure Search where
  /-- What lines are searched for; no pattern is found nowhere. -/
  regex : Option Regex
  fold : Bool
  wholeLine : Bool
  wholeWord : Bool
  inverted : Bool

namespace Search

/-- Whether a way to match will do. -/
def accepts (search : Search) (start finish : Position) : Bool :=
  (!search.wholeLine || (start.previous.isNone && finish.rest.isEmpty)) &&
    (!search.wholeWord || (!start.wordBefore && !finish.wordAfter))

def find? (search : Search) (place : Position) : Option Regex.Match :=
  search.regex.bind fun r => r.find? search.fold search.accepts place

/-- Whether a line is chosen. -/
def chooses (search : Search) (line : String) : Bool :=
  (search.find? (.ofText line.toList)).isSome != search.inverted

/-- The parts of a line that are found, other than empty ones. `fuel` bounds their number. -/
def parts (search : Search) : (fuel : Nat) → Position → List String
  | 0, _ => []
  | fuel + 1, place =>
    match search.find? place with
    | none => []
    | some found =>
      if found.text.isEmpty then
        if found.finish.rest.isEmpty then [] else search.parts fuel (found.finish.advance 1)
      else String.ofList found.text :: search.parts fuel { found.finish with groups := [] }

end Search

/-- How a line that is printed is marked. -/
inductive LineMark where
  | chosen
  | context
  /-- Lines before it are left out. -/
  | gap
  deriving DecidableEq, Repr

/-- Marks the lines to be printed: chosen ones and some before and after them. `since` counts the
lines since the last chosen one, if there was one, and `skipped` says whether one was left out. -/
def marked (before after : Nat) : (since : Option Nat) → (skipped : Bool) →
    List (Nat × String × Bool) → List (LineMark × Nat × String)
  | _, _, [] => []
  | since, skipped, (n, line, isChosen) :: rest =>
    let near := (rest.take before).any fun (_, _, isChosen) => isChosen
    let close := since.any (· < after)
    let lead := if skipped && 0 < before + after then [(LineMark.gap, 0, "")] else []
    if isChosen then
      lead ++ (LineMark.chosen, n, line) :: marked before after (some 0) false rest
    else if close then
      (LineMark.context, n, line) :: marked before after (since.map (· + 1)) false rest
    else if near then
      lead ++ (LineMark.context, n, line) :: marked before after none false rest
    else marked before after none (skipped || since.isSome) rest

theorem marked_nil (before after : Nat) (since : Option Nat) (skipped : Bool) :
    marked before after since skipped [] = [] := by
  simp [marked]

/-- What is printed about lines. -/
structure GrepOutput where
  count : Bool
  names : Bool
  otherNames : Bool
  numbered : Bool
  onlyParts : Bool
  quiet : Bool
  named : Bool
  asText : Bool
  limit : Option Nat
  before : Nat
  after : Nat

/-- The lines up to the last one that a limit allows, with those chosen. -/
def limited : Option Nat → List (Nat × String × Bool) → List (Nat × String × Bool)
  | none, lines => lines
  | some 0, lines => lines.map fun (n, line, _) => (n, line, false)
  | some _, [] => []
  | some (n + 1), (number, line, isChosen) :: rest =>
    (number, line, isChosen) :: limited (some (if isChosen then n else n + 1)) rest

/-- Whether a file is not shown because it is no text. -/
def GrepOutput.refused (output : GrepOutput) (text : String) : Bool :=
  !output.asText && text.toList.contains '\x00'

/-- What is printed for a file, and whether a line of it is chosen. -/
def GrepOutput.show (output : GrepOutput) (search : Search) (name text : String) : String × Bool :=
  let lines := (linesWithEnds text).map fun line =>
    if line.endsWith "\n" then (line.dropEnd 1).toString else line
  let chosen := limited output.limit
    (lines.zipIdx.map fun (line, i) => (i + 1, line, search.chooses line))
  let number := (chosen.filter fun (_, _, isChosen) => isChosen).length
  let lead (mark : String) (n : Nat) : String :=
    (if output.named then name ++ mark else "") ++
      (if output.numbered then Nat.repr n ++ mark else "")
  let printed :=
    if output.quiet then ""
    else if output.names then (if 0 < number then name ++ "\n" else "")
    else if output.otherNames then (if number = 0 then name ++ "\n" else "")
    else if output.count then (if output.named then name ++ ":" else "") ++ Nat.repr number ++ "\n"
    else if output.refused text then ""
    else
      String.join ((marked output.before output.after none false chosen).map fun (mark, n, line) =>
        match mark with
        | .gap => "--\n"
        | .context => if output.onlyParts then "" else lead "-" n ++ line ++ "\n"
        | .chosen =>
          if output.onlyParts then
            if search.inverted then ""
            else
              String.join ((search.parts (line.length + 1) (.ofText line.toList)).map fun part =>
                lead ":" n ++ part ++ "\n")
          else lead ":" n ++ line ++ "\n")
  (printed, 0 < number)

def grepOptions : OptionTable :=
  { flags := "iyvclLnoqshHEFGwxarRbUzP", valued := "efmABC",
    long := [("ignore-case", 'i'), ("invert-match", 'v'), ("count", 'c'),
      ("files-with-matches", 'l'), ("files-without-match", 'L'), ("line-number", 'n'),
      ("only-matching", 'o'), ("quiet", 'q'), ("silent", 'q'), ("no-messages", 's'),
      ("no-filename", 'h'), ("with-filename", 'H'), ("extended-regexp", 'E'),
      ("fixed-strings", 'F'), ("basic-regexp", 'G'), ("word-regexp", 'w'), ("line-regexp", 'x'),
      ("regexp", 'e'), ("file", 'f'), ("max-count", 'm'), ("after-context", 'A'),
      ("before-context", 'B'), ("context", 'C'), ("text", 'a'), ("recursive", 'r'),
      ("color", 'U'), ("colour", 'U')],
    mixed := true }

/-- The style that options ask for, the last one counting. -/
def styleOf (standard : PatternStyle) (options : Options) : PatternStyle :=
  match (options.given.reverse.map Prod.fst).find? "EFGP".toList.contains with
  | some 'F' => .fixed
  | some 'G' => .regular .basic
  | some _ => .regular .extended
  | none => standard

/-- A number of lines around a chosen one. -/
def contextOf (options : Options) (letter : Char) : Nat :=
  ((options.value? letter <|> options.value? 'C').bind String.toNat?).getD 0

/-- A number behind a dash as lines around. -/
def contextOption (arg : String) : String :=
  match arg.toList with
  | '-' :: cs => if !cs.isEmpty && cs.all Char.isDigit then "-C" ++ String.ofList cs else arg
  | _ => arg

/-- The files below a directory, or a file itself. The empty path is the directory at hand. -/
def filesBelow (files : FileTree) (base : Way) (path : String) : List String :=
  match files.find base (if path.isEmpty then "." else path) with
  | .ok (way, .directory) =>
    let lead := if path.isEmpty || path.endsWith "/" then path else path ++ "/"
    let ways := ((files.below way).filter fun (_, entry) => entry != .directory).map Prod.fst
    (ways.map fun way => lead ++ "/".intercalate way).mergeSort fun a b => !decide (b < a)
  | _ => [path]

/-- The patterns that are looked for, and the operands that are left. -/
def patternsOf (options : Options) : Work (Except String (List String × List String)) := do
  let given := options.values 'e'
  let files := options.values 'f'
  if given.isEmpty && files.isEmpty then
    match options.operands with
    | [] => return .error "Usage: grep [OPTION]... PATTERNS [FILE]..."
    | pattern :: rest => return .ok (Text.pieces '\n' pattern, rest)
  let mut patterns := given.flatMap (Text.pieces '\n')
  for path in files do
    match ← Work.readOperand path with
    | .ok text => patterns := patterns ++ (splitLines text).1
    | .error cause => return .error s!"{path}: {cause.plainMessage}"
  return .ok (patterns, options.operands)

/-- Searches files. -/
def grepFiles (options : Options) (search : Search) (paths : List String) : Work Nat := do
  let recursive := options.has 'r' || options.has 'R'
  let files ← Work.files
  let base := (← read).directory
  let given := if paths.isEmpty then [if recursive then "" else "-"] else paths
  let paths := if recursive then given.flatMap (filesBelow files base) else given
  let output : GrepOutput :=
    { count := options.has 'c', names := options.has 'l', otherNames := options.has 'L',
      numbered := options.has 'n', onlyParts := options.has 'o', quiet := options.has 'q',
      named := (1 < given.length || recursive || options.has 'H') && !options.has 'h',
      asText := options.has 'a',
      limit := (options.value? 'm').bind String.toNat?,
      before := contextOf options 'B', after := contextOf options 'A' }
  let mut found := false
  let mut failed := false
  for path in paths do
    match ← Work.readOperand path with
    | .error cause =>
      if !options.has 's' then Work.complainOf path cause
      failed := true
    | .ok text =>
      let name := if path = "-" then "(standard input)" else path
      let (printed, any) := output.show search name text
      Work.print printed
      found := found || (if output.otherNames then !any else any)
  if failed && !(found && output.quiet) then return 2
  return if found then 0 else 1

/-- Prints the lines in which a pattern is found. -/
def grep (standard : PatternStyle) : Utility := fun args =>
  withOptions grepOptions 2 (fun options => do
    match ← patternsOf options with
    | .error fault => Work.fail 2 fault
    | .ok (patterns, paths) =>
      match patterns.mapM (patternRegex (styleOf standard options)) with
      | .error fault => Work.fail 2 fault.message
      | .ok regexes =>
        let search : Search :=
          { regex := anyRegex regexes, fold := options.has 'i' || options.has 'y',
            wholeLine := options.has 'x', wholeWord := options.has 'w',
            inverted := options.has 'v' }
        grepFiles options search paths) (args.map contextOption)

end RaidProvision.Utility

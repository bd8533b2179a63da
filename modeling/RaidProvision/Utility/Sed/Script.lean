import RaidProvision.Regex.Reader
import RaidProvision.Utility.Escape

/-!
# Scripts of the stream editor

A script is instructions, each of which names the lines that it is for and what is done with them.
Blocks and labels are places in the list of instructions.

* `Instruction.always_condition`: an instruction without address is for every line.
-/
namespace RaidProvision.Sed

/-- An expression, where an empty one stands for the last one used. -/
structure Pattern where
  regex : Option Regex
  fold : Bool
  deriving Repr

/-- A line that is named. -/
inductive Address where
  | line (n : Nat)
  | last
  | found (pattern : Pattern)
  /-- Every so many lines from one on. -/
  | step (first every : Nat)
  deriving Repr

/-- The end of a range of lines. -/
inductive RangeEnd where
  | at (address : Address)
  /-- So many lines after the first one. -/
  | after (count : Nat)
  /-- The next line whose number is a multiple. -/
  | multiple (of : Nat)
  deriving Repr

/-- The lines that an instruction is for. -/
structure Condition where
  first : Option Address
  finish : Option RangeEnd
  negated : Bool
  deriving Repr

def Condition.always : Condition := ⟨none, none, false⟩

/-- How letters are changed in what is put in. -/
inductive CaseMark where
  | allUpper
  | allLower
  | nextUpper
  | nextLower
  | unchanged
  deriving DecidableEq, Repr

/-- A part of what is put in for a match. -/
inductive Part where
  | literal (c : Char)
  | group (number : Nat)
  | case (mark : CaseMark)
  deriving DecidableEq, Repr

/-- A substitution. -/
structure Substitution where
  pattern : Pattern
  parts : List Part
  /-- The first match that is replaced. -/
  number : Nat
  all : Bool
  printed : Bool
  file : Option String
  deriving Repr

/-- What is done with a line. The numbers of instructions are places to go on from. -/
inductive Deed where
  | nothing
  /-- Goes on behind the block if the line is not one of those that are named. -/
  | block (finish : Nat)
  | quit (status : Nat) (printed : Bool)
  | substitute (substitution : Substitution)
  | transliterate (table : List (Char × Char))
  | delete
  | deleteFirst
  | print
  | printFirst
  | next
  | appendNext
  | hold
  | holdMore
  | get
  | getMore
  | exchange
  | append (text : String)
  | insert (text : String)
  | change (text : String)
  | branch (target : Nat)
  | branchIf (substituted : Bool) (target : Nat)
  | lineNumber
  | list
  | readFile (path : String)
  | writeFile (path : String)
  | clear
  | fileName
  deriving Repr

structure Instruction where
  condition : Condition
  deed : Deed
  deriving Repr

theorem Instruction.always_condition (deed : Deed) :
    (Instruction.mk Condition.always deed).condition.first.isNone := rfl

/-- Why a script cannot be read. -/
inductive SedFault where
  | unterminated (command : Char)
  | unknown (command : Char)
  | missingCommand
  | extraCharacters
  | unmatchedOpening
  | unmatchedClosing
  | missingLabel (label : String)
  | expectedText
  | unequalLengths
  | invalidReference (number : Nat)
  | noExpression
  | badPattern (cause : Regex.RegexFault)
  deriving Repr

def SedFault.message : SedFault → String
  | unterminated command => s!"unterminated '{command}' command"
  | unknown command => s!"unknown command: '{command}'"
  | missingCommand => "missing command"
  | extraCharacters => "extra characters after command"
  | unmatchedOpening => "unmatched '\x7b'"
  | unmatchedClosing => "unexpected '\x7d'"
  | missingLabel label => s!"can't find label for jump to '{label}'"
  | expectedText => "expected \\ after 'a', 'c' or 'i'"
  | unequalLengths => "strings for 'y' command are different lengths"
  | invalidReference number => s!"invalid reference \\{number} on 's' command's RHS"
  | noExpression => "no previous regular expression"
  | badPattern cause => cause.message

/-- The status that a fault ends the editor with. -/
def SedFault.status : SedFault → Nat
  | missingLabel _ => 4
  | _ => 1

/-- What is left of a script and what was read: instructions, the latest first, with labels for
those that branch, the blocks that are open, and the places of labels. -/
structure Cursor where
  rest : List Char
  done : List (Instruction × Option String)
  opened : List Nat
  labels : List (String × Nat)

abbrev SedReader (α : Type) := StateT Cursor (Except SedFault) α

section

variable (dialect : Regex.Dialect)

def rest : SedReader (List Char) := return (← get).rest

def setRest (rest : List Char) : SedReader Unit := modify fun cursor => { cursor with rest := rest }

def isBlank (c : Char) : Bool := c == ' ' || c == '\t'

def skipBlanks : SedReader Unit := do setRest ((← rest).dropWhile isBlank)

/-- Takes digits as a number, if there are some. -/
def takeNumber : SedReader (Option Nat) := do
  let cs ← rest
  let digits := cs.takeWhile Char.isDigit
  setRest (cs.drop digits.length)
  return if digits.isEmpty then none else some (Nat.ofDigitChars 10 digits 0)

/-- Takes the characters up to a delimiter, which may stand in them behind a backslash. An escaped
newline becomes one if `plain` is set. -/
def splitAt (delimiter : Char) (plain : Bool) : List Char → Option (List Char × List Char)
  | [] => none
  | '\\' :: c :: cs =>
    let kept :=
      if c == delimiter then (if plain && delimiter != '&' then [c] else ['\\', c])
      else ['\\', c]
    (splitAt delimiter plain cs).map fun (inside, cs) => (kept ++ inside, cs)
  | c :: cs =>
    if c == delimiter then some ([], cs)
    else (splitAt delimiter plain cs).map fun (inside, cs) => (c :: inside, cs)

/-- The control character that a letter behind a backslash stands for. -/
def controlOf? : Char → Option Char
  | 'n' => some '\n'
  | 't' => some '\t'
  | 'f' => some '\x0C'
  | 'v' => some '\x0B'
  | 'a' => some '\x07'
  | 'r' => some '\r'
  | _ => none

/-- Replaces escapes of control characters in an expression. -/
def expandControls : List Char → List Char
  | '\\' :: c :: cs =>
    match controlOf? c with
    | some control => control :: expandControls cs
    | none => '\\' :: c :: expandControls cs
  | c :: cs => c :: expandControls cs
  | [] => []

def patternOf (cs : List Char) (fold : Bool) : SedReader Pattern := do
  if cs.isEmpty then return ⟨none, fold⟩
  match Regex.ofText dialect (String.ofList (expandControls cs)) with
  | .ok r => return ⟨some r, fold⟩
  | .error cause => throw (.badPattern cause)

/-! ## Addresses -/

/-- Takes letters behind an expression. -/
def takeFlags (flags : String) : SedReader (List Char) := do
  let cs ← rest
  let taken := cs.takeWhile flags.toList.contains
  setRest (cs.drop taken.length)
  return taken

/-- Reads the rest of an address that is an expression. -/
def readFound (delimiter : Char) (cs : List Char) : SedReader Address := do
  match splitAt delimiter true cs with
  | none => throw (.unterminated delimiter)
  | some (inside, cs) =>
    setRest cs
    let flags ← takeFlags "IM"
    return .found (← patternOf dialect inside (flags.contains 'I'))

/-- Reads an address, if one is next. -/
def readAddress : SedReader (Option Address) := do
  match ← rest with
  | '$' :: cs =>
    setRest cs
    return some .last
  | '/' :: cs => some <$> readFound dialect '/' cs
  | '\\' :: delimiter :: cs => some <$> readFound dialect delimiter cs
  | _ =>
    match ← takeNumber with
    | none => return none
    | some n =>
      match ← rest with
      | '~' :: cs =>
        setRest cs
        return some (.step n ((← takeNumber).getD 0))
      | _ => return some (.line n)

/-- Reads the end of a range. -/
def readEnd : SedReader RangeEnd := do
  skipBlanks
  match ← rest with
  | '+' :: cs =>
    setRest cs
    return .after ((← takeNumber).getD 0)
  | '~' :: cs =>
    setRest cs
    return .multiple ((← takeNumber).getD 0)
  | _ =>
    match ← readAddress dialect with
    | some address => return .at address
    | none => throw .missingCommand

/-- Reads which lines an instruction is for. -/
def readCondition : SedReader Condition := do
  let first ← readAddress dialect
  skipBlanks
  let finish ←
    match first, ← rest with
    | some _, ',' :: cs => do
      setRest cs
      some <$> readEnd dialect
    | _, _ => pure none
  skipBlanks
  let cs ← rest
  let negated := cs.head? = some '!'
  setRest (cs.dropWhile fun c => c == '!' || (negated && isBlank c))
  return ⟨first, finish, negated⟩

/-! ## Commands -/

/-- Reads what is put in for a match. -/
def readParts : List Char → List Part
  | '\\' :: c :: cs =>
    let part : Part :=
      match c with
      | 'U' => .case .allUpper
      | 'L' => .case .allLower
      | 'u' => .case .nextUpper
      | 'l' => .case .nextLower
      | 'E' => .case .unchanged
      | c =>
        if c.isDigit then .group (c.toNat - '0'.toNat) else .literal ((controlOf? c).getD c)
    part :: readParts cs
  | '&' :: cs => .group 0 :: readParts cs
  | c :: cs => .literal c :: readParts cs
  | [] => []

/-- Takes what is left of a line. -/
def takeLine : SedReader String := do
  let cs ← rest
  let line := cs.takeWhile (· != '\n')
  setRest (cs.drop line.length)
  return String.ofList line

/-- A group that is put in but that the expression does not have. -/
def unknownGroup? (pattern : Pattern) (parts : List Part) : Option Nat :=
  pattern.regex.bind fun r => parts.findSome? fun
    | .group n => if r.groupCount < n then some n else none
    | _ => none

def readSubstitution : SedReader Deed := do
  match ← rest with
  | [] => throw (.unterminated 's')
  | delimiter :: cs =>
    match splitAt delimiter true cs with
    | none => throw (.unterminated 's')
    | some (pattern, cs) =>
      match splitAt delimiter true cs with
      | none => throw (.unterminated 's')
      | some (parts, cs) =>
        setRest cs
        let before ← takeFlags "gpIiMme"
        let number ← takeNumber
        let flags := before ++ (← takeFlags "gpIiMme")
        let file ←
          match ← rest with
          | 'w' :: cs => do
            setRest (cs.dropWhile isBlank)
            some <$> takeLine
          | _ => pure none
        let pattern ← patternOf dialect pattern (flags.contains 'I' || flags.contains 'i')
        let parts := readParts parts
        if let some number := unknownGroup? pattern parts then throw (.invalidReference number)
        return .substitute
          { pattern := pattern, parts := parts,
            number := number.getD 1, all := flags.contains 'g', printed := flags.contains 'p',
            file := file }

/-- The characters of a table, without backslashes. -/
def tableChars : List Char → List Char
  | '\\' :: c :: cs =>
    match c with
    | '\\' => '\\' :: tableChars cs
    | c =>
      match controlOf? c with
      | some control => control :: tableChars cs
      | none => '\\' :: c :: tableChars cs
  | c :: cs => c :: tableChars cs
  | [] => []

def readTable : SedReader Deed := do
  match ← rest with
  | [] => throw (.unterminated 'y')
  | delimiter :: cs =>
    match splitAt delimiter true cs with
    | none => throw (.unterminated 'y')
    | some (first, cs) =>
      match splitAt delimiter true cs with
      | none => throw (.unterminated 'y')
      | some (second, cs) =>
        setRest cs
        let (a, b) := (tableChars first, tableChars second)
        if a.length != b.length then throw .unequalLengths
        return .transliterate (a.zip b)

/-- Takes a text up to the end of its line, which a backslash joins with the next one. -/
def splitText : List Char → List Char × List Char
  | [] => ([], [])
  | '\n' :: cs => ([], cs)
  | '\\' :: c :: cs =>
    let (text, cs) := splitText cs
    (c :: text, cs)
  | c :: cs =>
    let (text, cs) := splitText cs
    (c :: text, cs)

/-- Reads the text of an instruction. -/
def readText : SedReader String := do
  skipBlanks
  let cs ← rest
  let cs :=
    match cs with
    | '\\' :: '\n' :: cs => cs
    | '\\' :: cs =>
      match cs.dropWhile isBlank with
      | '\n' :: after => after
      | _ => cs
    | cs => cs
  if (← rest).isEmpty then throw .expectedText
  let (text, cs) := splitText cs
  setRest ('\n' :: cs)
  return String.ofList (text ++ ['\n'])

/-- Takes a label. -/
def takeLabel : SedReader String := do
  skipBlanks
  let cs ← rest
  let label := cs.takeWhile fun c => !isBlank c && c != '\n' && c != ';'
  setRest (cs.drop label.length)
  return String.ofList label

/-- Adds an instruction. -/
def add (condition : Condition) (deed : Deed) (label : Option String) : SedReader Unit :=
  modify fun cursor => { cursor with done := (⟨condition, deed⟩, label) :: cursor.done }

/-- What a command without more to it does. -/
def simpleDeed? : Char → Option Deed
  | 'd' => some .delete
  | 'D' => some .deleteFirst
  | 'p' => some .print
  | 'P' => some .printFirst
  | 'n' => some .next
  | 'N' => some .appendNext
  | 'h' => some .hold
  | 'H' => some .holdMore
  | 'g' => some .get
  | 'G' => some .getMore
  | 'x' => some .exchange
  | '=' => some .lineNumber
  | 'l' => some .list
  | 'z' => some .clear
  | 'F' => some .fileName
  | _ => none

/-- Reads the end of a command. -/
def readFinish : SedReader Unit := do
  skipBlanks
  match ← rest with
  | [] | '}' :: _ | '#' :: _ => return ()
  | ';' :: cs | '\n' :: cs => setRest cs
  | _ => throw .extraCharacters

/-- Reads what a command does, after its letter. -/
def readDeed (condition : Condition) (command : Char) : SedReader Unit := do
  match command with
  | '{' =>
    modify fun cursor => { cursor with opened := cursor.done.length :: cursor.opened }
    add condition (.block 0) none
  | '}' =>
    match (← get).opened with
    | [] => throw .unmatchedClosing
    | place :: others =>
      modify fun cursor =>
        let finish := cursor.done.length
        let done := cursor.done.modify (finish - 1 - place) fun (instruction, label) =>
          ({ instruction with deed := .block finish }, label)
        { cursor with done := done, opened := others }
      readFinish
  | 's' => do
    add condition (← readSubstitution dialect) none
    readFinish
  | 'y' => do
    add condition (← readTable) none
    readFinish
  | 'a' => do add condition (.append (← readText)) none
  | 'i' => do add condition (.insert (← readText)) none
  | 'c' => do add condition (.change (← readText)) none
  | ':' => do
    let label ← takeLabel
    modify fun cursor => { cursor with labels := (label, cursor.done.length) :: cursor.labels }
    readFinish
  | 'b' => do
    add condition (.branch 0) (some (← takeLabel))
    readFinish
  | 't' => do
    add condition (.branchIf true 0) (some (← takeLabel))
    readFinish
  | 'T' => do
    add condition (.branchIf false 0) (some (← takeLabel))
    readFinish
  | 'r' => do
    skipBlanks
    add condition (.readFile (← takeLine)) none
  | 'w' => do
    skipBlanks
    add condition (.writeFile (← takeLine)) none
  | 'q' | 'Q' => do
    skipBlanks
    add condition (.quit ((← takeNumber).getD 0) (command == 'q')) none
    readFinish
  | command =>
    match simpleDeed? command with
    | some deed => do
      if command == 'l' then
        skipBlanks
        discard takeNumber
      add condition deed none
      readFinish
    | none => throw (.unknown command)

/-- Reads a script. `fuel` bounds its length. -/
def readAll : (fuel : Nat) → SedReader Unit
  | 0 => return ()
  | fuel + 1 => do
    setRest ((← rest).dropWhile fun c => isBlank c || c == '\n' || c == ';')
    match ← rest with
    | [] => return ()
    | '#' :: cs =>
      setRest (cs.dropWhile (· != '\n'))
      readAll fuel
    | _ =>
      let condition ← readCondition dialect
      skipBlanks
      match ← rest with
      | [] => throw .missingCommand
      | command :: cs =>
        setRest cs
        readDeed dialect condition command
        readAll fuel

end

/-- Puts the place of a label into an instruction. -/
def resolve (labels : List (String × Nat)) (finish : Nat) (entry : Instruction × Option String) :
    Except SedFault Instruction := do
  let (instruction, label?) := entry
  match label? with
  | none => return instruction
  | some label =>
    let target ←
      if label.isEmpty then pure finish
      else
        match labels.lookup label with
        | some place => pure place
        | none => throw (.missingLabel label)
    match instruction.deed with
    | .branch _ => return { instruction with deed := .branch target }
    | .branchIf substituted _ => return { instruction with deed := .branchIf substituted target }
    | _ => return instruction

/-- The expressions of an instruction. -/
def Instruction.patterns (instruction : Instruction) : List Pattern :=
  let ofAddress : Address → List Pattern
    | .found pattern => [pattern]
    | _ => []
  let finish : List Pattern :=
    match instruction.condition.finish with
    | some (.at address) => ofAddress address
    | _ => []
  let deed : List Pattern :=
    match instruction.deed with
    | .substitute s => [s.pattern]
    | _ => []
  (instruction.condition.first.elim [] ofAddress) ++ finish ++ deed

/-- Reads a script. -/
def ofText (dialect : Regex.Dialect) (s : String) : Except SedFault (List Instruction) := do
  let ((), cursor) ← (readAll dialect (s.length + 1)).run ⟨s.toList, [], [], []⟩
  if !cursor.opened.isEmpty then throw .unmatchedOpening
  let patterns := cursor.done.flatMap fun (instruction, _) => instruction.patterns
  if !patterns.isEmpty && patterns.all fun pattern => pattern.regex.isNone then
    throw .noExpression
  cursor.done.reverse.mapM (resolve cursor.labels cursor.done.length)

end RaidProvision.Sed

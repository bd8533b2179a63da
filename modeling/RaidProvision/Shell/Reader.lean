import RaidProvision.Shell.Words

/-!
# Reading scripts

A script is read line by line, where statements may go on over several lines. Readers of statements
and of pieces need one another for what stands inside something else; each level inside takes one
from a bound on their depth, which the length of the script gives.

* `readLine_empty`: nothing is read from an empty script.
-/
namespace RaidProvision.Shell

open Reading

section

variable (pieces : Context → Reading Word) (statements command : Reading Statement)

/-- Reads a word, if one is next. -/
def readWord : Reading (Option Word) := do
  skipBlanks
  if endsPieces .bare 0 (← rest) then return none
  return some (← pieces .bare)

/-- Passes over a word of the language, if it is next. -/
def acceptKeyword (keyword : String) : Reading Bool := do
  if (← nextBare) = keyword then
    skip keyword.length
    return true
  else return false

def expectKeyword (keyword : String) : Reading Unit := do
  if !(← acceptKeyword keyword) then refuse (some (inQuotes keyword))

/-- Takes the lines of a document up to the one that ends it. -/
def takeDocument (mark : List Char) (stripTabs : Bool) :
    (fuel : Nat) → List Char → List Char × List Char
  | 0, cs => ([], cs)
  | _, [] => ([], [])
  | fuel + 1, cs =>
    let whole := cs.takeWhile (· != '\n')
    let line := if stripTabs then whole.dropWhile (· == '\t') else whole
    let rest := cs.drop (whole.length + 1)
    if line == mark then ([], rest)
    else if whole.length = cs.length then (line, [])
    else
      let (body, rest) := takeDocument mark stripTabs fuel rest
      (line ++ '\n' :: body, rest)

/-- The characters of a word as they stand, and whether some of them are quoted. -/
def Word.mark (word : Word) : List Char × Bool :=
  word.foldr (fun piece (cs, isQuoted) =>
    match piece with
    | .plain s => (s.toList ++ cs, isQuoted)
    | .quoted s => (s.toList ++ cs, true)
    | .double inside =>
      let text := inside.flatMap fun | .quoted s => s.toList | _ => []
      (text ++ cs, true)
    | _ => (cs, isQuoted)) ([], false)

/-- Reads a document that begins behind the line that is being read. -/
def readDocument (stripTabs : Bool) : Reading Word := do
  match ← readWord pieces with
  | none => refuse none
  | some word =>
    let (mark, isQuoted) := word.mark
    let cs ← rest
    let line := cs.takeWhile (· != '\n')
    let after := cs.drop (line.length + 1)
    let (body, after) := takeDocument mark stripTabs (after.length + 1) after
    setRest (line ++ '\n' :: after)
    if isQuoted then return [.quoted (String.ofList body)]
    else
      match (pieces .document).run { (← get) with rest := body } with
      | .error fault => throw fault
      | .ok (word, _) => return word

/-- The signs that do something with a descriptor, the longer ones first. -/
def transferSigns : List (String × Nat × Transfer) :=
  [("<&", 0, .copy), ("<>", 0, .update), ("<", 0, .read), (">>", 1, .append), (">&", 1, .copy),
    (">|", 1, .write), (">", 1, .write)]

/-- Reads what is done with a descriptor, if that is next. -/
def readRedirection : Reading (Option Redirection) := do
  skipBlanks
  let cs ← rest
  let digits := cs.takeWhile Char.isDigit
  let sign := cs.drop digits.length
  let number (standard : Nat) := ((String.ofList digits).toNat?).getD standard
  if "<<".toList.isPrefixOf sign then
    skip (digits.length + 2)
    let stripTabs ← accept "-"
    return some ⟨number 0, .document, ← readDocument pieces stripTabs⟩
  match transferSigns.find? fun (text, _, _) => text.toList.isPrefixOf sign with
  | none => return none
  | some (text, standard, transfer) =>
    skip (digits.length + text.length)
    match ← readWord pieces with
    | none => refuse none
    | some word => return some ⟨number standard, transfer, word⟩

/-- Reads all that is done with descriptors here. -/
def readRedirections : (fuel : Nat) → Reading (List Redirection)
  | 0 => return []
  | fuel + 1 => do
    match ← readRedirection pieces with
    | none => return []
    | some redirection => return redirection :: (← readRedirections fuel)

/-- A word that gives a value to a name. -/
def Word.assignment? : Word → Option (String × Word)
  | .plain s :: rest =>
    let name := s.toList.takeWhile (· != '=')
    let value := s.toList.drop (name.length + 1)
    if name.length < s.length && isName (String.ofList name) then
      some (String.ofList name,
        if value.isEmpty then rest else .plain (String.ofList value) :: rest)
    else none
  | _ => none

/-- The parts of a command, the latest first. -/
structure CommandParts where
  assignments : List (String × Word)
  words : List Word
  redirections : List Redirection

/-- Reads the parts of a command. -/
def readParts : (fuel : Nat) → CommandParts → Reading CommandParts
  | 0, parts => return parts
  | fuel + 1, parts => do
    match ← readRedirection pieces with
    | some redirection =>
      readParts fuel { parts with redirections := redirection :: parts.redirections }
    | none =>
      match ← readWord pieces with
      | none => return parts
      | some word =>
        match if parts.words.isEmpty then word.assignment? else none with
        | some assignment =>
          readParts fuel { parts with assignments := assignment :: parts.assignments }
        | none =>
          let parts := { parts with words := word :: parts.words }
          let cs := dropBlanks (← rest)
          if parts.words.length = 1 && cs.head? = some '(' then return parts
          readParts fuel parts

/-- Reads a command, or the definition of a function. -/
def readSimple : Reading Statement := do
  let line := (← get).line
  let parts ← readParts pieces ((← rest).length + 1) ⟨[], [], []⟩
  skipBlanks
  match parts, ← rest with
  | ⟨[], [word], []⟩, '(' :: _ =>
    skip 1
    skipBlanks
    expect ")"
    skipLines
    match word.bareText? with
    | none => fail .badFunctionName
    | some name => return .define name (← command)
  | ⟨[], [], []⟩, _ => refuse none
  | parts, _ =>
    return .command line parts.assignments.reverse parts.words.reverse parts.redirections.reverse

/-- Refuses a list without statements. -/
def readBody : Reading Statement := do
  match ← statements with
  | .nothing => refuse none
  | body => return body

/-- Reads the rest of a condition after its first body. -/
def readElse : (fuel : Nat) → Reading Statement
  | 0 => refuse none
  | fuel + 1 => do
    if ← acceptKeyword "elif" then
      let test ← readBody statements
      expectKeyword "then"
      let success ← readBody statements
      return .conditional test success (← readElse fuel)
    else if ← acceptKeyword "else" then
      let body ← readBody statements
      expectKeyword "fi"
      return body
    else
      expectKeyword "fi"
      return .nothing

def readConditional : Reading Statement := do
  let test ← readBody statements
  expectKeyword "then"
  let success ← readBody statements
  return .conditional test success (← readElse statements ((← rest).length + 1))

def readLoopBody : Reading Statement := do
  expectKeyword "do"
  let body ← readBody statements
  expectKeyword "done"
  return body

def readLoop (whileFails : Bool) : Reading Statement := do
  let test ← readBody statements
  return .loop whileFails test (← readLoopBody statements)

/-- Reads words up to the end of a line or a semicolon. -/
def readWords : (fuel : Nat) → Reading (List Word)
  | 0 => return []
  | fuel + 1 => do
    match ← readWord pieces with
    | none => return []
    | some word => return word :: (← readWords fuel)

def readEach : Reading Statement := do
  match (← readWord pieces).bind Word.bareText? with
  | none => fail .badLoopVariable
  | some name =>
    if !isName name then fail .badLoopVariable
    skipLines
    let words ←
      if ← acceptKeyword "in" then do
        let words ← readWords pieces ((← rest).length + 1)
        pure (some words)
      else pure none
    skipBlanks
    discard (accept ";")
    skipLines
    return .each name words (← readLoopBody statements)

/-- Reads the patterns of a case up to the closing parenthesis. -/
def readPatterns : (fuel : Nat) → Reading (List Word)
  | 0 => refuse none
  | fuel + 1 => do
    match ← readWord pieces with
    | none => refuse none
    | some pattern =>
      skipBlanks
      if ← accept "|" then return pattern :: (← readPatterns fuel)
      expect ")"
      return [pattern]

/-- Reads the cases of a choice. -/
def readCases : (fuel : Nat) → Reading (List (List Word × Statement))
  | 0 => refuse none
  | fuel + 1 => do
    skipLines
    if ← acceptKeyword "esac" then return []
    discard (accept "(")
    let patterns ← readPatterns pieces ((← rest).length + 1)
    let body ← statements
    skipLines
    if ← accept ";;" then return (patterns, body) :: (← readCases fuel)
    expectKeyword "esac"
    return [(patterns, body)]

def readChoice : Reading Statement := do
  match ← readWord pieces with
  | none => refuse (some "word")
  | some word =>
    skipLines
    expectKeyword "in"
    return .choice word (← readCases pieces statements ((← rest).length + 1))

/-- A statement with what is done with descriptors behind it. -/
def withRedirections (body : Statement) : Reading Statement := do
  match ← readRedirections pieces ((← rest).length + 1) with
  | [] => return body
  | redirections => return .redirected body redirections

/-- Reads a command or a statement that begins with a word of the language. -/
def readCommand : Reading Statement := do
  skipBlanks
  let aliases := (← get).aliases
  replaceAliases aliases.length aliases
  if ← accept "(" then
    let body ← readBody statements
    skipLines
    expect ")"
    withRedirections pieces (.subshell body)
  else
    let keyword ← nextBare
    if openingKeywords.contains keyword then skip keyword.length
    match keyword with
    | "\x7b" =>
      let body ← readBody statements
      expectKeyword "\x7d"
      withRedirections pieces body
    | "if" => withRedirections pieces (← readConditional statements)
    | "while" => withRedirections pieces (← readLoop statements false)
    | "until" => withRedirections pieces (← readLoop statements true)
    | "for" => withRedirections pieces (← readEach pieces statements)
    | "case" => withRedirections pieces (← readChoice pieces statements)
    | keyword =>
      if closingKeywords.contains keyword then refuse none else readSimple pieces command

/-- Reads the commands of a pipeline after the first one. -/
def readPiped : (fuel : Nat) → Reading (List Statement)
  | 0 => return []
  | fuel + 1 => do
    skipBlanks
    let cs ← rest
    if "||".toList.isPrefixOf cs || cs.head? != some '|' then return []
    skip 1
    skipLines
    let next ← readCommand pieces statements command
    return next :: (← readPiped fuel)

def readPipeline : Reading Statement := do
  let negated ← acceptKeyword "!"
  let first ← readCommand pieces statements command
  match ← readPiped pieces statements command ((← rest).length + 1) with
  | [] => return if negated then .pipeline true [first] else first
  | more => return .pipeline negated (first :: more)

/-- Reads pipelines that depend on how the ones before them ended. -/
def readChain : (fuel : Nat) → Statement → Reading Statement
  | 0, first => return first
  | fuel + 1, first => do
    skipBlanks
    if ← accept "&&" then
      skipLines
      readChain fuel (.both first (← readPipeline pieces statements command))
    else if ← accept "||" then
      skipLines
      readChain fuel (.either first (← readPipeline pieces statements command))
    else return first

/-- Whether a list of statements ends here. -/
def atListEnd : Reading Bool := do
  match ← rest with
  | [] | ')' :: _ | ';' :: ';' :: _ => return true
  | _ => return closingKeywords.contains (← nextBare)

/-- Puts two statements together. -/
def Statement.andThen : Statement → Statement → Statement
  | .nothing, second => second
  | first, .nothing => first
  | first, second => .sequence first second

/-- Reads statements, over several lines or in one. -/
def readList (overLines : Bool) : (fuel : Nat) → Reading Statement
  | 0 => return .nothing
  | fuel + 1 => do
    if overLines then skipLines else skipBlanks
    let cs ← rest
    if !overLines && cs.head? = some '\n' then return .nothing
    if ← atListEnd then return .nothing
    let first ← readPipeline pieces statements command
    let statement ← readChain pieces statements command (cs.length + 1) first
    skipBlanks
    match ← rest with
    | ';' :: ';' :: _ => return statement
    | ';' :: _ =>
      skip 1
      return statement.andThen (← readList overLines fuel)
    | '&' :: _ =>
      skip 1
      return (Statement.background statement).andThen (← readList overLines fuel)
    | '\n' :: _ =>
      if overLines then return statement.andThen (← readList overLines fuel) else return statement
    | _ => return statement

end

mutual

/-- Pieces with others inside them, down to a depth. -/
def pieces : (depth : Nat) → Context → Reading Word
  | 0, _ => failOpen
  | depth + 1, context => do
    readPieces (pieces depth) (statements depth) context ((← rest).length + 1) 0

/-- Statements over several lines, down to a depth. -/
def statements : (depth : Nat) → Reading Statement
  | 0 => failOpen
  | depth + 1 => do
    readList (pieces depth) (statements depth) (command depth) true ((← rest).length + 1)

/-- One command, down to a depth. -/
def command : (depth : Nat) → Reading Statement
  | 0 => failOpen
  | depth + 1 => readCommand (pieces depth) (statements depth) (command depth)

end

/-- Reads the next line of a script with all that belongs to it, if something is left. -/
def readLine : Reading (Option Statement) := do
  skipLines
  let cs ← rest
  if cs.isEmpty then return none
  let depth := cs.length + 1
  let statement ←
    readList (pieces depth) (statements depth) (command depth) false (cs.length + 1)
  match ← rest with
  | [] | '\n' :: _ => return some statement
  | _ => refuse none

theorem readLine_empty : readLine.run (Cursor.ofText "") = .ok (none, Cursor.ofText "") := rfl

end RaidProvision.Shell

import RaidProvision.Shell.Statement

/-!
# Reading parts of scripts

A reader takes some part from what is left of a script, or finds a fault there. A fault is told with
what was found and what should stand in its place.

* `dropBlanks_comment`: a comment goes up to the end of its line.
-/
namespace RaidProvision.Shell

/-- Why a script cannot be read. -/
inductive FaultCause where
  | unexpected (found : String) (expected : Option String)
  | unterminated
  | badLoopVariable
  | badFunctionName
  deriving DecidableEq, Repr

def FaultCause.message : FaultCause → String
  | unexpected found none => s!"Syntax error: {found} unexpected"
  | unexpected found (some expected) =>
    s!"Syntax error: {found} unexpected (expecting {expected})"
  | unterminated => "Syntax error: Unterminated quoted string"
  | badLoopVariable => "Syntax error: Bad for loop variable"
  | badFunctionName => "Syntax error: Bad function name"

/-- Why a script cannot be read, and in which line. -/
structure Fault where
  line : Nat
  cause : FaultCause
  deriving DecidableEq, Repr

/-- What is left of a script. -/
structure Cursor where
  rest : List Char
  /-- The number of lines of the whole script. -/
  lines : Nat
  /-- Names and the texts that they stand for where a command begins. -/
  aliases : List (String × String)

def Cursor.ofText (s : String) : Cursor := ⟨s.toList, s.toList.count '\n' + 1, []⟩

/-- The line that is being read. -/
def Cursor.line (cursor : Cursor) : Nat := cursor.lines - cursor.rest.count '\n'

/-- A reader of some part of a script. -/
abbrev Reading (α : Type) := StateT Cursor (Except Fault) α

/-- Characters that end a word. -/
def isMeta (c : Char) : Bool := " \t\n;&|<>()".toList.contains c

/-- Words that begin a statement of their own form. -/
def openingKeywords : List String := ["\x7b", "if", "while", "until", "for", "case"]

/-- Words that end a list of statements. -/
def closingKeywords : List String := ["then", "else", "elif", "fi", "do", "done", "esac", "\x7d"]

namespace Reading

/-- What is left to read. -/
def rest : Reading (List Char) := return (← get).rest

def setRest (rest : List Char) : Reading Unit := modify fun cursor => { cursor with rest := rest }

/-- Passes over some characters. -/
def skip (count : Nat) : Reading Unit := do setRest ((← rest).drop count)

/-- Passes over a mark, if it is next. -/
def accept (mark : String) : Reading Bool := do
  if mark.toList.isPrefixOf (← rest) then
    skip mark.length
    return true
  else return false

/-- Drops white space within a line, joined lines and comments. -/
def dropBlanks : List Char → List Char
  | ' ' :: rest => dropBlanks rest
  | '\t' :: rest => dropBlanks rest
  | '\\' :: '\n' :: rest => dropBlanks rest
  | '#' :: rest => rest.dropWhile (· != '\n')
  | rest => rest

theorem dropBlanks_comment (rest : List Char) :
    dropBlanks ('#' :: rest) = rest.dropWhile (· != '\n') := by
  simp [dropBlanks]

/-- Drops empty lines as well. -/
def dropLines : (fuel : Nat) → List Char → List Char
  | 0, rest => rest
  | fuel + 1, rest =>
    match dropBlanks rest with
    | '\n' :: rest => dropLines fuel rest
    | rest => rest

def skipBlanks : Reading Unit := do setRest (dropBlanks (← rest))
def skipLines : Reading Unit := do
  let cs ← rest
  setRest (dropLines (cs.length + 1) cs)

/-- Operators, the longer ones first. -/
def operators : List String := [";;", "&&", "||", ";", "&", "|", "(", ")"]

/-- A text in double quotes. -/
def inQuotes (s : String) : String := "\"" ++ s ++ "\""

/-- What the next thing is called in a complaint. -/
def nextName (rest : List Char) : String :=
  let word := String.ofList (rest.takeWhile fun c => !isMeta c)
  match rest with
  | [] => "end of file"
  | '\n' :: _ => "newline"
  | c :: _ =>
    if c == '<' || c == '>' then "redirection"
    else
      match operators.find? fun operator => operator.toList.isPrefixOf rest with
      | some operator => inQuotes operator
      | none =>
        if (openingKeywords ++ closingKeywords).contains word then inQuotes word else "word"

/-- Ends with a fault at this place. -/
def fail {α : Type} (cause : FaultCause) : Reading α := do throw ⟨(← get).line, cause⟩

/-- Ends with a fault about a text that has no end. -/
def failOpen {α : Type} : Reading α := do throw ⟨(← get).lines, .unterminated⟩

/-- Refuses what is next. -/
def refuse {α : Type} (expected : Option String) : Reading α := do
  skipBlanks
  fail (.unexpected (nextName (← rest)) expected)

/-- Passes over a mark, which has to be next. -/
def expect (mark : String) : Reading Unit := do
  if !(← accept mark) then refuse (some (inQuotes mark))

end Reading
end RaidProvision.Shell

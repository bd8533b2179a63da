import RaidProvision.Regex.Reader
import RaidProvision.Utility.Awk.Lexer

/-!
# Reading scripts for records

Operators bind at levels; an operand of one level is made of those of the next. A statement ends
with its line, at a semicolon or in front of the brace that closes its block. What cannot be read
makes the whole script unreadable.

* `ofText_empty`: the empty script has no rules.
-/
namespace RaidProvision.Awk

/-- A reader of some part of a script. -/
abbrev Parsing (α : Type) := StateT (List Token) Option α

/-- Operators that are left to an outer expression. -/
structure Limits where
  isIn : Bool
  greater : Bool

def Limits.none : Limits := ⟨false, false⟩

namespace Parsing

def peek : Parsing (Option Token) := return (← get).head?

def skip : Parsing Unit := modify (List.drop 1)

/-- Passes over a token, if it is next. -/
def accept (token : Token) : Parsing Bool := do
  if (← peek) = some token then
    skip
    return true
  else return false

def acceptMark (mark : String) : Parsing Bool := accept (.mark mark)

/-- Passes over a mark, which has to be next. -/
def expect (mark : String) : Parsing Unit := do
  if !(← acceptMark mark) then failure

def expectName : Parsing String := do
  match ← peek with
  | some (.name s) =>
    skip
    if keywords.contains s then failure else return s
  | _ => failure

/-- Passes over the ends of lines. -/
def skipLines : Parsing Unit := modify (List.dropWhile (· == .newline))

/-- Passes over the ends of lines and statements. -/
def skipEnds : Parsing Unit :=
  modify (List.dropWhile fun token => token == .newline || token == .mark ";")

/-- Reads something, or goes back and reads something else. -/
def orElse {α : Type} (first second : Parsing α) : Parsing α := fun tokens =>
  (first tokens) <|> (second tokens)

end Parsing

open Parsing

/-! ## Expressions -/

/-- Operators that assign. -/
def assigners : List (String × Option Operator) :=
  [("=", none), ("+=", some .plus), ("-=", some .minus), ("*=", some .times), ("/=", some .divide),
    ("%=", some .remainder), ("^=", some .power)]

def comparisons : List (String × Comparison) :=
  [("<", .less), ("<=", .lessOrEqual), ("==", .equal), ("!=", .notEqual), (">", .greater),
    (">=", .greaterOrEqual)]

/-- The level of what has operators at its ends only. -/
def unaryLevel : Nat := 9

/-- Operators of arithmetic with two sides and their levels. -/
def operators : List (String × Nat × Operator) :=
  [("+", 7, .plus), ("-", 7, .minus), ("*", 8, .times), ("/", 8, .divide), ("%", 8, .remainder)]

/-- Whether an operand can begin with a token, next to another one. -/
def beginsOperand : Token → Bool
  | .number _ | .text _ | .call _ | .pattern _ => true
  | .name s => !keywords.contains s
  | .mark s => s == "$" || s == "(" || s == "!" || s == "++" || s == "--"
  | .newline => false

def readPattern (cs : List Char) : Parsing Expression :=
  match Regex.ofText .extended (String.ofList cs) with
  | .ok r => return .pattern r
  | .error _ => failure

def asPlace : Expression → Parsing Place
  | .place place => return place
  | _ => failure

mutual

/-- Reads an expression. -/
def readExpression : (fuel : Nat) → Limits → Parsing Expression
  | 0, _ => failure
  | fuel + 1, limits => do
    let test ← readLevel fuel 1 limits
    if ← acceptMark "?" then
      skipLines
      let success ← readExpression fuel limits
      skipLines
      expect ":"
      skipLines
      return .conditional test success (← readExpression fuel limits)
    else return test

/-- Reads operands of a level or above. -/
def readLevel : (fuel : Nat) → (level : Nat) → Limits → Parsing Expression
  | 0, _, _ => failure
  | fuel + 1, level, limits => do
    if unaryLevel ≤ level then readUnary fuel limits
    else readMore fuel level limits (← readLevel fuel (level + 1) limits)

/-- Goes on behind an operand of a level. -/
def readMore : (fuel : Nat) → (level : Nat) → Limits → Expression → Parsing Expression
  | 0, _, _, _ => failure
  | fuel + 1, level, limits, a => do
    let rest ← get
    /- Reads the other operand, perhaps in another line. -/
    let other (lines : Bool) (level : Nat) (build : Expression → Expression) :
        Parsing Expression := do
      skip
      if lines then skipLines
      readMore fuel level limits (build (← readLevel fuel (level + 1) limits))
    match level, rest with
    | 1, .mark "||" :: _ => other true 1 (.either a)
    | 2, .mark "&&" :: _ => other true 2 (.both a)
    | 3, .name "in" :: .name array :: _ =>
      if limits.isIn then return a
      skip
      skip
      readMore fuel level limits (.isIn [a] array)
    | 4, .mark "~" :: _ => other false 4 (.matched false a)
    | 4, .mark "!~" :: _ => other false 4 (.matched true a)
    | 5, .mark "|" :: .name "getline" :: _ =>
      skip
      skip
      let place ← readTarget fuel
      readMore fuel level limits (.readLine place (.command a))
    | 5, .mark mark :: _ =>
      match comparisons.lookup mark with
      | some comparison =>
        if limits.greater && mark == ">" then return a
        other false 5 (.compare comparison a)
      | none => return a
    | 6, token :: _ =>
      if beginsOperand token then
        readMore fuel level limits (.join a (← readLevel fuel (level + 1) limits))
      else return a
    | level, .mark mark :: _ =>
      match operators.lookup mark with
      | some (own, operator) =>
        if own = level then other false level (.operate operator a) else return a
      | none => return a
    | _, _ => return a

/-- Reads an operand with operators in front of it. -/
def readUnary : (fuel : Nat) → Limits → Parsing Expression
  | 0, _ => failure
  | fuel + 1, limits => do
    if ← acceptMark "!" then return .not (← readUnary fuel limits)
    else if ← acceptMark "-" then return .negate (← readUnary fuel limits)
    else if ← acceptMark "+" then return .positive (← readUnary fuel limits)
    else
      let base ← readCounted fuel limits
      if ← acceptMark "^" then
        return .operate .power base (← readUnary fuel limits)
      else return base

/-- Reads an operand that may be counted or assigned to. -/
def readCounted : (fuel : Nat) → Limits → Parsing Expression
  | 0, _ => failure
  | fuel + 1, limits => do
    if ← acceptMark "++" then
      return .count (← asPlace (← readOperand fuel)) .plus false
    else if ← acceptMark "--" then
      return .count (← asPlace (← readOperand fuel)) .minus false
    match ← readOperand fuel with
    | .place place =>
      match ← peek with
      | some (.mark "++") =>
        skip
        return .count place .plus true
      | some (.mark "--") =>
        skip
        return .count place .minus true
      | some (.mark mark) =>
        match assigners.lookup mark with
        | some operator =>
          skip
          skipLines
          return .assign place operator (← readExpression fuel limits)
        | none => return .place place
      | _ => return .place place
    | e => return e

/-- Reads an operand without operators at its ends. -/
def readOperand : (fuel : Nat) → Parsing Expression
  | 0 => failure
  | fuel + 1 => do
    let token ← peek
    skip
    match token with
    | some (.number x) => return .literal (.number x)
    | some (.text s) => return .literal (.text s)
    | some (.pattern cs) => readPattern cs
    | some (.mark "(") =>
      let list ← readList fuel ")"
      match list with
      | [e] => return e
      | list =>
        if list.isEmpty || !(← accept (.name "in")) then failure
        return .isIn list (← expectName)
    | some (.mark "$") =>
      if ← acceptMark "++" then
        return .place (.field (.count (← asPlace (← readOperand fuel)) .plus false))
      else if ← acceptMark "--" then
        return .place (.field (.count (← asPlace (← readOperand fuel)) .minus false))
      else if ← acceptMark "-" then
        return .place (.field (.negate (← readOperand fuel)))
      else return .place (.field (← readOperand fuel))
    | some (.name "getline") =>
      let place ← readTarget fuel
      if ← acceptMark "<" then return .readLine place (.file (← readOperand fuel))
      else return .readLine place .input
    | some (.call name) =>
      expect "("
      return .call name (← readList fuel ")")
    | some (.name name) =>
      if keywords.contains name then failure
      match primitives.lookup name with
      | some primitive =>
        if ← acceptMark "(" then return .primitive primitive (← readList fuel ")")
        else return .primitive primitive []
      | none =>
        if ← acceptMark "[" then return .place (.element name (← readList fuel "]"))
        else return .place (.named name)
    | _ => failure

/-- Reads expressions with commas between them up to a mark. -/
def readList : (fuel : Nat) → (mark : String) → Parsing (List Expression)
  | 0, _ => failure
  | fuel + 1, mark => do
    skipLines
    if ← acceptMark mark then return []
    let first ← readExpression fuel .none
    skipLines
    if ← acceptMark mark then return [first]
    expect ","
    return first :: (← readList fuel mark)

/-- Reads the place that a line is read into, if one is named. -/
def readTarget : (fuel : Nat) → Parsing (Option Place)
  | 0 => failure
  | fuel + 1 => do
    match ← peek with
    | some (.mark "$") => return some (← asPlace (← readOperand fuel))
    | some (.name s) =>
      if keywords.contains s || (primitives.lookup s).isSome then return none
      else return some (← asPlace (← readOperand fuel))
    | _ => return none

end

/-! ## Statements -/

/-- Whether a statement ends in front of what is next. -/
def atEnd : Parsing Bool := do
  match ← peek with
  | none | some .newline | some (.mark ";") | some (.mark "\x7d") => return true
  | _ => return false

/-- Whether a list of what is printed ends in front of what is next. -/
def atListEnd : Parsing Bool := do
  match ← peek with
  | some (.mark mark) => return (mark == ">" || mark == ">>" || mark == "|") || (← atEnd)
  | _ => atEnd

/-- Reads expressions with commas between them. -/
def readItems : (fuel : Nat) → Parsing (List Expression)
  | 0 => failure
  | fuel + 1 => do
    let first ← readExpression (fuel + 1) ⟨false, true⟩
    if ← acceptMark "," then
      skipLines
      return first :: (← readItems fuel)
    else return [first]

/-- Reads what is printed, perhaps in parentheses. -/
def readPrinted (fuel : Nat) : Parsing (List Expression) := do
  if ← atListEnd then return []
  let closed : Parsing (List Expression) := do
    expect "("
    let items ← readList fuel ")"
    if ← atListEnd then return items else failure
  orElse closed (readItems fuel)

/-- Reads where what is printed goes. -/
def readOutlet (fuel : Nat) : Parsing (Option (Outlet × Expression)) := do
  let outlet : Option Outlet :=
    match ← peek with
    | some (.mark ">") => some .file
    | some (.mark ">>") => some .append
    | some (.mark "|") => some .command
    | _ => none
  match outlet with
  | none => return none
  | some outlet =>
    skip
    return some (outlet, ← readExpression fuel ⟨false, true⟩)

/-- Reads an expression, if the statement does not end here. -/
def readOptional (fuel : Nat) : Parsing (Option Expression) := do
  if ← atEnd then return none else return some (← readExpression fuel .none)

/-- Reads a statement that contains no others. -/
def readSimple (fuel : Nat) : Parsing Statement := do
  let tokens ← get
  let keyword : String :=
    match tokens with
    | .name s :: _ => s
    | _ => ""
  let plain (statement : Statement) : Parsing Statement := do
    skip
    return statement
  match keyword with
  | "print" =>
    skip
    let items ← readPrinted fuel
    return .print items (← readOutlet fuel)
  | "printf" =>
    skip
    let items ← readPrinted fuel
    return .printFormat items (← readOutlet fuel)
  | "next" => plain .nextRecord
  | "nextfile" => plain .nextFile
  | "break" => plain .breakLoop
  | "continue" => plain .continueLoop
  | "exit" =>
    skip
    return .exit (← readOptional fuel)
  | "return" =>
    skip
    return .giveBack (← readOptional fuel)
  | "delete" =>
    skip
    let array ← expectName
    if ← acceptMark "[" then return .delete array (some (← readList fuel "]"))
    else return .delete array none
  | _ => return .evaluate (← readExpression fuel .none)

/-- Passes over the end of a statement. -/
def endStatement : Parsing Unit := do
  if !(← atEnd) then failure
  if (← acceptMark ";") || (← accept .newline) then skipLines

/-- Reads a test in parentheses. -/
def readTest (fuel : Nat) : Parsing Expression := do
  expect "("
  let test ← readExpression fuel .none
  expect ")"
  return test

/-- Reads the head of a loop over the names of an array. -/
def readEach : Parsing (String × String) := do
  expect "("
  let name ← expectName
  if !(← accept (.name "in")) then failure
  let array ← expectName
  expect ")"
  return (name, array)

mutual

/-- Reads a statement. -/
def readStatement : (fuel : Nat) → Parsing Statement
  | 0 => failure
  | fuel + 1 => do
    match ← peek with
    | some (.mark "\x7b") =>
      let block ← readBlock fuel
      skipLines
      return block
    | some (.mark ";") =>
      skip
      skipLines
      return .nothing
    | some (.name "if") =>
      skip
      let test ← readTest fuel
      skipLines
      let success ← readStatement fuel
      let otherwise : Parsing Statement := do
        skipEnds
        if !(← accept (.name "else")) then failure
        skipLines
        readStatement fuel
      return .conditional test success (← orElse otherwise (return .nothing))
    | some (.name "while") =>
      skip
      let test ← readTest fuel
      if ← acceptMark ";" then
        skipLines
        return .loop (some test) .nothing .nothing
      skipLines
      return .loop (some test) .nothing (← readStatement fuel)
    | some (.name "do") =>
      skip
      skipLines
      let body ← readStatement fuel
      skipEnds
      if !(← accept (.name "while")) then failure
      let test ← readTest fuel
      endStatement
      return .loop none (.conditional test .nothing .breakLoop) body
    | some (.name "for") =>
      skip
      orElse (readForEach fuel) (readFor fuel)
    | _ =>
      let statement ← readSimple fuel
      endStatement
      return statement

/-- Reads a loop over the names of an array, behind its keyword. -/
def readForEach : (fuel : Nat) → Parsing Statement
  | 0 => failure
  | fuel + 1 => do
    let (name, array) ← readEach
    skipLines
    return .each name array (← readStatement fuel)

/-- Reads a loop with a start, a test and a step, behind its keyword. -/
def readFor : (fuel : Nat) → Parsing Statement
  | 0 => failure
  | fuel + 1 => do
    let part (mark : String) : Parsing Statement := do
      if ← acceptMark mark then return .nothing
      let statement ← readSimple fuel
      expect mark
      return statement
    expect "("
    let start ← part ";"
    skipLines
    let test ← readOptional fuel
    expect ";"
    skipLines
    let next ← part ")"
    if ← acceptMark ";" then
      skipLines
      return .sequence start (.loop test next .nothing)
    skipLines
    return .sequence start (.loop test next (← readStatement fuel))

/-- Reads statements in braces. -/
def readBlock : (fuel : Nat) → Parsing Statement
  | 0 => failure
  | fuel + 1 => do
    expect "\x7b"
    readStatements fuel

/-- Reads statements up to the brace that closes their block. -/
def readStatements : (fuel : Nat) → Parsing Statement
  | 0 => failure
  | fuel + 1 => do
    skipEnds
    if ← acceptMark "\x7d" then return .nothing
    let first ← readStatement fuel
    return .sequence first (← readStatements fuel)

end

/-! ## Scripts -/

/-- Reads the action of a rule, which prints the record if it is left out. -/
def readAction (fuel : Nat) : Parsing Statement := do
  if (← peek) = some (.mark "\x7b") then readBlock fuel else return .print [] none

/-- Reads names with commas between them up to a parenthesis. -/
def readNames : (fuel : Nat) → Parsing (List String)
  | 0 => failure
  | fuel + 1 => do
    skipLines
    if ← acceptMark ")" then return []
    let name ← expectName
    skipLines
    if ← acceptMark ")" then return [name]
    expect ","
    return name :: (← readNames fuel)

/-- Reads a function behind its keyword. -/
def readFunction (fuel : Nat) : Parsing (String × Function) := do
  let token ← peek
  skip
  match token with
  | some (.call name) | some (.name name) =>
    expect "("
    let parameters ← readNames fuel
    skipLines
    return (name, ⟨parameters, ← readBlock fuel⟩)
  | _ => failure

/-- Reads a rule. -/
def readRule (fuel : Nat) : Parsing Rule := do
  if ← accept (.name "BEGIN") then return ⟨.start, ← readBlock fuel⟩
  else if ← accept (.name "END") then return ⟨.finish, ← readBlock fuel⟩
  else if (← peek) = some (.mark "\x7b") then return ⟨.every, ← readBlock fuel⟩
  let first ← readExpression fuel .none
  if ← acceptMark "," then
    skipLines
    let last ← readExpression fuel .none
    return ⟨.range first last, ← readAction fuel⟩
  return ⟨.test first, ← readAction fuel⟩

/-- Reads rules and functions to the end. `count` bounds their number. -/
def readAll (fuel : Nat) : (count : Nat) → Parsing Script
  | 0 => return ⟨[], []⟩
  | count + 1 => do
    skipEnds
    match ← peek with
    | none => return ⟨[], []⟩
    | some token =>
      if token = .name "function" || token = .name "func" then
        skip
        let function ← readFunction fuel
        let script ← readAll fuel count
        return { script with functions := function :: script.functions }
      else
        let rule ← readRule fuel
        let script ← readAll fuel count
        return { script with rules := rule :: script.rules }

/-- Reads a script. -/
def ofText? (s : String) : Option Script := do
  let tokens ← tokens? s
  return (← (readAll (12 * tokens.length + 24) (tokens.length + 1)).run tokens).1

theorem ofText_empty : ofText? "" = some ⟨[], []⟩ := rfl

end RaidProvision.Awk

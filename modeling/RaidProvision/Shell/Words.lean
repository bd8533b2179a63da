import RaidProvision.Shell.Cursor

/-!
# Reading words

A word is pieces: characters, quoted ones, and what a dollar or a back quote begins. What stands in
braces or quotes is pieces again, and what stands in parentheses is statements; how those are read
is given to the readers here.

* `endsPieces_bare`: a word ends where a character with a meaning of its own stands.
-/
namespace RaidProvision.Shell

open Reading

/-- Where a piece stands. -/
inductive Context where
  | bare
  | double
  /-- The word of a parameter in braces, between double quotes or not. -/
  | braces (quoted : Bool)
  | arithmetic
  /-- A text that stands in the script. -/
  | document
  deriving DecidableEq, Repr

namespace Context

/-- Whether characters stand for themselves. -/
def isQuoted : Context → Bool
  | bare | braces false => false
  | _ => true

/-- Whether a backslash takes the meaning from a character. -/
def escapes (context : Context) (c : Char) : Bool :=
  match context with
  | bare | braces false => true
  | double => "$\x60\"\\\n".toList.contains c
  | braces true => "$\x60\"\\\n\x7d".toList.contains c
  | arithmetic | document => "$\x60\\\n".toList.contains c

/-- The piece that a character is. -/
def piece (context : Context) (c : Char) : Piece :=
  if context.isQuoted then .quoted c.toString else .plain c.toString

end Context

/-- The characters up to the end of the next word, which are the word if nothing in it has a
meaning. -/
def nextBare : Reading String := do
  skipBlanks
  return String.ofList ((← rest).takeWhile fun c => !isMeta c)

/-- Puts texts in the place of the next word as long as it stands for one, each name once. `fuel`
bounds how often. -/
def replaceAliases : (fuel : Nat) → List (String × String) → Reading Unit
  | 0, _ => return ()
  | fuel + 1, aliases => do
    let name ← nextBare
    if let some text := aliases.lookup name then
      setRest (text.toList ++ (← rest).drop name.length)
      replaceAliases fuel (aliases.filter (·.1 != name))

/-- Whether the pieces of a context end before some characters. `depth` counts the parentheses of an
arithmetic expression that are open. -/
def endsPieces (context : Context) (depth : Nat) (rest : List Char) : Bool :=
  match context, rest with
  | .bare, c :: _ => isMeta c
  | .double, c :: _ => c == '"'
  | .braces _, c :: _ => c == '}'
  | .arithmetic, c :: _ => c == ')' && depth == 0
  | .document, _ :: _ => false
  | .bare, [] | .document, [] => true
  | _, [] => false

theorem endsPieces_bare (c : Char) (rest : List Char) :
    endsPieces .bare 0 (c :: rest) = isMeta c := rfl

/-- Takes the characters up to a quote that stands behind them. -/
def takeQuoted (quote : Char) (cs : List Char) : Option (List Char × List Char) :=
  match cs.dropWhile (· != quote) with
  | _ :: rest => some (cs.takeWhile (· != quote), rest)
  | [] => none

/-- Takes the text between back quotes after the first one, where a backslash protects some
characters. -/
def takeBackquoted (inDouble : Bool) : List Char → Option (List Char × List Char)
  | [] => none
  | '\x60' :: rest => some ([], rest)
  | '\\' :: c :: rest =>
    let kept := if "$\x60\\".toList.contains c || (inDouble && c == '"') then [c] else ['\\', c]
    (takeBackquoted inDouble rest).map fun (cs, rest) => (kept ++ cs, rest)
  | c :: rest => (takeBackquoted inDouble rest).map fun (cs, rest) => (c :: cs, rest)

section

variable (pieces : Context → Reading Word) (statements : Reading Statement)

/-- Reads a whole text as statements. -/
def readInside (text : List Char) : Reading Statement := do
  match statements.run { (← get) with rest := text } with
  | .error fault => throw fault
  | .ok (body, cursor) =>
    match dropLines (cursor.rest.length + 1) cursor.rest with
    | [] => return body
    | rest => fail (.unexpected (nextName rest) none)

/-- The name of a parameter that is next. -/
def parameterName (rest : List Char) : List Char :=
  match rest with
  | [] => []
  | c :: _ =>
    if isNameStart c then rest.takeWhile isNamePart
    else if isSign c || c.isDigit then [c]
    else []

/-- The name of a parameter that is next in braces, where a number may be long. -/
def bracedName (rest : List Char) : List Char :=
  match rest.takeWhile Char.isDigit with
  | [] => parameterName rest
  | digits => digits

def fallbackOf? : Char → Option Fallback
  | '-' => some .use
  | '=' => some .assign
  | '?' => some .complain
  | '+' => some .replace
  | _ => none

/-- Reads what follows the name of a parameter in braces. -/
def readModifier (context : Context) (name : String) : Reading Piece := do
  let word : Reading Word := pieces (.braces context.isQuoted)
  let pattern : Reading Word := pieces (.braces false)
  match ← rest with
  | ':' :: c :: _ =>
    match fallbackOf? c with
    | some kind => do skip 2; return .fallback name kind true (← word)
    | none => do discard word; return .faulty
  | '%' :: '%' :: _ => do skip 2; return .trimmed name true true (← pattern)
  | '%' :: _ => do skip 1; return .trimmed name true false (← pattern)
  | '#' :: '#' :: _ => do skip 2; return .trimmed name false true (← pattern)
  | '#' :: _ => do skip 1; return .trimmed name false false (← pattern)
  | '}' :: _ => return .parameter name
  | c :: _ =>
    match fallbackOf? c with
    | some kind => do skip 1; return .fallback name kind false (← word)
    | none => do discard word; return .faulty
  | [] => failOpen

/-- Reads a parameter in braces after the opening one. -/
def readBraced (context : Context) : Reading Piece := do
  let cs ← rest
  let sized := (cs.drop 1).take (bracedName (cs.drop 1)).length
  let piece ←
    if cs.head? = some '#' && !sized.isEmpty && cs[sized.length + 1]? = some '}' then do
      skip (sized.length + 1)
      pure (Piece.size (String.ofList sized))
    else
      match bracedName cs with
      | [] => do discard (pieces (.braces false)); pure Piece.faulty
      | name => do
        skip name.length
        readModifier pieces context (String.ofList name)
  if !(← accept "\x7d") then failOpen
  return piece

/-- Reads what a dollar stands in front of. -/
def readDollar (context : Context) : Reading Piece := do
  skip 1
  if ← accept "((" then
    let expression ← pieces .arithmetic
    expect "))"
    return .arithmetic expression
  else if ← accept "(" then
    let body ← statements
    skipLines
    expect ")"
    return .output body
  else if ← accept "\x7b" then readBraced pieces context
  else
    match parameterName (← rest) with
    | [] => return context.piece '$'
    | name =>
      skip name.length
      return .parameter (String.ofList name)

/-- Reads the next piece; a joined line is none. -/
def readPiece (context : Context) : Reading (Option Piece) := do
  match ← rest with
  | [] => failOpen
  | '$' :: _ => some <$> readDollar pieces statements context
  | '\x60' :: cs =>
    match takeBackquoted (context == .double) cs with
    | none => failOpen
    | some (text, cs) =>
      setRest cs
      return some (.output (← readInside statements text))
  | '\\' :: c :: cs =>
    if !context.escapes c then
      skip 1
      return some (.quoted "\\")
    else
      setRest cs
      return if c == '\n' then none else some (.quoted c.toString)
  | '\\' :: [] =>
    skip 1
    return some (.quoted "\\")
  | c :: cs =>
    if c == '\'' && !context.isQuoted then
      match takeQuoted '\'' cs with
      | none => failOpen
      | some (text, cs) =>
        setRest cs
        return some (.quoted (String.ofList text))
    else if c == '"' && (!context.isQuoted || context == .braces true) then
      skip 1
      let inside ← pieces .double
      expect "\""
      return some (.double inside)
    else
      skip 1
      return some (context.piece c)

/-- Reads pieces up to the end of their context. `fuel` bounds their number. -/
def readPieces (context : Context) : (fuel : Nat) → (depth : Nat) → Reading Word
  | 0, _ => failOpen
  | fuel + 1, depth => do
    let cs ← rest
    if endsPieces context depth cs then return []
    let piece ← readPiece pieces statements context
    let depth :=
      match cs with
      | '(' :: _ => depth + 1
      | ')' :: _ => depth - 1
      | _ => depth
    let more ← readPieces context fuel depth
    return match piece with
      | some piece => piece.cons more
      | none => more

end

end RaidProvision.Shell

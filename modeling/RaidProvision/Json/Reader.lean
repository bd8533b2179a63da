import RaidProvision.Json.Fault

/-!
# Reading JSON

A `Reader` takes a value off the front of a text. Readers of larger things are put together from
readers of their parts and go through the text once from front to back, so the first thing that is
wrong is the one reported, be it the text or the data. `depth` is the number of arrays and objects
that may still be opened.

* `Value.read` reads any value, `wholeText` a text that holds nothing else.
-/
namespace RaidProvision.Json

/-- Takes an `α` off the front of a text. -/
abbrev Reader (ε α : Type) := List Char → Except (Fault ε) (α × List Char)

/-- How many arrays and objects may stand inside one another. -/
def maxDepth : Nat := 127

/-- The white space of JSON. -/
def isSpace (c : Char) : Bool := c == ' ' || c == '\n' || c == '\t' || c == '\r'

/-- Drops white space. -/
def skipSpace (cs : List Char) : List Char := cs.dropWhile isSpace

variable {ε α σ : Type}

/-- Takes a fixed word. -/
def keyword (word : String) (value : α) : Reader ε α := fun cs =>
  if word.toList.isPrefixOf cs then .ok (value, cs.drop word.length) else .error .malformed

/-- The value of a hexadecimal digit. -/
def hexDigit? (c : Char) : Option Nat :=
  if c.isDigit then some (c.toNat - '0'.toNat)
  else if 'a' ≤ c && c ≤ 'f' then some (c.toNat - 'a'.toNat + 10)
  else if 'A' ≤ c && c ≤ 'F' then some (c.toNat - 'A'.toNat + 10)
  else none

/-- The value of four hexadecimal digits. -/
def hex4? (a b c d : Char) : Option Nat := do
  return 0x1000 * (← hexDigit? a) + 0x100 * (← hexDigit? b) + 0x10 * (← hexDigit? c) +
    (← hexDigit? d)

/-- The character of an escape with one letter. -/
def shortEscape? : Char → Option Char
  | '"' => some '"'
  | '\\' => some '\\'
  | '/' => some '/'
  | 'b' => some '\x08'
  | 'f' => some '\x0C'
  | 'n' => some '\n'
  | 'r' => some '\r'
  | 't' => some '\t'
  | _ => none

/-- The first half of a character beyond 16 bits. -/
def isHighHalf (n : Nat) : Bool := 0xD800 ≤ n && n < 0xDC00

/-- The second half of a character beyond 16 bits. -/
def isLowHalf (n : Nat) : Bool := 0xDC00 ≤ n && n < 0xE000

/-- Takes a character before what was read. -/
def consRead (c : Char) : Option (List Char × List Char) → Option (List Char × List Char)
  | some (cs, rest) => some (c :: cs, rest)
  | none => none

/-- Reads the characters of a text up to its closing quote. -/
def readCharacters : List Char → Option (List Char × List Char)
  | [] => none
  | '"' :: rest => some ([], rest)
  | '\\' :: 'u' :: a :: b :: c :: d :: rest =>
    match hex4? a b c d with
    | none => none
    | some high =>
      if isHighHalf high then
        match rest with
        | '\\' :: 'u' :: e :: f :: g :: h :: rest =>
          match hex4? e f g h with
          | none => none
          | some low =>
            if isLowHalf low then
              consRead (Char.ofNat (0x10000 + 0x400 * (high - 0xD800) + (low - 0xDC00)))
                (readCharacters rest)
            else none
        | _ => none
      else if isLowHalf high then none
      else consRead (Char.ofNat high) (readCharacters rest)
  | '\\' :: e :: rest =>
    match shortEscape? e with
    | some c => consRead c (readCharacters rest)
    | none => none
  | c :: rest => if c.toNat < 0x20 then none else consRead c (readCharacters rest)

/-- Reads a text after its opening quote. -/
def readText : Reader ε String := fun cs =>
  match readCharacters cs with
  | some (text, rest) => .ok (String.ofList text, rest)
  | none => .error .malformed

/-- Reads a number. -/
def readNumeral : Reader ε Number := fun cs =>
  match readNumber cs with
  | some result => .ok result
  | none => .error .malformed

/-- Reads elements up to the closing bracket. An element takes at least one character, so `fuel` is
any bound on the length of the text. -/
def readElements (element : Reader ε α) : Nat → Reader ε (List α)
  | 0, _ => .error .malformed
  | fuel + 1, cs => do
    let (x, cs) ← element cs
    match skipSpace cs with
    | ',' :: cs =>
      let (xs, cs) ← readElements element fuel cs
      return (x :: xs, cs)
    | ']' :: cs => return ([x], cs)
    | _ => .error .malformed

/-- Reads an array after its opening bracket. -/
def readArray (element : Reader ε α) : Reader ε (List α) := fun cs =>
  match skipSpace cs with
  | ']' :: rest => .ok ([], rest)
  | _ => readElements element cs.length cs

/-- Takes the colon between a name and its value. -/
def colon (next : Reader ε α) : Reader ε α := fun cs =>
  match skipSpace cs with
  | ':' :: cs => next cs
  | _ => .error .malformed

/-- Reads members up to the closing brace. What is read so far is `state`; `member` says for a name
how its value goes into it, or refuses the name. -/
def readMembers (member : String → σ → Except ε (Reader ε σ)) : Nat → σ → Reader ε σ
  | 0, _, _ => .error .malformed
  | fuel + 1, state, cs =>
    match skipSpace cs with
    | '"' :: cs => do
      let (name, cs) ← readText cs
      match member name state with
      | .error cause => .error (.refused cause)
      | .ok value =>
        let (state, cs) ← colon value cs
        match skipSpace cs with
        | ',' :: cs => readMembers member fuel state cs
        | '}' :: cs => return (state, cs)
        | _ => .error .malformed
    | _ => .error .malformed

/-- Reads an object after its opening brace. -/
def readObject (member : String → σ → Except ε (Reader ε σ)) (start : σ) : Reader ε σ := fun cs =>
  match skipSpace cs with
  | '}' :: rest => .ok (start, rest)
  | _ => readMembers member cs.length start cs

/-- Applies a function to what a reader reads. -/
def Reader.map {β : Type} (f : α → β) (reader : Reader ε α) : Reader ε β := fun cs =>
  (reader cs).map fun (x, rest) => (f x, rest)

/-- Reads a value of any kind. -/
def Value.read : (depth : Nat) → Reader ε Value
  | depth, cs =>
    match skipSpace cs with
    | 'n' :: _ => keyword "null" .null (skipSpace cs)
    | 't' :: _ => keyword "true" (.boolean true) (skipSpace cs)
    | 'f' :: _ => keyword "false" (.boolean false) (skipSpace cs)
    | '"' :: rest => Reader.map .text readText rest
    | '[' :: rest =>
      match depth with
      | 0 => .error .malformed
      | depth + 1 => Reader.map .array (readArray (Value.read depth)) rest
    | '{' :: rest =>
      match depth with
      | 0 => .error .malformed
      | depth + 1 =>
        Reader.map .object
          (readObject
            (fun name held => .ok (Reader.map (Members.insert name · held) (Value.read depth))) [])
          rest
    | c :: _ => if c = '-' || c.isDigit then Reader.map .number readNumeral (skipSpace cs)
      else .error .malformed
    | [] => .error .malformed

/-- Reads the kind of the value that stands in the place of something else. An array or object is
not entered. -/
def readFound : Reader ε Found := fun cs =>
  match skipSpace cs with
  | '[' :: rest => .ok (.sequence, rest)
  | '{' :: rest => .ok (.map, rest)
  | _ => Reader.map Found.ofValue (Value.read 0) cs

/-- Reads a text that holds one value and nothing else. -/
def wholeText (reader : Reader ε α) (s : String) : Except (Fault ε) α :=
  match reader s.toList with
  | .ok (x, rest) => if (skipSpace rest).isEmpty then .ok x else .error .malformed
  | .error fault => .error fault

/-- Reads the value that a text holds. -/
def Value.parse? (s : String) : Option Value :=
  match wholeText (ε := Empty) (Value.read maxDepth) s with
  | .ok value => some value
  | .error _ => none

end RaidProvision.Json

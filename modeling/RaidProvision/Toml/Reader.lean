import RaidProvision.Binary64.Literal
import RaidProvision.Json.Reader
import RaidProvision.Toml.Document

/-!
# Reading TOML

A document is read from front to back: blank lines and comments, headers in single and double
brackets, and keys with their values. Keys may be dotted and quoted. Values are texts in four kinds
of quotes, integers of 64 bits, floats, booleans, dates and times, arrays and tables between braces.
Values nest up to a bound, and so many keys may stand in a dotted key. Reading says what the
statements of a text are; whether they go together shows when they are followed.

* `readValue`, `readStatements`, `readDocument`: a value, the statements and the document of a text.
* `readDocument_empty`: the empty text is the empty document.
-/
namespace RaidProvision.Toml

open RaidProvision.Binary64
open RaidProvision.Json (hexDigit?)

/-- Takes an `α` off the front of a text. -/
abbrev Reader (α : Type) := List Char → Option (α × List Char)

/-! ## Space -/

/-- White space within a line. -/
def isGap (c : Char) : Bool := c == ' ' || c == '\t'

def skipGap (cs : List Char) : List Char := cs.dropWhile isGap

/-- The characters of comments and of texts: none that controls, except tabs. -/
def isPlain (c : Char) : Bool := c == '\t' || (0x20 ≤ c.toNat && c.toNat != 0x7F)

/-- What is behind the end of a line, if the line is at its end. -/
def lineBreak : List Char → Option (List Char)
  | [] => some []
  | '\n' :: rest => some rest
  | _ => none

/-- What is behind the end of a line, if nothing but white space and a comment is left of the
line. -/
def endLine (cs : List Char) : Option (List Char) :=
  match skipGap cs with
  | '#' :: comment => lineBreak (comment.dropWhile isPlain)
  | cs => lineBreak cs

/-- Drops white space, ends of lines and comments. -/
def skipSpace : (inComment : Bool) → List Char → List Char
  | _, [] => []
  | false, c :: cs =>
    if isGap c || c == '\n' then skipSpace false cs
    else if c == '#' then skipSpace true cs
    else c :: cs
  | true, c :: cs =>
    if c == '\n' then skipSpace false cs
    else if isPlain c then skipSpace true cs
    else c :: cs

/-! ## Texts -/

/-- The number of some hexadecimal digits. -/
def hexNumber? (cs : List Char) : Option Nat :=
  cs.foldl (fun n c => do return 16 * (← n) + (← hexDigit? c)) (some 0)

/-- The character with a number, which must not be half of a pair. -/
def scalar? (n : Nat) : Option Char :=
  if n < 0xD800 || (0xDFFF < n && n < 0x110000) then some (Char.ofNat n) else none

/-- The character of an escape with one letter. -/
def shortEscape? : Char → Option Char
  | 'b' => some '\x08'
  | 't' => some '\t'
  | 'n' => some '\n'
  | 'f' => some '\x0C'
  | 'r' => some '\r'
  | '"' => some '"'
  | '\\' => some '\\'
  | _ => none

/-- Takes a character before what was read. -/
def consRead (c : Option Char) (read : Option (List Char × List Char)) :
    Option (List Char × List Char) := do
  let c ← c
  let (cs, rest) ← read
  return (c :: cs, rest)

/-- Reads a text in double quotes after the first one. -/
def readBasic : Reader (List Char)
  | [] => none
  | '"' :: rest => some ([], rest)
  | '\\' :: 'u' :: a :: b :: c :: d :: rest =>
    consRead ((hexNumber? [a, b, c, d]).bind scalar?) (readBasic rest)
  | '\\' :: 'U' :: a :: b :: c :: d :: e :: f :: g :: h :: rest =>
    consRead ((hexNumber? [a, b, c, d, e, f, g, h]).bind scalar?) (readBasic rest)
  | '\\' :: e :: rest => consRead (shortEscape? e) (readBasic rest)
  | c :: rest => consRead (if isPlain c then some c else none) (readBasic rest)

/-- Reads a text in single quotes after the first one. -/
def readLiteral : Reader (List Char)
  | [] => none
  | '\'' :: rest => some ([], rest)
  | c :: rest => consRead (if isPlain c then some c else none) (readLiteral rest)

/-- Ends a text behind threefold quotes. Up to two more of them still belong to it. -/
def closeQuotes (quote : Char) (cs : List Char) : List Char × List Char :=
  let more := (cs.take 2).takeWhile (· == quote)
  (more, cs.drop more.length)

/-- Whether a line ends here but for white space. -/
def atLineEnd (cs : List Char) : Bool := (skipGap cs).head? = some '\n'

/-- Reads a text in threefold double quotes after the first ones. A backslash at the end of a line
takes away the white space and ends of lines that follow it; `trimming` says that this is so
here. -/
def readBasicLines : (trimming : Bool) → Reader (List Char)
  | _, [] => none
  | trimming, c :: rest =>
    if trimming && (isGap c || c == '\n') then readBasicLines true rest
    else
      match c, rest with
      | '"', '"' :: '"' :: rest => some (closeQuotes '"' rest)
      | '\\', 'u' :: a :: b :: c :: d :: rest =>
        consRead ((hexNumber? [a, b, c, d]).bind scalar?) (readBasicLines false rest)
      | '\\', 'U' :: a :: b :: c :: d :: e :: f :: g :: h :: rest =>
        consRead ((hexNumber? [a, b, c, d, e, f, g, h]).bind scalar?) (readBasicLines false rest)
      | '\\', e :: rest =>
        if atLineEnd (e :: rest) then readBasicLines true (e :: rest)
        else consRead (shortEscape? e) (readBasicLines false rest)
      | c, rest =>
        consRead (if isPlain c || c == '\n' then some c else none) (readBasicLines false rest)

/-- Reads a text in threefold single quotes after the first ones. -/
def readLiteralLines : Reader (List Char)
  | [] => none
  | '\'' :: '\'' :: '\'' :: rest => some (closeQuotes '\'' rest)
  | c :: rest =>
    consRead (if isPlain c || c == '\n' then some c else none) (readLiteralLines rest)

/-- Drops the end of the line where a text of several lines begins. -/
def dropLineBreak : List Char → List Char
  | '\n' :: cs => cs
  | cs => cs

/-- Reads a text with its quotes. -/
def readText : Reader (List Char)
  | '"' :: '"' :: '"' :: rest => readBasicLines false (dropLineBreak rest)
  | '"' :: rest => readBasic rest
  | '\'' :: '\'' :: '\'' :: rest => readLiteralLines (dropLineBreak rest)
  | '\'' :: rest => readLiteral rest
  | _ => none

/-! ## Keys -/

/-- The characters of keys without quotes. -/
def isBare (c : Char) : Bool := c.isAlphanum || c == '_' || c == '-'

/-- Reads one key. -/
def readSimpleKey : Reader String := fun cs =>
  match cs with
  | '"' :: rest => (readBasic rest).map fun (key, rest) => (String.ofList key, rest)
  | '\'' :: rest => (readLiteral rest).map fun (key, rest) => (String.ofList key, rest)
  | cs =>
    let key := cs.takeWhile isBare
    if key.isEmpty then none else some (String.ofList key, cs.dropWhile isBare)

/-- Reads keys with points between them. Every key takes a character, so `fuel` is any bound on the
length of the text. -/
def readKeySequence : (fuel : Nat) → Reader (List String)
  | 0, _ => none
  | fuel + 1, cs => do
    let (key, rest) ← readSimpleKey (skipGap cs)
    match skipGap rest with
    | '.' :: rest =>
      let (keys, rest) ← readKeySequence fuel rest
      return (key :: keys, rest)
    | rest => return ([key], rest)

/-- How many keys may stand in a dotted key. -/
def maxKeys : Nat := 79

/-- Reads a dotted key. -/
def readKeys : Reader (List String) := fun cs =>
  (readKeySequence cs.length cs).filter fun (keys, _) => keys.length ≤ maxKeys

/-! ## Numbers -/

/-- Digits with single underscores between them, as digits only. -/
def groupedDigits? (isDigit : Char → Bool) (cs : List Char) : Option (List Char) :=
  let groups := cs.splitOn '_'
  if groups.all fun group => !group.isEmpty && group.all isDigit then some groups.flatten else none

/-- The value of digits in a base. -/
def numberIn (base : Nat) (digits : List Char) : Nat :=
  digits.foldl (fun n c => base * n + (hexDigit? c).getD 0) 0

/-- Half the words of 64 bits: the numbers with sign reach from this far below zero to just below
this. -/
def integerLimit : Int := UInt64.size / 2

/-- A number that fits a word with sign. -/
def integer? (n : Int) : Option Value :=
  if -integerLimit ≤ n && n < integerLimit then some (.integer n) else none

/-- Digits of a whole number, without needless zeros in front. -/
def wholeDigits? (cs : List Char) : Option (List Char) := do
  let digits ← groupedDigits? Char.isDigit cs
  if 1 < digits.length && digits.head? = some '0' then none else some digits

/-- An integer in base ten. -/
def decimalInteger? (token : List Char) : Option Value := do
  let (negative, cs) := signed token
  let digits ← wholeDigits? cs
  integer? (if negative then -(ofDigits digits : Int) else ofDigits digits)

/-- An integer in another base. -/
def otherInteger? : List Char → Option Value
  | '0' :: 'x' :: cs =>
    (groupedDigits? (fun c => (hexDigit? c).isSome) cs).bind fun ds => integer? (numberIn 16 ds)
  | '0' :: 'o' :: cs =>
    (groupedDigits? (fun c => '0' ≤ c && c ≤ '7') cs).bind fun ds => integer? (numberIn 8 ds)
  | '0' :: 'b' :: cs =>
    (groupedDigits? (fun c => c == '0' || c == '1') cs).bind fun ds => integer? (numberIn 2 ds)
  | _ => none

/-- A float. One above the range is none. -/
def float? (token : List Char) : Option Value := do
  let (negative, cs) := signed token
  if cs = "inf".toList then return .float (.infinity negative)
  else if cs = "nan".toList then return .float .nan
  else
    let isPart (c : Char) := c.isDigit || c == '_'
    let whole ← wholeDigits? (cs.takeWhile isPart)
    let afterWhole := cs.dropWhile isPart
    let (part, afterPart) ← match afterWhole with
      | '.' :: rest => do
        let part ← groupedDigits? Char.isDigit (rest.takeWhile isPart)
        pure (part, rest.dropWhile isPart)
      | rest => pure ([], rest)
    let exponent ← match afterPart with
      | [] => if part.isEmpty then none else pure 0
      | c :: rest =>
        if c = 'e' || c = 'E' then do
          let (down, ds) := signed rest
          let ds ← groupedDigits? Char.isDigit ds
          pure (if down then -(ofDigits ds : Int) else ofDigits ds)
        else none
    let x := ofDecimal negative (ofDigits (whole ++ part)) (exponent - part.length)
    if x = .infinity false then none else return .float x

/-! ## Dates and times -/

/-- The number of two digits. -/
def twoDigits? (a b : Char) : Option Nat :=
  if a.isDigit && b.isDigit then some (ofDigits [a, b]) else none

/-- How many days a month has. -/
def daysOf (year month : Nat) : Nat :=
  if month = 2 then
    if year % 4 = 0 && (year % 100 != 0 || year % 400 = 0) then 29 else 28
  else if month ∈ [4, 6, 9, 11] then 30
  else 31

/-- What is behind a date. -/
def afterDate? : List Char → Option (List Char)
  | a :: b :: c :: d :: '-' :: e :: f :: '-' :: g :: h :: rest => do
    let year := 100 * (← twoDigits? a b) + (← twoDigits? c d)
    let month ← twoDigits? e f
    let day ← twoDigits? g h
    if 1 ≤ month && month ≤ 12 && 1 ≤ day && day ≤ daysOf year month then some rest else none
  | _ => none

/-- What is behind hours and minutes. -/
def afterMinutes? : List Char → Option (List Char)
  | a :: b :: ':' :: c :: d :: rest => do
    if (← twoDigits? a b) ≤ 23 && (← twoDigits? c d) ≤ 59 then some rest else none
  | _ => none

/-- What is behind a time. A minute may have a leap second, and a second any number of decimals. -/
def afterTime? (cs : List Char) : Option (List Char) := do
  match ← afterMinutes? cs with
  | ':' :: e :: f :: rest =>
    if (← twoDigits? e f) ≤ 60 then
      match rest with
      | '.' :: c :: decimals => if c.isDigit then some (decimals.dropWhile Char.isDigit) else none
      | rest => some rest
    else none
  | _ => none

/-- Whether this is how far a time is ahead of the universal one, or nothing. -/
def isOffset : List Char → Bool
  | [] => true
  | ['Z'] => true
  | ['z'] => true
  | '+' :: cs => afterMinutes? cs = some []
  | '-' :: cs => afterMinutes? cs = some []
  | _ => false

/-- Whether this is a date, a time or both. -/
def isMoment (cs : List Char) : Bool :=
  match afterDate? cs with
  | some [] => true
  | some (c :: rest) =>
    (c == 'T' || c == 't' || c == ' ') && ((afterTime? rest).map isOffset).getD false
  | none => afterTime? cs = some []

/-! ## Values -/

/-- A value of one word. -/
def word? (token : List Char) : Option Value :=
  if token = "true".toList then some (.boolean true)
  else if token = "false".toList then some (.boolean false)
  else if isMoment token then some (.moment (String.ofList token))
  else (decimalInteger? token) <|> (otherInteger? token) <|> (float? token)

/-- The characters of a value without quotes. -/
def isWordPart (c : Char) : Bool := !(isGap c || ['\n', '#', ',', ']', '\x7d'].contains c)

/-- Reads a value without quotes. A date and its time may have one blank between them. -/
def readWord : Reader Value := fun cs =>
  let token := cs.takeWhile isWordPart
  match cs.dropWhile isWordPart with
  | ' ' :: rest =>
    let both := token ++ ' ' :: rest.takeWhile isWordPart
    if isMoment both then some (.moment (String.ofList both), rest.dropWhile isWordPart)
    else (word? token).map fun value => (value, ' ' :: rest)
  | rest => (word? token).map fun value => (value, rest)

/-- Reads the elements of an array up to its closing bracket. An element takes at least one
character, so `fuel` is any bound on the length of the text. -/
def readElements (element : Reader Value) : (fuel : Nat) → Reader (List Value)
  | 0, _ => none
  | fuel + 1, cs =>
    match skipSpace false cs with
    | ']' :: rest => some ([], rest)
    | cs => do
      let (x, rest) ← element cs
      match skipSpace false rest with
      | ',' :: rest =>
        let (xs, rest) ← readElements element fuel rest
        return (x :: xs, rest)
      | ']' :: rest => return ([x], rest)
      | _ => none

/-- Reads a key and what is behind the sign of equality, which is not the end of the line. -/
def readAssignment (value : Reader Value) : Reader (List String × Value) := fun cs => do
  let (keys, rest) ← readKeys cs
  match rest with
  | '=' :: rest =>
    let (x, rest) ← value (skipGap rest)
    return ((keys, x), rest)
  | _ => none

/-- Reads the members of a table between braces up to the closing one. A member takes at least one
character, so `fuel` is any bound on the length of the text. -/
def readMembers (value : Reader Value) : (fuel : Nat) → Keyed Value → Reader (Keyed Value)
  | 0, _, _ => none
  | fuel + 1, held, cs => do
    let ((keys, x), rest) ← readAssignment value cs
    let held ← Value.defineAt held keys.dropLast (lastKey keys) x
    match skipGap rest with
    | ',' :: rest => readMembers value fuel held rest
    | '\x7d' :: rest => return (held, rest)
    | _ => none

/-- Reads a table between braces behind the opening one. -/
def readTable (value : Reader Value) : Reader (Keyed Value) := fun cs =>
  match skipGap cs with
  | '\x7d' :: rest => some ([], rest)
  | _ => readMembers value cs.length [] cs

/-- How many arrays and tables may stand inside one another. -/
def maxDepth : Nat := 79

/-- Reads a value. `depth` is the number of arrays and tables that may still be opened. -/
def readValue : (depth : Nat) → Reader Value
  | depth, cs =>
    match cs with
    | '[' :: rest =>
      match depth with
      | 0 => none
      | depth + 1 =>
        (readElements (readValue depth) rest.length rest).map fun (xs, rest) => (.array xs, rest)
    | '\x7b' :: rest =>
      match depth with
      | 0 => none
      | depth + 1 =>
        (readTable (readValue depth) rest).map fun (members, rest) => (.table false members, rest)
    | '"' :: _ => (readText cs).map fun (s, rest) => (.text (String.ofList s), rest)
    | '\'' :: _ => (readText cs).map fun (s, rest) => (.text (String.ofList s), rest)
    | _ => readWord cs

/-! ## Documents -/

/-- Reads a header behind its opening brackets. -/
def readHeader (statement : List String → Statement) (close cs : List Char) :
    Option (Statement × List Char) := do
  let (keys, rest) ← readKeys cs
  if close.isPrefixOf rest then
    return (statement keys, ← endLine (rest.drop close.length))
  else none

/-- Reads a statement with the rest of its line, or a line that says nothing. -/
def readStatement : Reader (Option Statement) := fun cs =>
  match skipGap cs with
  | '[' :: '[' :: rest =>
    (readHeader .arrayHeader [']', ']'] rest).map fun (statement, rest) => (some statement, rest)
  | '[' :: rest =>
    (readHeader .header [']'] rest).map fun (statement, rest) => (some statement, rest)
  | cs =>
    match endLine cs with
    | some rest => some (none, rest)
    | none => do
      let ((keys, value), rest) ← readAssignment (readValue maxDepth) cs
      return (some (.assignment keys value), ← endLine rest)

/-- Reads statements up to the end of a text. A line takes at least one character, so `fuel` is any
bound on the length of the text. -/
def readStatements : (fuel : Nat) → List Char → Option (List Statement)
  | _, [] => some []
  | 0, _ => none
  | fuel + 1, cs => do
    let (statement, rest) ← readStatement cs
    let others ← readStatements fuel rest
    return statement.toList ++ others

theorem readStatements_cons (fuel : Nat) (c : Char) (cs : List Char) :
    readStatements (fuel + 1) (c :: cs) = do
      let (statement, rest) ← readStatement (c :: cs)
      let others ← readStatements fuel rest
      return statement.toList ++ others := rfl

/-- The text without a mark of the order of bytes in front. -/
def dropMark : List Char → List Char
  | c :: cs => if c = '\uFEFF' then cs else c :: cs
  | [] => []

/-- The text with line feeds alone at the ends of its lines. -/
def dropReturns : List Char → List Char
  | [] => []
  | '\r' :: '\n' :: cs => '\n' :: dropReturns cs
  | c :: cs => c :: dropReturns cs

/-- The statements of a text. -/
def statements? (text : String) : Option (List Statement) :=
  let cs := dropReturns (dropMark text.toList)
  readStatements cs.length cs

/-- Reads a document. -/
def readDocument (text : String) : Option Entries := (statements? text).bind ofStatements

theorem readDocument_empty : readDocument "" = some [] := by
  simp [readDocument, statements?, dropMark, dropReturns, readStatements, ofStatements]

end RaidProvision.Toml

import RaidProvision.Utility.Awk.Syntax

/-!
# The words of scripts for records

A script is taken apart into numbers, texts, patterns, names and marks. A slash begins a pattern
where no operand stands before it. The ends of lines count.

* `unquote_nil`: an empty text stands for itself.
-/
namespace RaidProvision.Awk

inductive Token where
  | number (x : Binary64)
  | text (s : String)
  | pattern (cs : List Char)
  | name (s : String)
  /-- A name with a parenthesis right behind it. -/
  | call (s : String)
  | mark (s : String)
  | newline
  deriving DecidableEq, Repr

/-- Marks, the longer ones first. -/
def marks : List String :=
  ["&&", "||", "++", "--", "+=", "-=", "*=", "/=", "%=", "^=", "==", "<=", ">=", "!=", "!~", ">>",
    "\x7b", "\x7d", "(", ")", "[", "]", ";", ",", "+", "-", "*", "/", "%", "^", "!",
    ">", "<", "|", "?", ":", "~", "$", "="]

/-- Names with a meaning of their own. -/
def keywords : List String :=
  ["BEGIN", "END", "function", "func", "if", "else", "while", "for", "do", "break", "continue",
    "next", "nextfile", "exit", "return", "delete", "in", "getline", "print", "printf"]

/-- Whether an operand may end here, so that a slash divides. -/
def Token.endsOperand : Token → Bool
  | number _ | text _ | pattern _ | call _ => true
  | name s => !keywords.contains s
  | mark s => s == ")" || s == "]" || s == "$" || s == "++" || s == "--"
  | newline => false

/-- Takes characters up to a mark that no backslash stands before. -/
def takeUpTo (mark : Char) : List Char → Option (List Char × List Char)
  | [] => none
  | '\\' :: c :: rest =>
    (takeUpTo mark rest).map fun (inside, after) => ('\\' :: c :: inside, after)
  | c :: rest =>
    if c = mark then some ([], rest)
    else if c = '\n' then none
    else (takeUpTo mark rest).map fun (inside, after) => (c :: inside, after)

/-- The characters that a text with escapes stands for. `fuel` bounds its length. -/
def unquote : (fuel : Nat) → List Char → List Char
  | fuel + 1, '\\' :: '"' :: rest => '"' :: unquote fuel rest
  | fuel + 1, '\\' :: '/' :: rest => '/' :: unquote fuel rest
  | fuel + 1, '\\' :: '\n' :: rest => unquote fuel rest
  | fuel + 1, '\\' :: rest =>
    let (c, after) := Escape.take rest
    c :: unquote fuel after
  | fuel + 1, c :: rest => c :: unquote fuel rest
  | _, _ => []

theorem unquote_nil (fuel : Nat) : unquote fuel [] = [] := by
  cases fuel <;> rfl

/-- A text with escapes. -/
def unquoted (cs : List Char) : String := String.ofList (unquote cs.length cs)

/-- A pattern without the escapes that stand for one character. -/
def plainPattern : List Char → List Char
  | '\\' :: '\\' :: rest => '\\' :: '\\' :: plainPattern rest
  | '\\' :: c :: rest =>
    if c == '"' || c == '/' then c :: plainPattern rest
    else
      match Escape.letter? c with
      | some plain => plain :: plainPattern rest
      | none => '\\' :: c :: plainPattern rest
  | c :: rest => c :: plainPattern rest
  | [] => []

def startsName (c : Char) : Bool := c.isAlpha || c == '_'

def goesOnName (c : Char) : Bool := c.isAlphanum || c == '_'

/-- Takes the next token, behind an operand or not. -/
def takeToken (afterOperand : Bool) (cs : List Char) : Option (Token × List Char) :=
  match cs with
  | '\n' :: rest => some (.newline, rest)
  | '"' :: rest =>
    (takeUpTo '"' rest).map fun (inside, after) => (.text (unquoted inside), after)
  | cs =>
    let word := cs.takeWhile goesOnName
    let after := cs.drop word.length
    let length := Printf.realLength cs
    let s := String.ofList word
    if (cs.head?).any startsName then
      let calls := after.head? = some '(' && !keywords.contains s && (primitives.lookup s).isNone
      some (if calls then .call s else .name s, after)
    else if 0 < length then
      some (.number (leadingNumber (String.ofList (cs.take length))), cs.drop length)
    else if cs.head? = some '/' && !afterOperand then
      (takeUpTo '/' (cs.drop 1)).map fun (inside, after) => (.pattern (plainPattern inside), after)
    else
      (marks.find? fun mark => mark.toList.isPrefixOf cs).map fun mark =>
        (.mark mark, cs.drop mark.length)

/-- Drops white space within a line, joined lines and comments. -/
def dropSpace : List Char → List Char
  | ' ' :: rest => dropSpace rest
  | '\t' :: rest => dropSpace rest
  | '\r' :: rest => dropSpace rest
  | '\\' :: '\n' :: rest => dropSpace rest
  | '#' :: rest => rest.dropWhile (· != '\n')
  | rest => rest

/-- The tokens of a script, of which some may have been taken already. `fuel` bounds its length. -/
def tokensFrom : (fuel : Nat) → (afterOperand : Bool) → List Char → Option (List Token)
  | 0, _, _ => some []
  | fuel + 1, afterOperand, cs =>
    match dropSpace cs with
    | [] => some []
    | cs => do
      let (token, rest) ← takeToken afterOperand cs
      return token :: (← tokensFrom fuel token.endsOperand rest)

/-- The tokens of a script, or nothing if it has something else. -/
def tokens? (s : String) : Option (List Token) := tokensFrom (s.length + 1) false s.toList

end RaidProvision.Awk

import RaidProvision.Regex.Basic

/-!
# Reading regular expressions

There are two ways to write them. In the basic one, operators that are not from of old stand behind
a backslash; in the extended one, a backslash takes their meaning away.

* `ofText_literal`: a letter stands for itself.
-/
namespace RaidProvision.Regex

open RaidProvision.Text

/-- How expressions are written. -/
inductive Dialect where
  | basic
  | extended
  deriving DecidableEq, Repr

/-- Why an expression cannot be read. -/
inductive RegexFault where
  | unmatchedBracket
  | unmatchedOpening
  | unmatchedClosing
  | unmatchedBrace
  | invalidReference
  | trailingBackslash
  deriving DecidableEq, Repr

def RegexFault.message : RegexFault → String
  | unmatchedBracket => "Unmatched [, [^, [:, [., or [="
  | unmatchedOpening => "Unmatched ( or \\("
  | unmatchedClosing => "Unmatched ) or \\)"
  | unmatchedBrace => "Invalid content of \\\x7b\\\x7d"
  | invalidReference => "Invalid back reference"
  | trailingBackslash => "Trailing backslash"

/-- A part of a written expression. -/
inductive Lexeme where
  /-- What takes up characters or is an edge. -/
  | atom (r : Regex)
  | repeated (least : Nat) (most : Option Nat)
  | opening
  | closing
  | bar
  deriving DecidableEq, Repr

/-- What a backslash and a letter stand for in both dialects. -/
def escaped? (c : Char) : Option Regex :=
  match c with
  | 'w' => some (.member (.ofClass false .word))
  | 'W' => some (.member (.ofClass true .word))
  | 's' => some (.member (.ofClass false .space))
  | 'S' => some (.member (.ofClass true .space))
  | '<' => some (.edge .wordStart)
  | '>' => some (.edge .wordEnd)
  | 'b' => some (.edge .wordEdge)
  | 'B' => some (.edge .noWordEdge)
  | '\x60' => some (.edge .textStart)
  | '\'' => some (.edge .textEnd)
  | c => if c.isDigit && c != '0' then some (.again (c.toNat - '0'.toNat)) else none

/-- The numbers of a repetition, up to a closing mark. -/
def bounds? (closing : List Char) (cs : List Char) : Option (Nat × Option Nat × List Char) :=
  let number (cs : List Char) : Option Nat × List Char :=
    let digits := cs.takeWhile Char.isDigit
    (if digits.isEmpty then none else some (Nat.ofDigitChars 10 digits 0), cs.drop digits.length)
  let close (cs : List Char) : Option (List Char) :=
    if closing.isPrefixOf cs then some (cs.drop closing.length) else none
  let (first, rest) := number cs
  match rest with
  | ',' :: rest =>
    let (last, rest) := number rest
    (close rest).map (first.getD 0, last, ·)
  | rest => first.bind fun n => (close rest).map (n, some n, ·)

/-- Whether nothing was read yet that could be repeated. -/
def atStart : Option Lexeme → Bool
  | none | some .opening | some .bar => true
  | _ => false

/-- Reads the next part behind a backslash. -/
def afterBackslash (dialect : Dialect) (cs : List Char) :
    Except RegexFault (Lexeme × List Char) :=
  match cs with
  | [] => .error .trailingBackslash
  | c :: rest =>
    let operator : Option (Except RegexFault (Lexeme × List Char)) :=
      if dialect = .extended then none
      else
        match c with
        | '(' => some (.ok (.opening, rest))
        | ')' => some (.ok (.closing, rest))
        | '|' => some (.ok (.bar, rest))
        | '+' => some (.ok (.repeated 1 none, rest))
        | '?' => some (.ok (.repeated 0 (some 1), rest))
        | '{' =>
          match bounds? ['\\', '}'] rest with
          | some (least, most, rest) => some (.ok (.repeated least most, rest))
          | none => some (.error .unmatchedBrace)
        | _ => none
    match operator with
    | some result => result
    | none => .ok (.atom ((escaped? c).getD (.literal c)), rest)

/-- Reads the next part of an expression, after another one. -/
def lexeme (dialect : Dialect) (before : Option Lexeme) (c : Char) (rest : List Char) :
    Except RegexFault (Lexeme × List Char) :=
  let literal : Except RegexFault (Lexeme × List Char) := .ok (.atom (.literal c), rest)
  let extended := dialect = .extended
  let operator (part : Lexeme) := if extended then .ok (part, rest) else literal
  match c with
  | '\\' => afterBackslash dialect rest
  | '.' => .ok (.atom .any, rest)
  | '[' =>
    match CharSet.read? ['^'] rest with
    | some (set, rest) => .ok (.atom (.member set), rest)
    | none => .error .unmatchedBracket
  | '*' =>
    if !extended && (atStart before || before = some (.atom (.edge .textStart))) then literal
    else .ok (.repeated 0 none, rest)
  | '^' => if extended || atStart before then .ok (.atom (.edge .textStart), rest) else literal
  | '$' =>
    let last := rest.isEmpty || "\\)".toList.isPrefixOf rest || "\\|".toList.isPrefixOf rest
    if extended || last then .ok (.atom (.edge .textEnd), rest) else literal
  | '(' => operator .opening
  | ')' => operator .closing
  | '|' => operator .bar
  | '+' => operator (.repeated 1 none)
  | '?' => operator (.repeated 0 (some 1))
  | '{' =>
    match if extended && !atStart before then bounds? ['}'] rest else none with
    | some (least, most, rest) => .ok (.repeated least most, rest)
    | none => literal
  | _ => literal

/-- Tells the parts of an expression apart. `fuel` bounds its length. -/
def lexemes (dialect : Dialect) :
    (fuel : Nat) → Option Lexeme → List Char → Except RegexFault (List Lexeme)
  | 0, _, _ => .ok []
  | _, _, [] => .ok []
  | fuel + 1, before, c :: rest => do
    let (part, rest) ← lexeme dialect before c rest
    return part :: (← lexemes dialect fuel (some part) rest)

/-- What is left of an expression, and the number of the next group. -/
structure Cursor where
  rest : List Lexeme
  next : Nat

/-- A reader of a part of an expression. -/
abbrev RegexReader (α : Type) := StateT Cursor (Except RegexFault) α

/-- Repeats an expression as the parts behind it say. -/
def repeatAll : (fuel : Nat) → Regex → RegexReader Regex
  | 0, r => return r
  | fuel + 1, r => do
    match (← get).rest with
    | .repeated least most :: rest =>
      modify fun cursor => { cursor with rest := rest }
      repeatAll fuel (.times least most r)
    | _ => return r

/-- Puts two expressions one after the other. -/
def andThen : Regex → Regex → Regex
  | .empty, b => b
  | a, .empty => a
  | a, b => .sequence a b

section

variable (dialect : Dialect)

mutual

/-- Reads a choice. `fuel` bounds the number of parts. -/
def readEither : (fuel : Nat) → (inside : Bool) → RegexReader Regex
  | 0, _ => return .empty
  | fuel + 1, inside => do
    let first ← readSequence fuel inside
    match (← get).rest with
    | .bar :: rest =>
      modify fun cursor => { cursor with rest := rest }
      return .either first (← readEither fuel inside)
    | _ => return first

/-- Reads a sequence. -/
def readSequence : (fuel : Nat) → (inside : Bool) → RegexReader Regex
  | 0, _ => return .empty
  | fuel + 1, inside => do
    match (← get).rest with
    | [] | .bar :: _ => return .empty
    | .closing :: rest =>
      if inside then return .empty
      if dialect = .basic then throw .unmatchedClosing
      modify fun cursor => { cursor with rest := rest }
      return (Regex.literal ')').andThen (← readSequence fuel inside)
    | .repeated .. :: rest =>
      modify fun cursor => { cursor with rest := rest }
      readSequence fuel inside
    | .atom r :: rest =>
      modify fun cursor => { cursor with rest := rest }
      let r ← repeatAll fuel r
      return r.andThen (← readSequence fuel inside)
    | .opening :: rest =>
      let number := (← get).next
      set (Cursor.mk rest (number + 1))
      let r ← readEither fuel true
      match (← get).rest with
      | .closing :: rest =>
        modify fun cursor => { cursor with rest := rest }
        let r ← repeatAll fuel (.group number r)
        return r.andThen (← readSequence fuel inside)
      | _ => throw .unmatchedOpening

end

end

/-- The greatest number of a group that is asked for again. -/
def greatestReference : Regex → Nat
  | sequence a b | either a b => max (greatestReference a) (greatestReference b)
  | times _ _ a | group _ a => greatestReference a
  | again number => number
  | _ => 0

/-- Reads an expression. -/
def ofText (dialect : Dialect) (s : String) : Except RegexFault Regex := do
  let parts ← lexemes dialect s.length none s.toList
  let (r, cursor) ← (readEither dialect (2 * parts.length + 2) false).run ⟨parts, 1⟩
  if greatestReference r < cursor.next then return r else throw .invalidReference

theorem ofText_literal (dialect : Dialect) : ofText dialect "a" = .ok (.literal 'a') := by
  cases dialect <;> rfl

end RaidProvision.Regex

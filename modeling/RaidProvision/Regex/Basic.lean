import RaidProvision.Text.CharSet

/-!
# Regular expressions

A regular expression matches at a place of a text if it takes up some characters from there on. Of
all ways to match, the one that starts first counts, and of these the longest one. Parts of the text
that groups took up can be asked for again.

* `ends_literal`: a character takes up exactly itself.
* `ends_either`: a choice takes up what one of its sides takes up.
-/
namespace RaidProvision

open RaidProvision.Text

/-- Places that take up no characters. -/
inductive Edge where
  | textStart
  | textEnd
  | wordStart
  | wordEnd
  | wordEdge
  | noWordEdge
  deriving DecidableEq, Repr

/-- A regular expression. -/
inductive Regex where
  | empty
  | literal (c : Char)
  | any
  | member (set : CharSet)
  | edge (kind : Edge)
  | sequence (a b : Regex)
  | either (a b : Regex)
  /-- At least and at most some times. -/
  | times (least : Nat) (most : Option Nat) (a : Regex)
  | group (number : Nat) (a : Regex)
  /-- What a group took up before. -/
  | again (number : Nat)
  deriving DecidableEq, Repr

/-- A place in a text. -/
structure Position where
  /-- The character before. -/
  previous : Option Char
  rest : List Char
  /-- What groups took up. -/
  groups : List (Nat × List Char)
  deriving DecidableEq, Repr

namespace Position

def ofText (cs : List Char) : Position := ⟨none, cs, []⟩

/-- The place behind some characters. -/
def advance (position : Position) (count : Nat) : Position :=
  { position with
    previous := ((position.rest.take count).getLast?).or position.previous
    rest := position.rest.drop count }

/-- What stands between a place and a later one. -/
def upTo (position later : Position) : List Char :=
  position.rest.take (position.rest.length - later.rest.length)

def isWord (c : Char) : Bool := c.isAlphanum || c == '_'

def wordBefore (position : Position) : Bool := position.previous.any isWord
def wordAfter (position : Position) : Bool := position.rest.head?.any isWord

def isAt (position : Position) : Edge → Bool
  | .textStart => position.previous.isNone
  | .textEnd => position.rest.isEmpty
  | .wordStart => !position.wordBefore && position.wordAfter
  | .wordEnd => position.wordBefore && !position.wordAfter
  | .wordEdge => position.wordBefore != position.wordAfter
  | .noWordEdge => position.wordBefore == position.wordAfter

/-- The place behind the next character if that fits. -/
def one (position : Position) (fits : Char → Bool) : List Position :=
  match position.rest with
  | [] => []
  | c :: _ => if fits c then [position.advance 1] else []

/-- Takes up some characters that stand next. -/
def take (position : Position) (same : Char → Char → Bool) (cs : List Char) : List Position :=
  let next := position.rest.take cs.length
  if next.length = cs.length && (next.zip cs).all fun (a, b) => same a b then
    [position.advance cs.length]
  else []

end Position

namespace Regex

/-- The places that a step leads to from any of some places, each once. -/
def spread (step : Position → List Position) (places : List Position) : List Position :=
  (places.flatMap step).eraseDups

/-- The places after each number of steps, the greatest number first. Steps beyond the least number
have to go on. -/
def stages (step : Position → List Position) :
    (fuel : Nat) → (least : Nat) → (most : Option Nat) → List Position → List Position
  | 0, least, _, places => if least = 0 then places else []
  | fuel + 1, least, most, places =>
    if places.isEmpty then []
    else
      let here := if least = 0 then places else []
      if most = some 0 then here
      else
        let onward (place : Position) : List Position :=
          if least = 0 then (step place).filter fun next => next.rest.length < place.rest.length
          else step place
        stages step fuel (least - 1) (most.map (· - 1)) (spread onward places) ++ here

section

variable (fold : Bool)

/-- Whether characters are the same, in either case if `fold` is set. -/
def same (a b : Char) : Bool := a == b || (fold && a.toLower == b.toLower)

def inSet (set : CharSet) (c : Char) : Bool :=
  if fold then (set.names c || set.names c.toLower || set.names c.toUpper) != set.negated
  else set.mem c

/-- The places up to which an expression takes up characters. -/
def ends : Regex → Position → List Position
  | empty, place => [place]
  | literal c, place => place.one (same fold c)
  | any, place => place.one fun _ => true
  | member set, place => place.one (inSet fold set)
  | edge kind, place => if place.isAt kind then [place] else []
  | sequence a b, place => spread (ends b) (ends a place)
  | either a b, place => (ends a place ++ ends b place).eraseDups
  | times least most a, place =>
    (stages (ends a) (place.rest.length + least + 1) least most [place]).eraseDups
  | group number a, place =>
    (ends a place).map fun later =>
      { later with
        groups := (number, place.upTo later) :: later.groups.filter (·.1 != number) }
  | again number, place =>
    match place.groups.lookup number with
    | some cs => place.take (same fold) cs
    | none => []

theorem ends_literal (c : Char) (place : Position) :
    ends false (literal c) place = place.one (c == ·) := by
  have h : same false c = (c == ·) := by
    funext x
    simp [same]
  simp [ends, h]

theorem ends_either (a b : Regex) (place later : Position) :
    later ∈ ends fold (either a b) place ↔
      later ∈ ends fold a place ∨ later ∈ ends fold b place := by
  simp [ends]

/-- The longest of some ways. -/
def longest? (ways : List Position) : Option Position :=
  ways.foldl (fun best way =>
    match best with
    | none => some way
    | some found => if way.rest.length < found.rest.length then some way else best) none

/-- A part of a text that an expression takes up. -/
structure Match where
  start : Position
  finish : Position
  deriving DecidableEq, Repr

def Match.text (found : Match) : List Char := found.start.upTo found.finish

/-- What a group took up; the group 0 is everything. -/
def Match.group (found : Match) (number : Nat) : List Char :=
  if number = 0 then found.text else (found.finish.groups.lookup number).getD []

/-- The first match from a place on that an `accept`ed way leads to. `fuel` bounds the number of
places. -/
def findFrom (r : Regex) (accept : Position → Position → Bool) :
    (fuel : Nat) → Position → Option Match
  | 0, _ => none
  | fuel + 1, place =>
    match longest? ((r.ends fold place).filter (accept place)) with
    | some finish => some ⟨place, finish⟩
    | none => if place.rest.isEmpty then none else findFrom r accept fuel (place.advance 1)

/-- The first match from a place on. -/
def find? (r : Regex) (accept : Position → Position → Bool) (place : Position) : Option Match :=
  findFrom fold r accept (place.rest.length + 1) place

end

/-- The greatest number of a group. -/
def groupCount : Regex → Nat
  | sequence a b | either a b => max a.groupCount b.groupCount
  | times _ _ a => a.groupCount
  | group number a => max number a.groupCount
  | _ => 0

end Regex
end RaidProvision

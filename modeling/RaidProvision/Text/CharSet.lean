/-!
# Sets of characters

A set of characters in a pattern is given by single characters, ranges and named classes, or by what
it leaves out.

* `mem_negated`: what a set leaves out is not in it.
-/
namespace RaidProvision.Text

/-- A named class of ASCII characters. -/
inductive CharClass where
  | alnum
  | alpha
  | blank
  | control
  | digit
  | graph
  | lower
  | print
  | punct
  | space
  | upper
  | hexDigit
  /-- Letters, digits and the underscore. -/
  | word
  deriving DecidableEq, Repr

namespace CharClass

/-- The name between colons. -/
def ofName? : String → Option CharClass
  | "alnum" => some alnum
  | "alpha" => some alpha
  | "blank" => some blank
  | "cntrl" => some control
  | "digit" => some digit
  | "graph" => some graph
  | "lower" => some lower
  | "print" => some print
  | "punct" => some punct
  | "space" => some space
  | "upper" => some upper
  | "xdigit" => some hexDigit
  | _ => none

def isControl (c : Char) : Bool := c.toNat < 0x20 || c.toNat == 0x7F
def isGraph (c : Char) : Bool := 0x20 < c.toNat && c.toNat < 0x7F

def mem : CharClass → Char → Bool
  | alnum, c => c.isAlphanum
  | alpha, c => c.isAlpha
  | blank, c => c == ' ' || c == '\t'
  | control, c => isControl c
  | digit, c => c.isDigit
  | graph, c => isGraph c
  | lower, c => c.isLower
  | print, c => c == ' ' || isGraph c
  | punct, c => isGraph c && !c.isAlphanum
  | space, c => c == ' ' || (9 ≤ c.toNat && c.toNat ≤ 13)
  | upper, c => c.isUpper
  | hexDigit, c => c.isDigit || ('a' ≤ c && c ≤ 'f') || ('A' ≤ c && c ≤ 'F')
  | word, c => c.isAlphanum || c == '_'

end CharClass

/-- A set of characters. -/
structure CharSet where
  negated : Bool
  /-- First and last characters; a single character is both. -/
  ranges : List (Char × Char)
  classes : List CharClass
  deriving DecidableEq, Repr

namespace CharSet

def ofClass (negated : Bool) (charClass : CharClass) : CharSet := ⟨negated, [], [charClass]⟩

/-- Whether a character is named by a set. -/
def names (set : CharSet) (c : Char) : Bool :=
  set.ranges.any (fun (first, last) => first ≤ c && c ≤ last) || set.classes.any (·.mem c)

def mem (set : CharSet) (c : Char) : Bool := set.names c != set.negated

theorem mem_negated (set : CharSet) (c : Char) :
    ({ set with negated := true } : CharSet).mem c = !set.names c := by
  simp [mem, names]

/-- Adds a character that may be the end of a range begun before. -/
def addRange (set : CharSet) (first last : Char) : CharSet :=
  { set with ranges := (first, last) :: set.ranges }

/-- The name of a class after `[:`, with what follows. -/
def className? (cs : List Char) : Option (CharClass × List Char) :=
  let name := cs.takeWhile Char.isAlpha
  match cs.drop name.length with
  | ':' :: ']' :: rest => (CharClass.ofName? (String.ofList name)).map (·, rest)
  | _ => none

/-- Reads the members of a set after its opening bracket and a mark that negates it, up to the
closing bracket. A bracket in front is a member. `fuel` is a bound on the length. -/
def readMembers : (fuel : Nat) → (first : Bool) → CharSet → List Char → Option (CharSet × List Char)
  | 0, _, _, _ => none
  | fuel + 1, first, set, cs =>
    match cs with
    | [] => none
    | ']' :: rest => if first then readRange fuel set ']' rest else some (set, rest)
    | '[' :: ':' :: rest =>
      match className? rest with
      | some (charClass, rest) =>
        readMembers fuel false { set with classes := charClass :: set.classes } rest
      | none => readRange fuel set '[' (':' :: rest)
    | '[' :: '.' :: c :: '.' :: ']' :: rest => readRange fuel set c rest
    | '[' :: '=' :: c :: '=' :: ']' :: rest => readMembers fuel false (set.addRange c c) rest
    | c :: rest => readRange fuel set c rest
where
  /-- Goes on after a character that may begin a range. -/
  readRange (fuel : Nat) (set : CharSet) (c : Char) (rest : List Char) :
      Option (CharSet × List Char) :=
    match fuel with
    | 0 => none
    | fuel + 1 =>
      match rest with
      | '-' :: ']' :: _ => readMembers fuel false (set.addRange c c) rest
      | '-' :: last :: rest => readMembers fuel false (set.addRange c last) rest
      | rest => readMembers fuel false (set.addRange c c) rest

/-- Reads a set after its opening bracket. -/
def read? (marks : List Char) (cs : List Char) : Option (CharSet × List Char) :=
  match cs with
  | [] => none
  | c :: rest =>
    if marks.contains c then readMembers (2 * rest.length + 1) true ⟨true, [], []⟩ rest
    else readMembers (2 * cs.length + 1) true ⟨false, [], []⟩ cs

end CharSet
end RaidProvision.Text

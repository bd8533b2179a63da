import RaidProvision.FileTree.Path
import RaidProvision.Text.CharSet

/-!
# Patterns of the shell

In a pattern `*` stands for any characters, `?` for one and a bracket for one of a set; quoted
characters stand for themselves. Patterns choose the case of a choice, the part of a value that is
left out, and names of files.

* `matches_literal`: a pattern of characters matches exactly these.
* `matches_many`: `*` matches everything.
-/
namespace RaidProvision.Shell

open RaidProvision.Text

/-- A character of a word and whether it is quoted. -/
abbrev Glyph := Char × Bool

/-- A part of a pattern. -/
inductive Wildcard where
  | one (c : Char)
  | any
  | many
  | member (set : CharSet)
  deriving DecidableEq, Repr

namespace Wildcard

/-- Reads a pattern. `fuel` bounds its length. -/
def readAll : (fuel : Nat) → List Glyph → List Wildcard
  | 0, _ => []
  | _, [] => []
  | fuel + 1, (c, quoted) :: rest =>
    if quoted then one c :: readAll fuel rest
    else if c == '*' then many :: readAll fuel rest
    else if c == '?' then any :: readAll fuel rest
    else if c == '\\' then
      match rest with
      | (next, _) :: rest => one next :: readAll fuel rest
      | [] => [one c]
    else if c == '[' then
      match CharSet.read? ['!', '^'] (rest.map Prod.fst) with
      | some (set, after) => member set :: readAll fuel (rest.drop (rest.length - after.length))
      | none => one c :: readAll fuel rest
    else one c :: readAll fuel rest

/-- Whether a part of a pattern that stands for one character stands for this one. -/
def fits : Wildcard → Char → Bool
  | one a, c => a == c
  | any, _ => true
  | many, _ => false
  | member set, c => set.mem c

/-- Whether a pattern matches some characters. -/
def matchAll : List Wildcard → List Char → Bool
  | [], cs => cs.isEmpty
  | many :: pattern, [] => matchAll pattern []
  | many :: pattern, c :: cs => matchAll pattern (c :: cs) || matchAll (many :: pattern) cs
  | _ :: _, [] => false
  | part :: pattern, c :: cs => part.fits c && matchAll pattern cs

theorem matches_literal (pattern cs : List Char) :
    matchAll (pattern.map one) cs = decide (pattern = cs) := by
  induction pattern generalizing cs with
  | nil => cases cs <;> simp [matchAll]
  | cons p ps ih =>
    cases cs with
    | nil => simp [matchAll]
    | cons c cs => by_cases h : p = c <;> simp [matchAll, fits, ih, h]

theorem matches_many (cs : List Char) : matchAll [many] cs := by
  induction cs with
  | nil => simp [matchAll]
  | cons c cs ih => simp [matchAll, ih]

end Wildcard

/-- A pattern of a word. -/
def patternOf (glyphs : List Glyph) : List Wildcard := Wildcard.readAll glyphs.length glyphs

/-- Leaves out what matches a pattern at the start. -/
def trimStart (pattern : List Wildcard) (longest : Bool) (cs : List Char) : List Char :=
  let counts := List.range (cs.length + 1)
  let counts := if longest then counts.reverse else counts
  match counts.find? fun n => Wildcard.matchAll pattern (cs.take n) with
  | some n => cs.drop n
  | none => cs

/-- Leaves out what matches a pattern at the end. -/
def trimEnd (pattern : List Wildcard) (longest : Bool) (cs : List Char) : List Char :=
  let counts := List.range (cs.length + 1)
  let counts := if longest then counts else counts.reverse
  match counts.find? fun n => Wildcard.matchAll pattern (cs.drop n) with
  | some n => cs.take n
  | none => cs

/-! ## Names of files -/

/-- Whether a character of a word makes it a pattern. -/
def isMagic (glyph : Glyph) : Bool := !glyph.2 && "*?[".toList.contains glyph.1

def plainText (glyphs : List Glyph) : String := String.ofList (glyphs.map Prod.fst)

/-- The names in a directory that a pattern matches. A dot in front has to stand in the pattern. -/
def matchingNames (files : FileTree) (way : Way) (part : List Glyph) : List String :=
  let pattern := patternOf part
  (["." , ".."] ++ files.names way).filter fun name =>
    (!name.startsWith "." || part.head?.map Prod.fst = some '.') &&
      Wildcard.matchAll pattern name.toList

/-- The paths that go on from a path by parts of a pattern. -/
def matchingPaths (files : FileTree) (base : Way) : String → List (List Glyph) → List String
  | path, [] => [path]
  | path, part :: rest =>
    let slash (name : String) := if rest.isEmpty then path ++ name else path ++ name ++ "/"
    if part.any isMagic then
      match files.locate base (if path.isEmpty then "." else path) with
      | .error _ => []
      | .ok location =>
        (matchingNames files location.way part).flatMap fun name =>
          if rest.isEmpty || files.isDirectory (location.way ++ [name]) then
            matchingPaths files base (slash name) rest
          else []
    else
      let next := slash (plainText part)
      match files.find base (if next.isEmpty then "/" else next) with
      | .ok _ => matchingPaths files base next rest
      | .error _ => []

/-- The paths that a word stands for: those it matches, or itself if there are none. -/
def pathsOf (files : FileTree) (base : Way) (glyphs : List Glyph) : List String :=
  if glyphs.any isMagic then
    match matchingPaths files base "" (glyphs.splitOnP fun glyph => glyph.1 == '/') with
    | [] => [plainText glyphs]
    | paths => paths
  else [plainText glyphs]

end RaidProvision.Shell

import RaidProvision.Shell.Arithmetic
import RaidProvision.Shell.Pattern
import RaidProvision.Shell.State

/-!
# Expansion of words

A word of a script becomes arguments in steps: what its pieces stand for is put in, what came of
unquoted pieces is split at separators, and patterns are replaced by the paths that they match. The
characters remember where they are from until then.

* `split_quoted`: quoted characters are one field.
-/
namespace RaidProvision.Shell

/-- Where a character of an expanded word is from. -/
inductive Origin where
  | source
  | result
  | quoted
  deriving DecidableEq, Repr

/-- A part of an expanded word. -/
inductive Bit where
  | char (c : Char) (origin : Origin)
  /-- Nothing, which still makes a field. -/
  | hold
  /-- The end of a field. -/
  | cut
  deriving DecidableEq, Repr

namespace Bit

def glyph? : Bit → Option Glyph
  | char c origin => some (c, origin == .quoted)
  | _ => none

def ofText (origin : Origin) (s : String) : List Bit := s.toList.map fun c => char c origin

/-- Bits as one text, where fields have blanks between them. -/
def text (bits : List Bit) : String :=
  String.ofList (bits.filterMap fun
    | char c _ => some c
    | cut => some ' '
    | hold => none)

def glyphs (bits : List Bit) : List Glyph := bits.filterMap glyph?

/-! ## Fields -/

/-- What is known while bits are split into fields. -/
structure Splitting where
  /-- The fields that are complete, the latest first. -/
  fields : List (List Glyph)
  /-- The last field, the last character first, if one has begun. -/
  current : Option (List Glyph)
  /-- Whether white space has ended the last field. -/
  spaced : Bool

namespace Splitting

/-- Ends the field that has begun. -/
def finish (splitting : Splitting) (spaced : Bool) : Splitting :=
  match splitting.current with
  | some glyphs => ⟨glyphs.reverse :: splitting.fields, none, spaced⟩
  | none => { splitting with spaced := splitting.spaced && spaced }

/-- Goes on with a field. -/
def add (splitting : Splitting) (glyphs : List Glyph) : Splitting :=
  { splitting with current := some (glyphs ++ splitting.current.getD []), spaced := false }

def isSpace (c : Char) : Bool := c == ' ' || c == '\t' || c == '\n'

/-- Goes on after a bit. -/
def next (separators : List Char) (splitting : Splitting) : Bit → Splitting
  | .hold => splitting.add []
  | .cut => splitting.finish false
  | .char c origin =>
    if origin == .result && separators.contains c then
      if isSpace c then
        match splitting.current with
        | some _ => splitting.finish true
        | none => splitting
      else
        match splitting.current, splitting.spaced with
        | none, false => { splitting with fields := [] :: splitting.fields }
        | none, true => { splitting with spaced := false }
        | some _, _ => splitting.finish false
    else splitting.add [(c, origin == .quoted)]

end Splitting

/-- Splits bits into fields. -/
def split (separators : List Char) (bits : List Bit) : List (List Glyph) :=
  ((bits.foldl (Splitting.next separators) ⟨[], none, false⟩).finish false).fields.reverse

theorem foldl_next_quoted (separators : List Char) (s : List Char) (done : List (List Glyph))
    (glyphs : List Glyph) :
    (s.map fun c => char c .quoted).foldl (Splitting.next separators)
        ⟨done, some glyphs, false⟩ =
      ⟨done, some ((s.map fun c => (c, true)).reverse ++ glyphs), false⟩ := by
  induction s generalizing glyphs with
  | nil => rfl
  | cons c s ih => simp [Splitting.next, Splitting.add, ih]

theorem split_quoted (separators : List Char) (s : String) :
    split separators (hold :: ofText .quoted s) = [s.toList.map fun c => (c, true)] := by
  have h : Splitting.next separators ⟨[], none, false⟩ hold = ⟨[], some [], false⟩ := rfl
  simp only [split, ofText, List.foldl_cons, h, foldl_next_quoted]
  simp [Splitting.finish]

end Bit

/-! ## Pieces -/

section

variable (capture : Statement → Action String)

/-- The bits of a value. -/
def valueBits (quoted : Bool) (value : String) : List Bit :=
  Bit.ofText (if quoted then .quoted else .result) value

/-- The bits of all parameters. -/
def parameterBits (state : State) (sign : String) (quoted : Bool) : List Bit :=
  let each := state.parameters.map (valueBits quoted)
  if quoted && sign == "*" then
    let between := (state.separators.head?.map fun c => [Bit.char c .quoted]).getD []
    .hold :: between.intercalate each
  else if quoted then [Bit.cut].intercalate (each.map (.hold :: ·))
  else [Bit.cut].intercalate each

/-- Whether a name means all parameters. -/
def meansAll (name : String) : Bool := name == "@" || name == "*"

/-- The text of a parameter, of which there may be none. -/
def parameterText? (state : State) (name : String) : Option String :=
  if meansAll name then
    if state.parameters.isEmpty then none else some (" ".intercalate state.parameters)
  else state.parameter? name

/-- Complains about a parameter without value if that is asked for. -/
def requireSet (name : String) : Action Unit := do
  let state ← get
  if state.options.contains 'u' && !meansAll name && (state.parameter? name).isNone then
    Action.abort s!"{name}: parameter not set"

/-- The bits of a parameter. -/
def readParameter (name : String) (quoted : Bool) : Action (List Bit) := do
  let state ← get
  if meansAll name then return parameterBits state name quoted
  requireSet name
  return valueBits quoted ((state.parameter? name).getD "")

/-- The value of an arithmetic expression. -/
def compute (text : String) : Action Int := do
  let state ← get
  let held (name : String) := (state.value? name).getD ""
  match (Arithmetic.read text).bind fun expression => (expression.eval held).run [] with
  | .error fault => Action.abort (fault.messageIn text)
  | .ok (value, given) =>
    given.reverse.forM fun (name, value) => Action.assign name (toString value.toInt)
    return value.toInt

/-- Whether a word between quotes is nothing if there are no parameters. -/
def mayVanish : Word → Bool
  | [.parameter "@"] => true
  | _ => false

/-- Bits of a word that stands for a value, which are split like one. -/
def asResult (bits : List Bit) : List Bit :=
  bits.map fun
    | .char c .source => .char c .result
    | bit => bit

mutual

/-- What a piece stands for. -/
def expandPiece (quoted : Bool) : Piece → Action (List Bit)
  | .plain s => return Bit.ofText .source s
  | .quoted s => return .hold :: Bit.ofText .quoted s
  | .double inside => do
    let bits ← expandWord true inside
    return if mayVanish inside then bits else .hold :: bits
  | .parameter name => readParameter name quoted
  | .size name => do
    requireSet name
    return valueBits quoted (Nat.repr ((parameterText? (← get) name).getD "").length)
  | .fallback name kind ifEmpty word => do
    let held := parameterText? (← get) name
    let missing := if ifEmpty then (held.getD "").isEmpty else held.isNone
    match kind, missing with
    | .replace, true => return []
    | .replace, false => return asResult (← expandWord quoted word)
    | _, false => readParameter name quoted
    | .use, true => return asResult (← expandWord quoted word)
    | .assign, true => do
      if !isName name then Action.abort s!"{name}: bad variable name"
      let value := Bit.text (← expandWord quoted word)
      Action.assign name value
      return valueBits quoted value
    | .complain, true => do
      let text := Bit.text (← expandWord quoted word)
      let standard := if ifEmpty then "parameter not set or null" else "parameter not set"
      let reason := if word.isEmpty then standard else text
      Action.abort s!"{name}: {reason}"
  | .trimmed name atEnd longest pattern => do
    requireSet name
    let value := (parameterText? (← get) name).getD ""
    let wildcards := patternOf (Bit.glyphs (← expandWord false pattern))
    let trim := if atEnd then trimEnd else trimStart
    return valueBits quoted (String.ofList (trim wildcards longest value.toList))
  | .output body => return valueBits quoted (← capture body)
  | .arithmetic expression => do
    let text := Bit.text (← expandWord true expression)
    return valueBits quoted (toString (← compute text))
  | .faulty => Action.abort "Bad substitution"

/-- What the pieces of a word stand for. -/
def expandWord (quoted : Bool) : List Piece → Action (List Bit)
  | [] => return []
  | piece :: rest => do
    let bits ← expandPiece quoted piece
    return bits ++ (← expandWord quoted rest)

end

/-! ## Words -/

/-- The directory that a name after a tilde stands for. -/
def homeOf? (state : State) (name : String) : Option String :=
  match name with
  | "" => state.value? "HOME"
  | "root" => some "/root"
  | _ => none

/-- Replaces a tilde in front of a word. -/
def expandTilde (state : State) : Word → Word
  | .plain s :: rest =>
    match s.toList with
    | '~' :: cs =>
      let name := cs.takeWhile (· != '/')
      let after := cs.drop name.length
      if after.isEmpty && !rest.isEmpty then .plain s :: rest
      else
        match homeOf? state (String.ofList name) with
        | some home => .quoted home :: .plain (String.ofList after) :: rest
        | none => .plain s :: rest
    | _ => .plain s :: rest
  | word => word

/-- The arguments that a word stands for. -/
def expandFields (word : Word) : Action (List String) := do
  let bits ← expandWord capture false (expandTilde (← get) word)
  let state ← get
  let fields := Bit.split state.separators bits
  return fields.flatMap fun glyphs =>
    if state.options.contains 'f' then [plainText glyphs]
    else pathsOf state.system.files state.directory glyphs

/-- The arguments that some words stand for. -/
def expandAll (words : List Word) : Action (List String) :=
  return (← words.mapM (expandFields capture)).flatten

/-- The text that a word stands for where it is not split. -/
def expandText (word : Word) : Action String := do
  return Bit.text (← expandWord capture false (expandTilde (← get) word))

/-- The pattern that a word stands for. -/
def expandPattern (word : Word) : Action (List Wildcard) := do
  return patternOf (Bit.glyphs (← expandWord capture false (expandTilde (← get) word)))

end
end RaidProvision.Shell

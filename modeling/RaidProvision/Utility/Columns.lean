import RaidProvision.Text.CharSet
import RaidProvision.Utility.Escape
import RaidProvision.Utility.Passing

/-!
# Filters on parts of lines

Programs that choose, put together or replace parts of lines: fields, places and characters.

* `chosenItems_all`: choosing every place keeps everything.
-/
namespace RaidProvision.Utility

open RaidProvision.Text (pieces CharClass)

/-! ## cut -/

/-- Places from one on, up to another one if there is an end. -/
structure Span where
  first : Nat
  last : Option Nat

def Span.mem (span : Span) (n : Nat) : Bool := span.first ≤ n && span.last.all (n ≤ ·)

/-- Reads places: numbers, and two numbers with a dash between them of which one may be left out. -/
def readSpan? (text : String) : Option Span :=
  match (pieces '-' text).map fun part => (part, part.toNat?) with
  | [(_, some n)] => if n = 0 then none else some ⟨n, some n⟩
  | [("", _), (_, some m)] => if m = 0 then none else some ⟨1, some m⟩
  | [(_, some n), ("", _)] => if n = 0 then none else some ⟨n, none⟩
  | [(_, some n), (_, some m)] => if n = 0 || m < n then none else some ⟨n, some m⟩
  | _ => none

def readSpans? (text : String) : Option (List Span) :=
  (((pieces ',' text).flatMap (pieces ' ')).filter (!·.isEmpty)).mapM readSpan?

/-- The items at the places that are asked for. -/
def chosenItems {α : Type} (chosen : Nat → Bool) (items : List α) : List α :=
  (items.zipIdx.filter fun (_, i) => chosen (i + 1)).map Prod.fst

theorem chosenItems_all {α : Type} (items : List α) :
    chosenItems (fun _ => true) items = items := by
  have h : items.zipIdx.filter (fun _ => true) = items.zipIdx := by simp
  simp only [chosenItems, h, List.zipIdx_map_fst]

def cutOptions : OptionTable :=
  { flags := "snCz", valued := "bcfdO",
    long := [("complement", 'C'), ("output-delimiter", 'O'), ("delimiter", 'd'), ("fields", 'f'),
      ("characters", 'c'), ("bytes", 'b'), ("only-delimited", 's')], mixed := true }

/-- The chosen part of a line. -/
def cutLine (options : Options) (spans : List Span) (line : String) : Option String :=
  let chosen (n : Nat) : Bool := spans.any (·.mem n) != options.has 'C'
  if options.has 'f' then
    let mark := ((options.value? 'd').getD "\t").toList.headD '\x00'
    let fields := pieces mark line
    if fields.length ≤ 1 then (if options.has 's' then none else some line)
    else some (((options.value? 'O').getD mark.toString).intercalate (chosenItems chosen fields))
  else some (String.ofList (chosenItems chosen line.toList))

/-- Prints parts of lines. -/
def cut : Utility := withOptions cutOptions 1 fun options => do
  match (options.value? 'f') <|> (options.value? 'c') <|> (options.value? 'b') with
  | none => Work.fail 1 "you must specify a list of bytes, characters, or fields"
  | some list =>
    match readSpans? list with
    | none => Work.fail 1 s!"invalid field value '{list}'"
    | some spans =>
      if (options.value? 'd').any fun mark => 1 < mark.length then
        return ← Work.fail 1 "the delimiter must be a single character"
      let (texts, complete) ← Work.readOperands options.operands
      let lines := texts.flatMap fun (_, text) => (splitLines text).1
      Work.print (joinLines (lines.filterMap (cutLine options spans)))
      return Work.statusOf complete

/-! ## tr -/

/-- Reads a character of a set, which may be escaped. -/
def readSetChar : List Char → Option (Char × List Char)
  | [] => none
  | '\\' :: [] => some ('\\', [])
  | '\\' :: c :: rest =>
    if Escape.isOctal c || (Escape.letter? c).isSome then some (Escape.take (c :: rest))
    else some (c, rest)
  | c :: rest => some (c, rest)

/-- The characters of a class, in order. -/
def classMembers (charClass : CharClass) : List Char :=
  (List.range 256).map Char.ofNat |>.filter charClass.mem

/-- The characters from one to another one. -/
def charRange (first last : Char) : List Char :=
  (List.range (last.toNat + 1 - first.toNat)).map fun n => Char.ofNat (first.toNat + n)

/-- What stands for characters in a set: these, or one that fills the set up to a length. -/
inductive SetPart where
  | these (cs : List Char)
  | fill (c : Char)

/-- Reads a set of characters. `fuel` bounds its length. -/
def readSet : (fuel : Nat) → List Char → List SetPart
  | 0, _ => []
  | fuel + 1, cs =>
    let single : List SetPart :=
      match readSetChar cs with
      | none => []
      | some (first, '-' :: rest) =>
        match readSetChar rest with
        | some (last, rest) =>
          .these (charRange first last) :: readSet fuel rest
        | none => .these [first] :: readSet fuel ['-']
      | some (c, rest) => .these [c] :: readSet fuel rest
    match cs with
    | '[' :: ':' :: rest =>
      let name := rest.takeWhile (· != ':')
      match CharClass.ofName? (String.ofList name), rest.drop name.length with
      | some charClass, ':' :: ']' :: rest => .these (classMembers charClass) :: readSet fuel rest
      | _, _ => single
    | '[' :: '=' :: c :: '=' :: ']' :: rest => .these [c] :: readSet fuel rest
    | '[' :: c :: '*' :: rest =>
      let digits := rest.takeWhile Char.isDigit
      match rest.drop digits.length with
      | ']' :: rest =>
        let n := (String.ofList digits).toNat?.getD 0
        (if n = 0 then .fill c else .these (List.replicate n c)) :: readSet fuel rest
      | _ => single
    | _ => single

/-- The characters of a set, where a filling one makes up a length. -/
def setChars (length : Nat) (text : String) : List Char :=
  let parts := readSet (text.length + 1) text.toList
  let fixed := (parts.map fun | .these cs => cs.length | .fill _ => 0).foldl (· + ·) 0
  parts.flatMap fun
    | .these cs => cs
    | .fill c => List.replicate (length - fixed) c

/-- One of several equal characters that follow one another, for those that are `squeezed`. -/
def squeeze (squeezed : Char → Bool) : List Char → List Char
  | a :: b :: rest =>
    if a == b && squeezed a then squeeze squeezed (b :: rest) else a :: squeeze squeezed (b :: rest)
  | cs => cs

/-- Replaces a character by the one at its last place in another set, which is filled up with its
last one. -/
def translateChar (first second : List Char) (c : Char) : Char :=
  match (first.zipIdx.filter fun (a, _) => a == c).getLast? with
  | none => c
  | some (_, i) => second[i]?.getD (second.getLastD c)

def trOptions : OptionTable :=
  { flags := "cCdst", valued := "",
    long := [("complement", 'c'), ("delete", 'd'), ("squeeze-repeats", 's'),
      ("truncate-set1", 't')], mixed := false }

/-- Replaces, deletes or squeezes characters. -/
def tr : Utility := withOptions trOptions 1 fun options => do
  match ← Work.readAll 0, options.operands with
  | .error cause, _ => Work.fail 1 cause.plainMessage
  | _, [] => Work.fail 1 "missing operand"
  | .ok input, one :: others =>
    let given := setChars 0 one
    let first :=
      if options.has 'c' || options.has 'C' then
        ((List.range 256).map Char.ofNat).filter (!given.contains ·)
      else given
    let second := others.head?.map (setChars first.length)
    let print (cs : List Char) : Work Nat := do
      Work.print (String.ofList cs)
      return 0
    match options.has 'd', options.has 's', second with
    | true, false, some _ => Work.fail 1 "extra operand"
    | true, true, none => Work.fail 1 "missing operand"
    | true, deletesOnly, second =>
      let kept := input.toList.filter (!first.contains ·)
      print (if deletesOnly then squeeze ((second.getD []).contains ·) kept else kept)
    | false, true, none => print (squeeze (first.contains ·) input.toList)
    | false, false, none => Work.fail 1 "missing operand"
    | false, squeezes, some second =>
      let first := if options.has 't' then first.take second.length else first
      if second.isEmpty && !options.has 't' then
        return ← Work.fail 1 "when not truncating set1, string2 must be non-empty"
      let cs := input.toList.map (translateChar first second)
      print (if squeezes then squeeze (second.contains ·) cs else cs)

/-! ## paste -/

/-- The characters between columns. -/
def pasteMarks (text : String) : List String :=
  match Escape.unescape text.toList with
  | ([], _) => [""]
  | (cs, _) => cs.map Char.toString

/-- Texts with the marks between them one after the other. -/
def interleave (marks : List String) : Nat → List String → String
  | _, [] => ""
  | _, [last] => last
  | i, text :: rest => text ++ marks.getD (i % marks.length) "" ++ interleave marks (i + 1) rest

def pasteOptions : OptionTable :=
  { flags := "sz", valued := "d", long := [("serial", 's'), ("delimiters", 'd')], mixed := true }

/-- Puts the lines of files side by side, or the lines of a file after one another. -/
def paste : Utility := withOptions pasteOptions 1 fun options => do
  let operands := if options.operands.isEmpty then ["-"] else options.operands
  let marks := pasteMarks ((options.value? 'd').getD "\t")
  let dashes := (operands.filter (· = "-")).length
  let mut columns := #[]
  let mut complete := true
  let mut input : Option (List String) := none
  let mut seen := 0
  for path in operands do
    if path = "-" && !options.has 's' then
      let lines ←
        match input with
        | some lines => pure lines
        | none => do pure (splitLines (((← Work.readAll 0).toOption).getD "")).1
      input := some lines
      let place := seen
      columns := columns.push (chosenItems (fun n => (n - 1) % dashes = place) lines)
      seen := seen + 1
    else
      match ← Work.readOperand path with
      | .ok text => columns := columns.push (splitLines text).1
      | .error cause =>
        Work.complainOf path cause
        complete := false
  if !complete && !options.has 's' then return 1
  let texts := columns.toList
  let rows :=
    if options.has 's' then texts.map (interleave marks 0)
    else
      (List.range ((texts.map List.length).foldl max 0)).map fun i =>
        interleave marks 0 (texts.map fun lines => lines.getD i "")
  Work.print (joinLines rows)
  return Work.statusOf complete

/-! ## fold and nl -/

/-- Pieces of at most some characters. `fuel` bounds their number. -/
def foldLine (width : Nat) : (fuel : Nat) → List Char → List (List Char)
  | 0, cs => [cs]
  | fuel + 1, cs =>
    if cs.length ≤ width then [cs] else cs.take width :: foldLine width fuel (cs.drop width)

/-- Breaks long lines. -/
def fold : Utility := withOptions { flags := "bs", valued := "w", long := [("width", 'w')],
                                    mixed := true } 1 fun options => do
  let width := max 1 (((options.value? 'w').bind String.toNat?).getD 80)
  let (text, complete) ← Work.readJoined options.operands
  let broken := (linesWithEnds text).map fun line =>
    let ended := line.endsWith "\n"
    let cs := if ended then line.toList.dropLast else line.toList
    "\n".intercalate ((foldLine width cs.length cs).map String.ofList) ++
      if ended then "\n" else ""
  Work.print (String.join broken)
  return Work.statusOf complete

def nlOptions : OptionTable :=
  { flags := "p", valued := "bwsvin", long := [], mixed := true }

/-- Lines with their numbers. -/
def numbered (all : Bool) (width step : Nat) (mark : String) (left zeros : Bool) :
    Nat → List String → List String
  | _, [] => []
  | n, line :: rest =>
    if all || !line.isEmpty then
      let digits := Nat.repr n
      let gap := List.replicate (width - digits.length)
      let number :=
        if left then digits ++ String.ofList (gap ' ')
        else String.ofList (gap (if zeros then '0' else ' ')) ++ digits
      (number ++ mark ++ line) :: numbered all width step mark left zeros (n + step) rest
    else
      String.ofList (List.replicate (width + mark.length) ' ') ::
        numbered all width step mark left zeros n rest

/-- Numbers lines. -/
def nl : Utility := withOptions nlOptions 1 fun options => do
  let number (letter : Char) (standard : Nat) : Nat :=
    ((options.value? letter).bind String.toNat?).getD standard
  let (text, complete) ← Work.readJoined options.operands
  let style := (options.value? 'n').getD "rn"
  let lines := numbered (options.value? 'b' = some "a") (number 'w' 6) (number 'i' 1)
    ((options.value? 's').getD "\t") (style = "ln") (style = "rz") (number 'v' 1)
    (splitLines text).1
  Work.print (joinLines lines)
  return Work.statusOf complete

end RaidProvision.Utility

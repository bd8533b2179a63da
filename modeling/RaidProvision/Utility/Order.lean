import RaidProvision.Utility.Columns
import RaidProvision.Utility.Printf

/-!
# Filters on the order of lines

Programs that put lines in order, look at lines that follow one another, or make lines with numbers.

* `grouped_nil`: without lines there are no groups.
-/
namespace RaidProvision.Utility

open RaidProvision.Text (pieces)
open RaidProvision.Binary64 (tenTo)

/-! ## sort -/

/-- A key of a line: from a field and character to another one, where the end may be left out. -/
structure SortKey where
  first : Nat × Nat
  last : Option (Nat × Nat)
  letters : List Char

/-- Reads a field, a character behind a point, and letters. -/
def readPlace? (cs : List Char) : Option ((Nat × Nat) × List Char) :=
  let field := cs.takeWhile Char.isDigit
  let rest := cs.drop field.length
  let (point, letters) :=
    match rest with
    | '.' :: rest => (rest.takeWhile Char.isDigit, rest.dropWhile Char.isDigit)
    | rest => ([], rest)
  if field.isEmpty || !letters.all "bdfginrhVM".toList.contains then none
  else
    some ((Nat.ofDigitChars 10 field 0, Nat.ofDigitChars 10 point 0), letters)

def readKey? (text : String) : Option SortKey :=
  match pieces ',' text with
  | [one] => (readPlace? one.toList).map fun (place, letters) => ⟨place, none, letters⟩
  | [one, two] => do
    let (first, letters) ← readPlace? one.toList
    let (last, others) ← readPlace? two.toList
    return ⟨first, some last, letters ++ others⟩
  | _ => none

/-- Where each field of a line begins and ends. Without a mark a field begins with its blanks. -/
def fieldPlaces (mark : Option Char) (cs : List Char) : List (Nat × Nat) :=
  match mark with
  | some mark =>
    ((cs.splitOnP (· == mark)).foldl (fun (places, start) field =>
      (places ++ [(start, start + field.length)], start + field.length + 1))
      (([] : List (Nat × Nat)), 0)).1
  | none =>
    let blank (c : Char) : Bool := c == ' ' || c == '\t'
    let starts := (List.range cs.length).filter fun i =>
      i = 0 || (blank (cs.getD i 'x') && !blank (cs.getD (i - 1) ' '))
    starts.zip (starts.drop 1 ++ [cs.length])

/-- The key of a line. -/
def SortKey.take (key : SortKey) (mark : Option Char) (line : String) : List Char :=
  let cs := line.toList
  let places := fieldPlaces mark cs
  let skip (start : Nat) : Nat :=
    if key.letters.contains 'b' then
      start + ((cs.drop start).takeWhile fun c => c == ' ' || c == '\t').length
    else start
  let start :=
    match places[key.first.1 - 1]? with
    | some (start, _) => skip start + (key.first.2 - 1)
    | none => cs.length
  let finish :=
    match key.last with
    | none => cs.length
    | some (field, count) =>
      match places[field - 1]? with
      | none => cs.length
      | some (start, finish) => if count = 0 then finish else skip start + count
  (cs.take finish).drop start

/-- A number in front of a text, as sign, whole part and decimals. -/
def leadingNumber (cs : List Char) : Bool × Nat × List Char :=
  let cs := cs.dropWhile fun c => c == ' ' || c == '\t'
  let (negative, cs) :=
    match cs with
    | '-' :: cs => (true, cs)
    | cs => (false, cs)
  let whole := cs.takeWhile Char.isDigit
  let part :=
    match cs.drop whole.length with
    | '.' :: rest => rest.takeWhile Char.isDigit
    | _ => []
  (negative, Nat.ofDigitChars 10 whole 0, part)

/-- A number in front of a text, scaled to some decimals. -/
def scaledNumber (places : Nat) (cs : List Char) : Int :=
  let (negative, whole, part) := leadingNumber cs
  let decimals := part ++ List.replicate (places - part.length) '0'
  let n := whole * tenTo places + Nat.ofDigitChars 10 decimals 0
  if negative then -(n : Int) else n

/-- The power of a letter behind a number. -/
def unitPower (cs : List Char) : Nat :=
  let rest := (cs.dropWhile fun c => c == ' ' || c == '-').dropWhile fun c => c.isDigit || c == '.'
  match rest with
  | c :: _ => ("KMGTPEZY".toList.idxOf? c.toUpper).elim 0 (· + 1)
  | [] => 0

def compareNumbers (a b : List Char) : Ordering :=
  let places := max (leadingNumber a).2.2.length (leadingNumber b).2.2.length
  compare (scaledNumber places a) (scaledNumber places b)

def compareUnits (a b : List Char) : Ordering :=
  let sign (cs : List Char) : Int :=
    let n := scaledNumber (leadingNumber cs).2.2.length cs
    if n < 0 then -1 else if n = 0 then 0 else 1
  let power (cs : List Char) : Int := sign cs * (unitPower cs + 1)
  (compare (power a) (power b)).then (compareNumbers a b)

/-- Compares texts where runs of digits are numbers. `fuel` bounds their length. -/
def compareVersions : (fuel : Nat) → List Char → List Char → Ordering
  | 0, _, _ => .eq
  | fuel + 1, a, b =>
    let textA := a.takeWhile fun c => !c.isDigit
    let textB := b.takeWhile fun c => !c.isDigit
    let restA := a.drop textA.length
    let restB := b.drop textB.length
    let digitsA := restA.takeWhile Char.isDigit
    let digitsB := restB.takeWhile Char.isDigit
    if a.isEmpty && b.isEmpty then .eq
    else
      (((compare (String.ofList textA) (String.ofList textB)).then
        (compare (Nat.ofDigitChars 10 digitsA 0) (Nat.ofDigitChars 10 digitsB 0)))).then
        (compareVersions fuel (restA.drop digitsA.length) (restB.drop digitsB.length))

/-- Compares keys as letters say. -/
def compareKeys (letters : List Char) (a b : List Char) : Ordering :=
  let has (c : Char) : Bool := letters.contains c
  let prepare (cs : List Char) : List Char :=
    let cs := if has 'd' then cs.filter fun c => c.isAlphanum || c == ' ' || c == '\t' else cs
    let cs := if has 'i' then cs.filter fun c => 32 ≤ c.toNat && c.toNat < 127 else cs
    if has 'f' then cs.map Char.toUpper else cs
  let order :=
    if has 'n' || has 'g' then compareNumbers a b
    else if has 'h' then compareUnits a b
    else if has 'V' then compareVersions (a.length + b.length + 1) a b
    else compare (String.ofList (prepare a)) (String.ofList (prepare b))
  if has 'r' then order.swap else order

def sortOptions : OptionTable :=
  { flags := "bdfginrhVMsucCmz", valued := "kotST",
    long := [("numeric-sort", 'n'), ("reverse", 'r'), ("unique", 'u'), ("key", 'k'),
      ("field-separator", 't'), ("ignore-case", 'f'), ("stable", 's'), ("output", 'o'),
      ("version-sort", 'V'), ("human-numeric-sort", 'h'), ("general-numeric-sort", 'g'),
      ("ignore-leading-blanks", 'b'), ("dictionary-order", 'd'), ("check", 'c')], mixed := true }

/-- Compares lines by their keys. -/
def compareLines (options : Options) (keys : List SortKey) (a b : String) : Ordering :=
  let global := "bdfginrhVM".toList.filter options.has
  let mark := (options.value? 't').map fun text =>
    if text = "\\0" then '\x00' else text.toList.headD '\x00'
  let keys := if keys.isEmpty then [⟨(1, 0), none, global⟩] else keys
  keys.foldl (fun order key =>
    let key := if key.letters.isEmpty then { key with letters := global } else key
    order.then (compareKeys key.letters (key.take mark a) (key.take mark b))) .eq

/-- Lines without those that compare as equal to the one before. -/
def dropEqual (equal : String → String → Bool) : List String → List String
  | a :: b :: rest =>
    if equal a b then dropEqual equal (a :: rest) else a :: dropEqual equal (b :: rest)
  | lines => lines
termination_by lines => lines.length

/-- Prints lines in order. -/
def sort : Utility := withOptions sortOptions 2 fun options => do
  match (options.values 'k').reverse.mapM readKey? with
  | none => Work.fail 2 "invalid field specification"
  | some keys =>
    let (texts, complete) ← Work.readOperands options.operands
    if !complete then return 2
    let lines := texts.flatMap fun (_, text) => (splitLines text).1
    let byKeys := compareLines options keys.reverse
    let whole (a b : String) : Ordering :=
      if options.has 's' || options.has 'u' then byKeys a b
      else
        let last := compare a b
        (byKeys a b).then (if options.has 'r' then last.swap else last)
    if options.has 'c' || options.has 'C' then
      let wrong := (lines.zip (lines.drop 1)).zipIdx.find? fun ((a, b), _) =>
        byKeys a b == .gt || (options.has 'u' && byKeys a b == .eq)
      match wrong with
      | none => return 0
      | some ((_, b), i) =>
        if options.has 'C' then return 1
        let path := options.operands.headD "-"
        let line := Nat.repr (i + 2)
        return ← Work.fail 1 s!"{path}:{line}: disorder: {b}"
    let sorted := lines.mergeSort fun a b => whole a b != .gt
    let sorted :=
      if options.has 'u' then dropEqual (fun a b => byKeys a b == .eq) sorted else sorted
    match options.value? 'o' with
    | none =>
      Work.print (joinLines sorted)
      return 0
    | some path =>
      match ← Work.writeFile path (joinLines sorted) false with
      | .ok () => return 0
      | .error cause =>
        Work.complainOf path cause
        return 2

/-! ## uniq -/

/-- Lines with how many like them follow one another. -/
def grouped (equal : String → String → Bool) (lines : List String) : List (String × Nat) :=
  (lines.foldl (fun groups line =>
    match groups with
    | (last, n) :: rest =>
      if equal last line then (last, n + 1) :: rest else (line, 1) :: groups
    | [] => [(line, 1)]) []).reverse

theorem grouped_nil (equal : String → String → Bool) : grouped equal [] = [] := rfl

def uniqOptions : OptionTable :=
  { flags := "cduiDz", valued := "fsw",
    long := [("count", 'c'), ("repeated", 'd'), ("unique", 'u'), ("ignore-case", 'i'),
      ("skip-fields", 'f'), ("skip-chars", 's'), ("check-chars", 'w')], mixed := true }

/-- Drops a field with the blanks before it. -/
def dropField (cs : List Char) : List Char :=
  let blank (c : Char) : Bool := c == ' ' || c == '\t'
  (cs.dropWhile blank).dropWhile fun c => !blank c

/-- Prints one of several equal lines that follow one another. -/
def uniq : Utility := withOptions uniqOptions 1 fun options => do
  let number (letter : Char) : Option Nat := (options.value? letter).bind String.toNat?
  let key (line : String) : List Char :=
    let cs := Nat.repeat dropField ((number 'f').getD 0) line.toList
    let cs := cs.drop ((number 's').getD 0)
    let cs := (number 'w').elim cs cs.take
    if options.has 'i' then cs.map Char.toLower else cs
  match ← Work.readOperand (options.operands.headD "-") with
  | .error cause => do
    Work.complainOf (options.operands.headD "-") cause
    return 1
  | .ok text =>
    let groups := grouped (fun a b => key a == key b) (splitLines text).1
    let chosen := groups.filter fun (_, n) =>
      if options.has 'd' && options.has 'u' then false
      else if options.has 'd' || options.has 'D' then 1 < n
      else if options.has 'u' then n = 1 else true
    let shown := chosen.map fun (line, n) =>
      if options.has 'c' then rightAligned 7 (Nat.repr n) ++ " " ++ line else line
    match options.operands with
    | _ :: path :: _ =>
      match ← Work.writeFile path (joinLines shown) false with
      | .ok () => return 0
      | .error cause => do
        Work.complainOf path cause
        return 1
    | _ =>
      Work.print (joinLines shown)
      return 0

/-! ## seq -/

/-- Reads a decimal number as an integer and a number of decimals. -/
def readDecimal? (text : String) : Option (Int × Nat) :=
  let (negative, cs) :=
    match text.toList with
    | '-' :: cs => (true, cs)
    | '+' :: cs => (false, cs)
    | cs => (false, cs)
  let whole := cs.takeWhile Char.isDigit
  let part? :=
    match cs.drop whole.length with
    | [] => some []
    | '.' :: rest => if rest.all Char.isDigit then some rest else none
    | _ => none
  part?.bind fun part =>
    if whole.isEmpty && part.isEmpty then none
    else
      let n : Int := Nat.ofDigitChars 10 (whole ++ part) 0
      some (if negative then -n else n, part.length)

/-- A scaled integer as a decimal number. -/
def decimalText (places : Nat) (n : Int) : String :=
  let digits := Nat.toDigits 10 n.natAbs
  let digits := List.replicate (places + 1 - digits.length) '0' ++ digits
  let whole := String.ofList (digits.take (digits.length - places))
  let part := String.ofList (digits.drop (digits.length - places))
  (if n < 0 then "-" else "") ++ whole ++ if part.isEmpty then "" else "." ++ part

def seqOptions : OptionTable :=
  { flags := "w", valued := "sf", long := [("equal-width", 'w'), ("separator", 's')],
    mixed := false }

/-- A number filled up with zeros behind its sign. -/
def padZeros (width : Nat) (text : String) : String :=
  let (sign, digits) :=
    match text.toList with
    | '-' :: cs => (['-'], cs)
    | cs => ([], cs)
  String.ofList (sign ++ List.replicate (width - text.length) '0' ++ digits)

/-- Arguments behind which a dash begins no option. -/
def guardNegatives : List String → List String
  | [] => []
  | arg :: rest =>
    match arg.toList with
    | '-' :: c :: _ =>
      if c.isDigit || c == '.' then "--" :: arg :: rest
      else if arg = "-s" || arg = "-f" then arg :: rest.take 1 ++ guardNegatives (rest.drop 1)
      else arg :: guardNegatives rest
    | _ => arg :: rest
termination_by args => args.length
decreasing_by
  · simp only [List.length_drop, List.length_cons]
    omega
  · simp

/-- A number as a format writes it. -/
def formatted (format number : String) : String :=
  let (_, progress) := (Printf.useOnce format.length format.toList).run ⟨[number], [], []⟩
  String.ofList progress.printed.reverse

/-- Prints numbers in steps. -/
def seq : Utility := fun args => withOptions seqOptions 1 (fun options => do
  let (first, step, last) :=
    match options.operands with
    | [last] => ("1", "1", last)
    | [first, last] => (first, "1", last)
    | first :: step :: last :: _ => (first, step, last)
    | [] => ("1", "1", "")
  if options.operands.isEmpty then return ← Work.fail 1 "missing operand"
  match readDecimal? first, readDecimal? step, readDecimal? last with
  | some (a, p), some (d, q), some (z, r) =>
    let places := max p q
    let scale := max places r
    let scaled (n : Int) (own : Nat) : Int := n * tenTo (scale - own)
    let (a, d, z) := (scaled a p, scaled d q, scaled z r)
    if d = 0 then return ← Work.fail 1 s!"invalid Zero increment value: '{step}'"
    let count := if 0 < d then (z - a) / d + 1 else (a - z) / (-d) + 1
    let numbers := (List.range count.toNat).map fun (i : Nat) =>
      decimalText places ((a + d * i) / tenTo (scale - places))
    let width := (numbers.map String.length).foldl max 0
    let numbers := (options.value? 'f').elim numbers fun format => numbers.map (formatted format)
    let numbers := if options.has 'w' then numbers.map (padZeros width) else numbers
    let mark := (options.value? 's').getD "\n"
    if !numbers.isEmpty then Work.print (mark.intercalate numbers ++ "\n")
    return 0
  | _, _, _ => Work.fail 1 "invalid floating point argument") (guardNegatives args)

/-- How many lines are made for a reader that may ask for more than it needs. -/
def maxLines : Nat := 20000

/-- Prints one line again and again. -/
def yes : Utility := fun args => do
  let line := (if args.isEmpty then "y" else " ".intercalate args) ++ "\n"
  Work.print (String.join (List.replicate maxLines line))
  return 0

end RaidProvision.Utility

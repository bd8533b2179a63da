import RaidProvision.System.Work
import RaidProvision.Utility.Options

/-!
# Filters that pass lines on

Programs that print parts of their input: all of it, the first or the last lines, the lines in
another order, or how much there is.

* `lastItems_append`: the last items of a list are at its end.
-/
namespace RaidProvision.Utility

/-- Arguments told apart, for a program that complains about unknown options. -/
def withOptions (table : OptionTable) (status : Nat) (task : Options → Work Nat) : Utility :=
  fun args =>
    match table.parse args with
    | .error fault => Work.fail status fault
    | .ok options => task options

/-- A number filled up with blanks on the left. -/
def rightAligned (width : Nat) (s : String) : String :=
  String.ofList (List.replicate (width - s.length) ' ' ++ s.toList)

/-- Lines of a text with their ends. -/
def linesWithEnds (text : String) : List String :=
  let (lines, complete) := splitLines text
  match lines.getLast? with
  | none => []
  | some last =>
    (lines.dropLast.map (· ++ "\n")) ++
      (if complete then [last ++ "\n"] else if last.isEmpty then [] else [last])

/-! ## cat -/

/-- Numbers lines, all or those that are not empty. -/
def numberLines (all : Bool) : Nat → List String → List String
  | _, [] => []
  | n, line :: rest =>
    if all || line != "\n" then
      (rightAligned 6 (Nat.repr n) ++ "\t" ++ line) :: numberLines all (n + 1) rest
    else line :: numberLines all n rest

/-- Keeps one of several empty lines. -/
def squeezeLines : List String → List String
  | [] => []
  | line :: rest =>
    line :: squeezeLines (if line = "\n" then rest.dropWhile (· = "\n") else rest)
termination_by lines => lines.length
decreasing_by
  split
  · have h := (List.dropWhile_sublist (fun line : String => decide (line = "\n"))
      (l := rest)).length_le
    simp only [List.length_cons]
    omega
  · simp

/-- A character that is shown by others. -/
def visible (tabs controls : Bool) (c : Char) : List Char :=
  let plain (n : Nat) : List Char :=
    if n = 9 && !tabs then ['\t']
    else if n < 32 then ['^', Char.ofNat (n + 64)]
    else if n = 127 then ['^', '?'] else [Char.ofNat n]
  if c == '\n' then ['\n']
  else if c == '\t' then (if tabs then ['^', 'I'] else ['\t'])
  else if !controls then [c]
  else if c.toNat < 128 then plain c.toNat
  else 'M' :: '-' :: (if c.toNat = 137 then ['^', 'I'] else plain (c.toNat - 128))

def showEnd (line : String) : String :=
  if line.endsWith "\n" then (line.dropEnd 1).toString ++ "$\n" else line

def catOptions : OptionTable :=
  { flags := "nbsAETvetu", valued := "",
    long := [("number", 'n'), ("number-nonblank", 'b'), ("squeeze-blank", 's'), ("show-all", 'A'),
      ("show-ends", 'E'), ("show-tabs", 'T'), ("show-nonprinting", 'v')], mixed := true }

/-- Prints files one after the other. -/
def cat : Utility := withOptions catOptions 1 fun options => do
  let (text, complete) ← Work.readJoined options.operands
  let has (letters : String) : Bool := letters.toList.any options.has
  let lines := linesWithEnds text
  let lines := if has "s" then squeezeLines lines else lines
  let shown := lines.map fun line =>
    String.ofList (line.toList.flatMap (visible (has "AtT") (has "Aetv")))
  let ended := if has "AeE" then shown.map showEnd else shown
  let blank (line : String) : Bool := line == "\n" || line == "$\n"
  let numbered :=
    if has "b" then
      let bare := ended.map fun line => if blank line then "\n" else line
      (numberLines false 1 bare).map fun line =>
        if line == "\n" && has "AeE" then "$\n" else line
    else if has "n" then numberLines true 1 ended else ended
  Work.print (String.join numbered)
  return Work.statusOf complete

/-! ## head and tail -/

/-- The last items of a list. -/
def lastItems {α : Type} (count : Nat) (items : List α) : List α :=
  items.drop (items.length - count)

theorem lastItems_append {α : Type} (a b : List α) : lastItems b.length (a ++ b) = b := by
  simp [lastItems]

/-- A number with a letter for a multiple. -/
def multiple? (text : String) : Option Nat :=
  let digits := text.toList.takeWhile Char.isDigit
  let n := Nat.ofDigitChars 10 digits 0
  match digits.isEmpty, String.ofList (text.toList.drop digits.length) with
  | true, _ => none
  | _, "" => some n
  | _, "b" => some (512 * n)
  | _, "k" | _, "K" => some (1024 * n)
  | _, "kB" => some (1000 * n)
  | _, "m" | _, "M" => some (1024 * 1024 * n)
  | _, "MB" => some (1000 * 1000 * n)
  | _, _ => none

/-- How much of a text is passed on: a number of lines or of characters, from one end or the other
one. -/
structure Portion where
  characters : Bool
  sign : Option Char
  count : Nat

/-- Reads a portion. -/
def Portion.ofText? (characters : Bool) (text : String) : Option Portion :=
  match text.toList with
  | '-' :: cs => (multiple? (String.ofList cs)).map (⟨characters, some '-', ·⟩)
  | '+' :: cs => (multiple? (String.ofList cs)).map (⟨characters, some '+', ·⟩)
  | _ => (multiple? text).map (⟨characters, none, ·⟩)

/-- Cuts a text by lines or by characters. -/
def Portion.cut (portion : Portion) (choose : {α : Type} → List α → List α) (text : String) :
    String :=
  if portion.characters then String.ofList (choose text.toList)
  else String.join (choose (linesWithEnds text))

/-- The first part of a text, or all but the last part. -/
def Portion.head (portion : Portion) : String → String :=
  portion.cut fun items =>
    if portion.sign = some '-' then items.take (items.length - portion.count)
    else items.take portion.count

/-- The last part of a text, or the part from some place on. -/
def Portion.tail (portion : Portion) : String → String :=
  portion.cut fun items =>
    if portion.sign = some '+' then items.drop (portion.count - 1)
    else lastItems portion.count items

/-- A number behind a dash as the value of an option. -/
def numericOption (args : List String) : List String :=
  match args with
  | arg :: rest =>
    match arg.toList with
    | '-' :: c :: cs =>
      if c.isDigit then
        let digits := (c :: cs).takeWhile Char.isDigit
        let letters := (c :: cs).drop digits.length
        let kind := if letters.contains 'c' then "-c" else "-n"
        let others := letters.filter "qvf".toList.contains
        kind :: String.ofList digits ::
          ((if others.isEmpty then [] else [String.ofList ('-' :: others)]) ++ rest)
      else args
    | _ => args
  | [] => []

def portionOptions : OptionTable :=
  { flags := "qvfFz", valued := "nc",
    long := [("lines", 'n'), ("bytes", 'c'), ("quiet", 'q'), ("silent", 'q'), ("verbose", 'v')],
    mixed := true }

/-- The portion that options ask for. -/
def portionOf (options : Options) : Except String Portion :=
  match options.given.reverse.find? fun (letter, _) => letter == 'n' || letter == 'c' with
  | none => .ok ⟨false, none, 10⟩
  | some ('c', text) =>
    (Portion.ofText? true text).elim (.error s!"invalid number of bytes: '{text}'") .ok
  | some (_, text) =>
    (Portion.ofText? false text).elim (.error s!"invalid number of lines: '{text}'") .ok

/-- Prints a part of each file, with names if there are several. -/
def portions (choose : Portion → String → String) (table : OptionTable) : Utility := fun args =>
  withOptions table 1 (fun options => do
    match portionOf options with
    | .error fault => Work.fail 1 fault
    | .ok portion =>
      let several := 1 < options.operands.length
      let (texts, complete) ← Work.readOperands options.operands
      let named := (several || options.has 'v') && !options.has 'q'
      for ((path, text), i) in texts.zipIdx do
        let name := if path = "-" then "standard input" else path
        if named then Work.print ((if i = 0 then "" else "\n") ++ s!"==> {name} <==\n")
        Work.print (choose portion text)
      return Work.statusOf complete) (numericOption args)

def head : Utility := portions Portion.head portionOptions

def tail : Utility := fun args =>
  let args :=
    match args with
    | arg :: rest =>
      if arg.startsWith "+" && 1 < arg.length then "-n" :: arg :: rest else args
    | [] => []
  portions Portion.tail portionOptions args

/-! ## Other filters -/

/-- Prints lines in reverse order. -/
def tac : Utility := withOptions { flags := "", valued := "", long := [], mixed := true } 1
    fun options => do
  let (texts, complete) ← Work.readOperands options.operands
  for (_, text) in texts do
    Work.print (String.join (linesWithEnds text).reverse)
  return Work.statusOf complete

/-- Prints each line from its end to its start. -/
def rev : Utility := fun args => do
  let (text, complete) ← Work.readJoined args
  Work.print (String.join ((linesWithEnds text).map fun line =>
    if line.endsWith "\n" then String.ofList (line.toList.dropLast.reverse ++ ['\n'])
    else String.ofList line.toList.reverse))
  return Work.statusOf complete

/-- Prints the input and writes it to files. -/
def tee : Utility := withOptions { flags := "aip", valued := "", long := [("append", 'a')],
                                   mixed := true } 1 fun options => do
  match ← Work.readAll 0 with
  | .error cause => Work.fail 1 cause.plainMessage
  | .ok text =>
    Work.print text
    let mut complete := true
    for path in options.operands do
      match ← Work.writeFile path text (options.has 'a') with
      | .ok () => pure ()
      | .error cause =>
        Work.complainOf path cause
        complete := false
    return Work.statusOf complete

/-! ## Counting -/

def isBlank (c : Char) : Bool := c == ' ' || (9 ≤ c.toNat && c.toNat ≤ 13)

/-- The words of a text. -/
def blankWords (text : String) : List String :=
  ((text.toList.splitOnP isBlank).filter (!·.isEmpty)).map String.ofList

/-- The columns of a text of one line, where a tab goes on to a multiple of eight. -/
def columns (line : String) : Nat :=
  line.toList.foldl (fun n c => if c == '\t' then n / 8 * 8 + 8 else n + 1) 0

/-- The numbers for some letters. -/
def counts (letters : List Char) (text : String) : List Nat :=
  letters.map fun
    | 'l' => text.toList.count '\n'
    | 'w' => (blankWords text).length
    | 'L' => ((splitLines text).1.map columns).foldl max 0
    | _ => text.length

def wcOptions : OptionTable :=
  { flags := "lwcmL", valued := "",
    long := [("lines", 'l'), ("words", 'w'), ("bytes", 'c'), ("chars", 'm'),
      ("max-line-length", 'L')], mixed := true }

/-- Prints how many lines, words and characters there are. -/
def wc : Utility := withOptions wcOptions 1 fun options => do
  let chosen := "lwmcL".toList.filter options.has
  let fromFile ← Work.readsFile
  let letters := if chosen.isEmpty then ['l', 'w', 'c'] else chosen
  let (texts, complete) ← Work.readOperands options.operands
  let rows := texts.map fun (path, text) => (counts letters text, path)
  let total := rows.foldl (fun sums (row, _) => List.zipWith (· + ·) sums row)
    (letters.map fun _ => 0)
  let rows := if 1 < options.operands.length then rows ++ [(total, "total")] else rows
  let size := ((texts.map fun (_, text) => text.length).foldl (· + ·) 0)
  let width :=
    if rows.length ≤ 1 && letters.length = 1 then 1
    else if (options.operands.isEmpty || options.operands.contains "-") && !fromFile then 7
    else (Nat.repr size).length
  for (row, path) in rows do
    let numbers := " ".intercalate (row.map fun n => rightAligned width (Nat.repr n))
    Work.print (numbers ++ (if options.operands.isEmpty then "" else " " ++ path) ++ "\n")
  return Work.statusOf complete

end RaidProvision.Utility

import RaidProvision.Binary64.Format
import RaidProvision.Binary64.Sum
import RaidProvision.Utility.Printf

/-!
# Cells

What a variable of a script for records holds: nothing yet, a number, a text, or a text from outside
that spells a number and counts as both.

* `Cell.text_ofInput`: what comes from outside keeps its text.
-/
namespace RaidProvision.Awk

/-- What a variable holds. -/
inductive Cell where
  | unset
  | number (x : Binary64)
  | text (s : String)
  /-- A text from outside and the number that it spells. -/
  | both (s : String) (x : Binary64)
  deriving DecidableEq, Repr, Inhabited

/-- The number at the start of a text, or zero. -/
def leadingNumber (s : String) : Binary64 :=
  ((Printf.takeReal? s.toList).map Prod.fst).getD (.zero false)

def isBlank (c : Char) : Bool := c == ' ' || c == '\t' || c == '\n'

/-- A text from outside. -/
def Cell.ofInput (s : String) : Cell :=
  match Printf.takeReal? s.toList with
  | some (x, rest) => if rest.all isBlank then .both s x else .text s
  | none => .text s

def Cell.ofNat (n : Nat) : Cell := .number (.ofNat n)

def Cell.ofBool (b : Bool) : Cell := .ofNat b.toNat

def Cell.toNumber : Cell → Binary64
  | unset => .zero false
  | number x | both _ x => x
  | text s => leadingNumber s

def Cell.isTrue : Cell → Bool
  | unset => false
  | number x | both _ x => !x.isZero
  | text s => s != ""

/-! ## Formats -/

/-- Reads a width or a precision, which a cell may give. -/
def takeMeasure (cs : List Char) (cells : List Cell) : Int × List Char × List Cell :=
  match cs with
  | '*' :: rest => ((cells.headD .unset).toNumber.toInt, rest, cells.drop 1)
  | cs =>
    let digits := cs.takeWhile Char.isDigit
    (Nat.ofDigitChars 10 digits 0, cs.drop digits.length, cells)

/-- Reads the field of a directive. -/
def takeField (cs : List Char) (cells : List Cell) : Printf.Field × List Char × List Cell :=
  let flags := cs.takeWhile "#-+ 0".toList.contains
  let (width, rest, cells) := takeMeasure (cs.drop flags.length) cells
  let (precision, rest, cells) :=
    match rest with
    | '.' :: rest =>
      let (n, rest, cells) := takeMeasure rest cells
      (if n < 0 then none else some n.toNat, rest, cells)
    | rest => (none, rest, cells)
  ({ left := flags.contains '-' || width < 0, plus := flags.contains '+',
     blank := flags.contains ' ', alternate := flags.contains '#', zero := flags.contains '0',
     width := width.natAbs, precision := precision }, rest, cells)

/-- A cell in a field, where `textOf` says how numbers are written as texts. -/
def filled (textOf : Cell → String) (field : Printf.Field) (conversion : Char) (cell : Cell) :
    Option (List Char) :=
  match conversion with
  | 'd' | 'i' => some (field.signed cell.toNumber.toInt)
  | 'o' | 'u' | 'x' | 'X' =>
    some (field.unsigned conversion (cell.toNumber.toInt % (2 * Printf.wordBound)).toNat)
  | 'e' | 'E' | 'f' | 'F' | 'g' | 'G' => some (field.real conversion cell.toNumber)
  | 's' => some (field.text (textOf cell).toList)
  | 'c' =>
    match cell with
    | .number x => some (field.pad [Escape.octet (x.toInt % 256).toNat])
    | cell => some (field.pad [(textOf cell).toList.headD '\x00'])
  | _ => none

/-- Why a format cannot be used. -/
inductive FormatFault where
  | missing
  | unknown
  deriving DecidableEq, Repr

def FormatFault.message : FormatFault → String
  | missing => "not enough arguments passed to printf"
  | unknown => "improper conversion in printf"

/-- A format with cells put in, up to a fault if there is one. `fuel` bounds its length. -/
def formatted (textOf : Cell → String) :
    (fuel : Nat) → List Char → List Cell → List Char × Option FormatFault
  | fuel + 1, '%' :: '%' :: rest, cells =>
    let (cs, fault) := formatted textOf fuel rest cells
    ('%' :: cs, fault)
  | fuel + 1, '%' :: rest, cells =>
    let (field, after, left) := takeField rest cells
    match after, left with
    | [], _ => ('%' :: rest, none)
    | _ :: _, [] => ([], some .missing)
    | conversion :: after, cell :: left =>
      match filled textOf field conversion cell with
      | some cs =>
        let (others, fault) := formatted textOf fuel after left
        (cs ++ others, fault)
      | none => ([], some .unknown)
  | fuel + 1, c :: rest, cells =>
    let (cs, fault) := formatted textOf fuel rest cells
    (c :: cs, fault)
  | _, _, _ => ([], none)

/-- A number as a text. An integer has no point, for others there is a format. -/
def numberText (format : String) (x : Binary64) : String :=
  if x.isInteger then toString x.toInt
  else String.ofList (formatted (fun _ => "") format.length format.toList [.number x]).1

/-- A cell as a text, with a format for numbers. -/
def Cell.toText (format : String) : Cell → String
  | unset => ""
  | number x => numberText format x
  | text s | both s _ => s

theorem Cell.text_ofInput (format s : String) : (Cell.ofInput s).toText format = s := by
  unfold ofInput
  split
  · split <;> rfl
  · rfl

/-! ## Comparison -/

/-- How two cells are ordered: as numbers if both can be, and else as texts. -/
def Cell.compare? (format : String) (a b : Cell) : Option Ordering :=
  match a, b with
  | .text s, b => some (compareOfLessAndEq s (b.toText format))
  | a, .text t => some (compareOfLessAndEq (a.toText format) t)
  | a, b => a.toNumber.compare? b.toNumber

end RaidProvision.Awk

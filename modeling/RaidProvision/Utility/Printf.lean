import RaidProvision.Binary64.Places
import RaidProvision.Shell.Arithmetic
import RaidProvision.System.Work
import RaidProvision.Utility.Escape

/-!
# Printing with a format

A format is characters to be printed and directives, each of which puts an argument into a field of
the output. It is used again as long as arguments are left.

* `length_pad`: a field is as wide as asked, or as its text.
-/
namespace RaidProvision.Printf

open RaidProvision.Shell (takeSigned?)

/-- Where and how a text is put. -/
structure Field where
  left : Bool
  plus : Bool
  blank : Bool
  /-- Whether the form that shows the base or the point is asked for. -/
  alternate : Bool
  zero : Bool
  width : Nat
  precision : Option Nat
  deriving Inhabited

namespace Field

/-- A text filled up with blanks. -/
def pad (field : Field) (cs : List Char) : List Char :=
  let gap := List.replicate (field.width - cs.length) ' '
  if field.left then cs ++ gap else gap ++ cs

theorem length_pad (field : Field) (cs : List Char) :
    (field.pad cs).length = max field.width cs.length := by
  simp only [pad]
  split <;> simp only [List.length_append, List.length_replicate] <;> omega

/-- A number filled up with blanks, or with zeros behind its sign. -/
def padNumber (field : Field) (zeros : Bool) (sign digits : List Char) : List Char :=
  if zeros && field.zero && !field.left then
    sign ++ Binary64.leftZeros (field.width - sign.length) digits
  else field.pad (sign ++ digits)

def sign (field : Field) (negative : Bool) : List Char :=
  if negative then ['-'] else if field.plus then ['+'] else if field.blank then [' '] else []

/-- Digits filled up to the precision. A zero is nothing if no digit is asked for. -/
def digits (field : Field) (base n : Nat) : List Char :=
  if n = 0 && field.precision = some 0 then []
  else Binary64.leftZeros (field.precision.getD 1) (Nat.toDigits base n)

def text (field : Field) (cs : List Char) : List Char :=
  field.pad (match field.precision with
    | some n => cs.take n
    | none => cs)

def signed (field : Field) (n : Int) : List Char :=
  field.padNumber field.precision.isNone (field.sign (n < 0)) (field.digits 10 n.natAbs)

def unsigned (field : Field) (conversion : Char) (n : Nat) : List Char :=
  let zeros := field.precision.isNone
  match conversion with
  | 'o' =>
    let digits := field.digits 8 n
    let lead := field.alternate && digits.head? != some '0'
    field.padNumber zeros [] (if lead then '0' :: digits else digits)
  | 'x' =>
    field.padNumber zeros (if field.alternate && n != 0 then ['0', 'x'] else []) (field.digits 16 n)
  | 'X' =>
    field.padNumber zeros (if field.alternate && n != 0 then ['0', 'X'] else [])
      ((field.digits 16 n).map Char.toUpper)
  | _ => field.padNumber zeros [] (field.digits 10 n)

def real (field : Field) (conversion : Char) (x : Binary64) : List Char :=
  let upper := conversion.isUpper
  let word (s : String) := if upper then s.toList.map Char.toUpper else s.toList
  match x with
  | .nan => field.padNumber false (field.sign false) (word "nan")
  | .infinity negative => field.padNumber false (field.sign negative) (word "inf")
  | .finite negative mantissa exponent =>
    let (num, den) := Binary64.ratio mantissa exponent
    let precision := field.precision.getD 6
    field.padNumber true (field.sign negative) (match conversion.toLower with
      | 'f' => Binary64.fixedRatio precision field.alternate num den
      | 'e' => Binary64.scientificRatio precision field.alternate upper num den
      | _ => Binary64.generalRatio precision field.alternate upper num den)

end Field

/-! ## Arguments -/

/-- What a format is used with, and what came of it. -/
structure Progress where
  args : List String
  /-- What was complained about, the latest first. -/
  complaints : List String
  /-- What was printed, the last character first. -/
  printed : List Char

/-- A part of the use of a format, which may find a fault in it. -/
abbrev Filling (α : Type) := ExceptT String (StateM Progress) α

def next? : Filling (Option String) := do
  match (← get).args with
  | [] => return none
  | arg :: rest =>
    modify fun progress => { progress with args := rest }
    return some arg

def complain (text : String) : Filling Unit :=
  modify fun progress => { progress with complaints := text :: progress.complaints }

def put (cs : List Char) : Filling Unit :=
  modify fun progress => { progress with printed := cs.reverse ++ progress.printed }

/-- Complains about what is left of an argument behind a number. -/
def checkRest (arg : String) (taken : Bool) (rest : List Char) (inRange : Bool) : Filling Unit := do
  if !rest.isEmpty then
    complain (arg ++ if taken then ": not completely converted" else ": expected numeric value")
  else if !inRange then complain (arg ++ ": Numerical result out of range")

/-- The number of the character after a quote. -/
def quotedCode? (arg : String) : Option Nat :=
  match arg.toList with
  | c :: rest => if c == '"' || c == '\'' then some ((rest.head?.map Char.toNat).getD 0) else none
  | [] => none

/-- The next argument as a number between two bounds. -/
def nextInt (least greatest : Int) : Filling Int := do
  match ← next? with
  | none => return 0
  | some arg =>
    match quotedCode? arg with
    | some code => return code
    | none =>
      let taken := takeSigned? arg.toList
      let (n, rest) := taken.getD (0, arg.toList)
      checkRest arg taken.isSome rest (least ≤ n && n ≤ greatest)
      return max least (min n greatest)

/-- The least whole number beyond a word of 64 bits with a sign. -/
def wordBound : Int := 9223372036854775808

def nextSigned : Filling Int := nextInt (-wordBound) (wordBound - 1)

/-- The next argument as a number without sign. A negative one counts from the greatest down. -/
def nextUnsigned : Filling Nat := do
  let bound := 2 * wordBound
  let n ← nextInt (1 - bound) (bound - 1)
  return (n % bound).toNat

/-- Takes the digits of a number with a point and an exponent. -/
def realLength (cs : List Char) : Nat :=
  let whole := cs.takeWhile Char.isDigit
  let rest := cs.drop whole.length
  let (part, after) := Binary64.fraction rest
  if whole.isEmpty && part.isEmpty then 0
  else
    let length := cs.length - after.length
    match after with
    | e :: tail =>
      let digits := (Binary64.signed tail).2
      let count := (digits.takeWhile Char.isDigit).length
      if (e == 'e' || e == 'E') && 0 < count then length + 1 + (tail.length - digits.length) + count
      else length
    | [] => length

/-- Names of numbers that are not finite, the longer ones first. -/
def realNames : List String := ["infinity", "inf", "nan"]

/-- Takes a number with a point, an exponent, or a name. -/
def takeReal? (cs : List Char) : Option (Binary64 × List Char) :=
  let cs := cs.dropWhile Shell.isArithmeticSpace
  let (_, unsigned) := Binary64.signed cs
  let lead := cs.length - unsigned.length
  let named := realNames.find? fun name => name.toList.isPrefixOf (unsigned.map Char.toLower)
  let length := (named.map String.length).getD (realLength unsigned)
  if length = 0 then none
  else (Binary64.ofLiteral? (String.ofList (cs.take (lead + length)))).map fun x =>
    (x, cs.drop (lead + length))

def nextReal : Filling Binary64 := do
  match ← next? with
  | none => return .zero false
  | some arg =>
    match quotedCode? arg with
    | some code => return .ofNat code
    | none =>
      let taken := takeReal? arg.toList
      let (x, rest) := taken.getD (.zero false, arg.toList)
      checkRest arg taken.isSome rest true
      return x

/-! ## Directives -/

/-- Reads a width or a precision, which an argument may give. -/
def readMeasure (cs : List Char) : Filling (Int × List Char) := do
  match cs with
  | '*' :: rest => return (← nextSigned, rest)
  | cs =>
    let digits := cs.takeWhile Char.isDigit
    return (Nat.ofDigitChars 10 digits 0, cs.drop digits.length)

/-- Reads the field of a directive. -/
def readField (cs : List Char) : Filling (Field × List Char) := do
  let flags := cs.takeWhile "#-+ 0".toList.contains
  let (width, rest) ← readMeasure (cs.drop flags.length)
  let (precision, rest) ←
    match rest with
    | '.' :: rest => do
      let (n, rest) ← readMeasure rest
      pure (if n < 0 then none else some n.toNat, rest)
    | rest => pure (none, rest)
  return ({ left := flags.contains '-' || width < 0, plus := flags.contains '+',
            blank := flags.contains ' ', alternate := flags.contains '#',
            zero := flags.contains '0', width := width.natAbs, precision := precision }, rest)

/-- Prints what a directive asks for. Returns whether nothing follows, if there is such a
directive. -/
def fill (field : Field) (conversion : Char) : Filling (Option Bool) := do
  let printed (cs : List Char) : Filling (Option Bool) := do
    put cs
    return some false
  match conversion with
  | 'b' =>
    let (cs, ended) := Escape.unescape ((← next?).getD "").toList
    put (field.text cs)
    return some ended
  | 'c' => printed (field.pad [((← next?).getD "").toList.head?.getD '\x00'])
  | 's' => printed (field.text ((← next?).getD "").toList)
  | 'd' | 'i' => printed (field.signed (← nextSigned))
  | 'o' | 'u' | 'x' | 'X' => printed (field.unsigned conversion (← nextUnsigned))
  | 'e' | 'E' | 'f' | 'F' | 'g' | 'G' => printed (field.real conversion (← nextReal))
  | _ => return none

/-- Uses a format once. Returns whether nothing follows. `fuel` bounds its length. -/
def useOnce : (fuel : Nat) → List Char → Filling Bool
  | 0, _ => return false
  | _, [] => return false
  | fuel + 1, '\\' :: rest => do
    let (c, rest) := Escape.take rest
    put [c]
    useOnce fuel rest
  | fuel + 1, '%' :: '%' :: rest => do
    put ['%']
    useOnce fuel rest
  | fuel + 1, '%' :: rest => do
    let (field, after) ← readField rest
    match after with
    | [] => throw "missing format character"
    | conversion :: after =>
      match ← fill field conversion with
      | some true => return true
      | some false => useOnce fuel after
      | none =>
        let directive := '%' :: rest.take (rest.length - after.length)
        throw (String.ofList directive ++ ": invalid directive")
  | fuel + 1, c :: rest => do
    put [c]
    useOnce fuel rest

/-- Uses a format until the arguments are used up. `fuel` bounds how often. -/
def useAll (format : List Char) : (fuel : Nat) → Filling Unit
  | 0 => return ()
  | fuel + 1 => do
    let before := (← get).args.length
    let ended ← useOnce format.length format
    let left := (← get).args.length
    if !ended && left != 0 && left != before then useAll format fuel

end RaidProvision.Printf

namespace RaidProvision

/-- The letter of an argument that looks like an option. -/
def Utility.optionLetter? (arg : String) : Option Char :=
  match arg.toList with
  | '-' :: c :: _ => some c
  | _ => none

/-- Prints arguments with a format. -/
def Utility.printf : Utility := fun args => do
  let ended := args.head? = some "--"
  match if ended then args.drop 1 else args with
  | [] => Work.fail 2 "usage: printf format [arg ...]"
  | format :: args => do
    if let some letter := if ended then none else optionLetter? format then
      return ← Work.fail 2 s!"Illegal option -{letter}"
    let (result, progress) := (Printf.useAll format.toList (args.length + 1)).run ⟨args, [], []⟩
    progress.complaints.reverse.forM Work.complain
    Work.print (String.ofList progress.printed.reverse)
    match result with
    | .ok () => return if progress.complaints.isEmpty then 0 else 1
    | .error fault => Work.fail 2 fault

end RaidProvision

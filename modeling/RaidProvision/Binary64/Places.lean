import RaidProvision.Binary64.Literal

/-!
# Numbers with a given precision

A magnitude is written with a number of decimal places, or with one digit before the point and an
exponent, or in whichever of the two is apt for a number of significant digits. The exact value is
rounded once, a tie to the even digit.

* `length_leftZeros`: digits are filled up to a width.
-/
namespace RaidProvision.Binary64

/-- Digits filled up with zeros on the left. -/
def leftZeros (width : Nat) (digits : List Char) : List Char :=
  List.replicate (width - digits.length) '0' ++ digits

theorem length_leftZeros (width : Nat) (digits : List Char) :
    (leftZeros width digits).length = max width digits.length := by
  simp only [leftZeros, List.length_append, List.length_replicate]
  omega

/-- A magnitude as a quotient. -/
def ratio (mantissa : Nat) (exponent : Int) : Nat × Nat := shiftRatio mantissa 1 (-exponent)

/-- Digits with a point before the last ones. `pointed` asks for a point before none. -/
def withPoint (places : Nat) (pointed : Bool) (digits : List Char) : List Char :=
  let whole := digits.take (digits.length - places)
  let part := digits.drop (digits.length - places)
  if part.isEmpty && !pointed then whole else whole ++ '.' :: part

/-- A quotient with some decimal places. -/
def fixedRatio (places : Nat) (pointed : Bool) (num den : Nat) : List Char :=
  withPoint places pointed
    (leftZeros (places + 1) (Nat.toDigits 10 (roundDiv (num * tenTo places) den)))

/-- The exponent of the first digit of a quotient that is not zero. -/
def leadingExponent (num den : Nat) : Int :=
  let guess : Int := (Nat.toDigits 10 num).length - (Nat.toDigits 10 den).length
  if num * tenTo (-guess).toNat < den * tenTo guess.toNat then guess - 1 else guess

/-- A quotient rounded to a number of digits, as these digits and the exponent of the first one. -/
def significantDigits (count : Nat) (num den : Nat) : List Char × Int :=
  if num = 0 then (List.replicate count '0', 0)
  else
    let x := leadingExponent num den
    let shift : Int := count - 1 - x
    let n := roundDiv (num * tenTo shift.toNat) (den * tenTo (-shift).toNat)
    let digits := Nat.toDigits 10 n
    if count < digits.length then (digits.take count, x + 1) else (digits, x)

/-- An exponent with its sign and at least two digits. -/
def exponentMark (upper : Bool) (x : Int) : List Char :=
  (if upper then 'E' else 'e') :: (if x < 0 then '-' else '+') ::
    leftZeros 2 (Nat.toDigits 10 x.natAbs)

/-- A quotient with one digit before the point. -/
def scientificRatio (places : Nat) (pointed upper : Bool) (num den : Nat) : List Char :=
  let (digits, x) := significantDigits (places + 1) num den
  withPoint places pointed digits ++ exponentMark upper x

/-- Digits after a point without the zeros at the end. -/
def dropZeros (cs : List Char) : List Char :=
  if cs.contains '.' then
    let kept := (cs.reverse.dropWhile (· == '0')).reverse
    if kept.getLast? = some '.' then kept.dropLast else kept
  else cs

/-- A quotient with a number of significant digits. Zeros at the end are kept if a point is asked
for. -/
def generalRatio (precision : Nat) (pointed upper : Bool) (num den : Nat) : List Char :=
  let count := max 1 precision
  let (digits, x) := significantDigits count num den
  let trim (cs : List Char) := if pointed then cs else dropZeros cs
  if x < -4 || (count : Int) ≤ x then
    trim (withPoint (count - 1) pointed digits) ++ exponentMark upper x
  else trim (fixedRatio (count - 1 - x).toNat pointed num den)

end RaidProvision.Binary64

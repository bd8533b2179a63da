import RaidProvision.Binary64.Basic
import RaidProvision.Text.Ascii

/-!
# Decimal literals

A literal is an optional sign, then digits with at most one point among them, then an optional
exponent; or, in any letter case, `inf`, `infinity` or `nan` after the sign. Its value is the
nearest double precision number.

* `ofDecimal_zero`: no exponent makes zero anything else.
-/
namespace RaidProvision.Binary64

open RaidProvision.Text

/-- The number of decimal digits of a natural number; zero has none. -/
def digitCount (n : Nat) : Nat := if n = 0 then 0 else (Nat.toDigits 10 n).length

/-- The value nearest to `digits · 10 ^ exponent`. Far outside the range of the format the power is
not computed. -/
def ofDecimal (negative : Bool) (digits : Nat) (exponent : Int) : Binary64 :=
  let magnitude := digitCount digits + exponent
  if digits = 0 || magnitude < -330 then zero negative
  else if 310 < magnitude then .infinity negative
  else ofRatio negative (digits * tenTo exponent.toNat) (tenTo (-exponent).toNat)

@[simp]
theorem ofDecimal_zero (negative : Bool) (exponent : Int) :
    ofDecimal negative 0 exponent = zero negative := by simp [ofDecimal]

/-- The number that digits spell. -/
def ofDigits (cs : List Char) : Nat := Nat.ofDigitChars 10 cs 0

/-- A sign and what follows it. -/
def signed : List Char → Bool × List Char
  | '+' :: cs => (false, cs)
  | '-' :: cs => (true, cs)
  | cs => (false, cs)

/-- The exponent part of a literal: nothing, or a letter, an optional sign and digits. -/
def exponentPart : List Char → Option Int
  | [] => some 0
  | c :: cs =>
    if c = 'e' || c = 'E' then
      let (negative, ds) := signed cs
      if ds.isEmpty || !ds.all Char.isDigit then none
      else some (if negative then -(ofDigits ds : Int) else ofDigits ds)
    else none

/-- The point and the digits after it, if there is a point, and what follows. -/
def fraction : List Char → List Char × List Char
  | '.' :: cs => (cs.takeWhile Char.isDigit, cs.dropWhile Char.isDigit)
  | cs => ([], cs)

/-- Reads a literal. -/
def ofLiteral? (s : String) : Option Binary64 :=
  let (negative, cs) := signed s.toList
  let word := String.ofList cs
  if sameFold word "inf" || sameFold word "infinity" then some (.infinity negative)
  else if sameFold word "nan" then some .nan
  else
    let whole := cs.takeWhile Char.isDigit
    let (part, rest) := fraction (cs.dropWhile Char.isDigit)
    if whole.isEmpty && part.isEmpty then none
    else
      (exponentPart rest).map fun e =>
        ofDecimal negative (ofDigits (whole ++ part)) (e - part.length)

end RaidProvision.Binary64

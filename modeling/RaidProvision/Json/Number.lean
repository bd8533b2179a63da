import RaidProvision.Binary64.Format
import RaidProvision.Binary64.Literal
import RaidProvision.Json.Value

/-!
# JSON numbers in text

An integer literal that fits a word of 64 bits is read exactly. Every other literal is read as a
significand below `2 ^ 64`, which takes as many digits as fit, and a power of ten; the significand
is rounded to double precision and then multiplied or divided by the rounded power. A result beyond
the range of double precision is no number.

* `Number.style`: how a double precision number is written.
-/
namespace RaidProvision.Json

open Binary64

/-- The significand of a literal and the power of ten that belongs to it. -/
structure Significand where
  digits : Nat
  exponent : Int
  /-- Whether a digit was found that does not fit any more. -/
  full : Bool

/-- One more digit: taken if it fits, after the first that does not all are left out. `whenTaken`
and `whenLeft` are the changes of the exponent. -/
def Significand.add (whenTaken whenLeft : Int) (s : Significand) (c : Char) : Significand :=
  let next := 10 * s.digits + (c.toNat - '0'.toNat)
  if s.full || UInt64.size ≤ next then { s with exponent := s.exponent + whenLeft, full := true }
  else { s with digits := next, exponent := s.exponent + whenTaken }

/-- The greatest exponent whose digits are read one by one. -/
def exponentLimit : Nat := 2147483647

/-- The power of ten as a double precision number. -/
def powerOfTen (k : Nat) : Binary64 := Binary64.ofNat (tenTo k)

/-- The magnitude `digits · 10 ^ exponent`, unless it is beyond the range. Two divisions by `10 ^
308` leave nothing of a word. -/
def magnitude? (digits : Nat) (exponent : Int) : Option Binary64 :=
  let x := Binary64.ofNat digits
  let finite? : Binary64 → Option Binary64
    | .infinity _ => none
    | y => some y
  if 0 ≤ exponent then
    if exponent ≤ 308 then finite? (mul x (powerOfTen exponent.toNat))
    else if digits = 0 then some x else none
  else if -308 ≤ exponent then some (div x (powerOfTen (-exponent).toNat))
  else if -616 ≤ exponent then
    some (div (div x (powerOfTen 308)) (powerOfTen (-exponent - 308).toNat))
  else some (zero false)

/-- A magnitude with a sign, as a number. -/
def realOf (negative : Bool) (x : Binary64) : Number := .real (if negative then x.neg else x)

/-- Reads the exponent of a literal, after its letter. -/
def readExponent (negative : Bool) (s : Significand) (cs : List Char) :
    Option (Number × List Char) :=
  let (down, cs) := signed cs
  let ds := cs.takeWhile Char.isDigit
  let rest := cs.dropWhile Char.isDigit
  if ds.isEmpty then none
  else
    let e := ofDigits ds
    if exponentLimit < e then
      if s.digits = 0 || down then some (realOf negative (zero false), rest) else none
    else
      (magnitude? s.digits (if down then s.exponent - e else s.exponent + e)).map fun x =>
        (realOf negative x, rest)

/-- Reads what may follow the digits of a literal that is no integer any more. -/
def readTail (negative : Bool) (s : Significand) : List Char → Option (Number × List Char)
  | 'e' :: cs => readExponent negative s cs
  | 'E' :: cs => readExponent negative s cs
  | cs => (magnitude? s.digits s.exponent).map fun x => (realOf negative x, cs)

/-- Reads the digits after the point, of which there is at least one. -/
def readFraction (negative : Bool) (s : Significand) (cs : List Char) :
    Option (Number × List Char) :=
  let ds := cs.takeWhile Char.isDigit
  if ds.isEmpty then none
  else
    let s := ds.foldl (Significand.add (-1) 0) { s with full := false }
    readTail negative s (cs.dropWhile Char.isDigit)

/-- An integer literal as a number. A negative zero and what does not fit a word with sign are
double precision numbers. -/
def integerOf (negative : Bool) (digits : Nat) : Number :=
  if !negative then .integer digits
  else if 0 < digits && digits ≤ UInt64.size / 2 then .integer (-digits)
  else .real (Binary64.ofNat digits).neg

/-- Reads the digits of a literal. -/
def readMagnitude (negative : Bool) (cs : List Char) : Option (Number × List Char) :=
  let ds := cs.takeWhile Char.isDigit
  if ds.isEmpty || (ds.head? = some '0' && 1 < ds.length) then none
  else
    let s := ds.foldl (Significand.add 0 1) ⟨0, 0, false⟩
    match cs.dropWhile Char.isDigit with
    | '.' :: rest => readFraction negative s rest
    | 'e' :: rest => readExponent negative s rest
    | 'E' :: rest => readExponent negative s rest
    | rest => if s.full then readTail negative s rest else some (integerOf negative s.digits, rest)

/-- Reads a number. -/
def readNumber : List Char → Option (Number × List Char)
  | '-' :: cs => readMagnitude true cs
  | cs => readMagnitude false cs

/-- How a double precision number is written: without an exponent from `0.00001` to below
`10 ^ 16`, with `.0` at a whole number, and a tie goes to the even digit. -/
def Number.style : Style := ⟨.toEven, ".0", some (-5, 16)⟩

/-- Writes a number. -/
def Number.write : Number → String
  | .integer n => toString n
  | .real x => Number.style.write x

end RaidProvision.Json

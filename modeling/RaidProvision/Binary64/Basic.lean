import RaidProvision.Binary64.Power

/-!
# Numbers of 53 significant bits

`Binary64` is the double precision format: finite values `± mantissa · 2 ^ exponent`, two infinities
and one NaN. Each operation is exact first and then rounded once, to the nearest value and in a tie
to the one with an even mantissa. A finite value has one representation: a mantissa below `2 ^ 53`,
and at least `2 ^ 52` unless the exponent is the least one, `-1074`.

* `roundDiv_le`, `le_roundDiv`: rounding a quotient stays within half a unit.
-/
namespace RaidProvision

/-- A double precision number. -/
inductive Binary64 where
  | nan
  | infinity (negative : Bool)
  | finite (negative : Bool) (mantissa : Nat) (exponent : Int)
  deriving DecidableEq, Repr, Inhabited

namespace Binary64

/-- The quotient rounded to the nearest integer, a half to the even one. -/
def roundDiv (num den : Nat) : Nat :=
  let q := num / den
  let r := num % den
  if 2 * r < den then q
  else if den < 2 * r then q + 1
  else if q % 2 = 0 then q else q + 1

theorem roundDiv_le (num den : Nat) : 2 * den * roundDiv num den ≤ 2 * num + den := by
  have h := Nat.div_add_mod num den
  rw [show 2 * den * roundDiv num den = 2 * (den * roundDiv num den) by rw [Nat.mul_assoc]]
  simp only [roundDiv]
  split
  · omega
  · split
    · rw [Nat.mul_add]; omega
    · split
      · omega
      · rw [Nat.mul_add]; omega

theorem le_roundDiv (num den : Nat) (hd : 0 < den) :
    2 * num ≤ 2 * den * roundDiv num den + den := by
  have h := Nat.div_add_mod num den
  have hr := Nat.mod_lt num hd
  rw [show 2 * den * roundDiv num den = 2 * (den * roundDiv num den) by rw [Nat.mul_assoc]]
  simp only [roundDiv]
  split
  · omega
  · split
    · rw [Nat.mul_add]; omega
    · split
      · omega
      · rw [Nat.mul_add]; omega

/-- The least exponent of a finite value. -/
def minExponent : Int := -1074

/-- The greatest exponent of a finite value. -/
def maxExponent : Int := 971

/-- `num / (den · 2 ^ k)` as a quotient. -/
def shiftRatio (num den : Nat) (k : Int) : Nat × Nat :=
  (num * twoTo (-k).toNat, den * twoTo k.toNat)

/-- The exponent with which `num / den` has a mantissa of 53 bits, or the least exponent. -/
def exponentOf (num den : Nat) : Int :=
  let low : Int := num.log2 - den.log2 - 53
  let (n, d) := shiftRatio num den low
  max minExponent (if n < twoTo 53 * d then low else low + 1)

/-- The value nearest to `num / den`, with the given sign. -/
def ofRatio (negative : Bool) (num den : Nat) : Binary64 :=
  if num = 0 then .finite negative 0 minExponent
  else
    let e := exponentOf num den
    let (n, d) := shiftRatio num den e
    let m := roundDiv n d
    let (m, e) := if m = twoTo 53 then (twoTo 52, e + 1) else (m, e)
    if maxExponent < e then .infinity negative else .finite negative m e

/-- The value nearest to a natural number. -/
def ofNat (n : Nat) : Binary64 := ofRatio false n 1

/-- A zero. -/
def zero (negative : Bool) : Binary64 := .finite negative 0 minExponent

/-- The value with the other sign. -/
def neg : Binary64 → Binary64
  | .nan => .nan
  | .infinity s => .infinity !s
  | .finite s m e => .finite (!s) m e

/-- The product, rounded. -/
def mul : Binary64 → Binary64 → Binary64
  | .finite s m e, .finite t n f =>
    let (num, den) := shiftRatio (m * n) 1 (-(e + f))
    ofRatio (s ^^ t) num den
  | .infinity s, .finite t n _ => if n = 0 then .nan else .infinity (s ^^ t)
  | .finite s m _, .infinity t => if m = 0 then .nan else .infinity (s ^^ t)
  | .infinity s, .infinity t => .infinity (s ^^ t)
  | _, _ => .nan

/-- The quotient, rounded. -/
def div : Binary64 → Binary64 → Binary64
  | .finite s m e, .finite t n f =>
    if n = 0 then (if m = 0 then .nan else .infinity (s ^^ t))
    else
      let (num, den) := shiftRatio m n (f - e)
      ofRatio (s ^^ t) num den
  | .infinity s, .finite t _ _ => .infinity (s ^^ t)
  | .finite s _ _, .infinity t => zero (s ^^ t)
  | _, _ => .nan

/-- The nearest integer, a half away from zero. -/
def round : Binary64 → Binary64
  | .finite s m e =>
    if 0 ≤ e then .finite s m e
    else
      let den := twoTo (-e).toNat
      ofRatio s ((2 * m + den) / (2 * den)) 1
  | x => x

/-- Whether the value is an integer. The infinities are none. -/
def isInteger : Binary64 → Bool
  | .finite _ m e => m % twoTo (-e).toNat == 0
  | _ => false

/-- The integer part of the magnitude of a finite value. -/
def floorMagnitude (mantissa : Nat) (exponent : Int) : Nat :=
  mantissa * twoTo exponent.toNat / twoTo (-exponent).toNat

/-- The integer part as a word: what is too large is the greatest word, what is negative or no
number is zero. -/
def toUInt64 : Binary64 → UInt64
  | .nan => 0
  | .infinity negative => if negative then 0 else UInt64.ofNat (UInt64.size - 1)
  | .finite negative m e =>
    if negative then 0 else UInt64.ofNat (min (floorMagnitude m e) (UInt64.size - 1))

end Binary64
end RaidProvision

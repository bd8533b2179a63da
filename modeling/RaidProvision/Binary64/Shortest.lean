import RaidProvision.Binary64.Basic
import RaidProvision.Text.Blank

/-!
# Shortest decimal digits

A finite value is written with the fewest digits that read back as the same value, and among those
with the digits nearest to it. The digits of a candidate lie on a grid `10 ^ place`; on each grid
only the two neighbours of the value can be nearest, and from the coarsest grid on the first one
with a neighbour inside the rounding interval of the value is taken.

* `Interval.holds_of_neighbour?`: what is chosen on a grid reads back.
-/
namespace RaidProvision.Binary64

open RaidProvision.Text

/-- The number whose last digit stands at `10 ^ place`. -/
structure Decimal where
  digits : List Char
  place : Int
  deriving DecidableEq, Repr

/-- Writes a number on a grid without the zeros at its end. -/
def Decimal.ofGrid (c : Nat) (place : Int) : Decimal :=
  let all := Nat.toDigits 10 c
  let digits := dropTrailing (· == '0') all
  ⟨digits, place + (all.length - digits.length : Nat)⟩

/-- The exponent of the first digit. -/
def Decimal.exponent (d : Decimal) : Int := d.place + d.digits.length - 1

/-- The interval of the reals that round to `mantissa · 2 ^ exponent`, in units of `2 ^ (exponent -
2)`; the value itself is `4 · mantissa`. Below the least mantissa of 53 bits the values lie twice as
close. -/
structure Interval where
  low : Nat
  value : Nat
  high : Nat
  /-- Whether the ends belong to it. -/
  closed : Bool
  exponent : Int

def interval (m : Nat) (e : Int) : Interval where
  low := 4 * m - (if m = twoTo 52 && minExponent < e then 1 else 2)
  value := 4 * m
  high := 4 * m + 2
  closed := m % 2 == 0
  exponent := e - 2

/-- The factors that bring units `2 ^ exponent` and a grid `10 ^ place` to one common unit. -/
def commonUnits (exponent place : Int) : Nat × Nat :=
  (twoTo exponent.toNat * tenTo (-place).toNat, tenTo place.toNat * twoTo (-exponent).toNat)

/-- Whether `c · 10 ^ place` reads back as the value. -/
def Interval.holds (i : Interval) (c : Nat) (place : Int) : Bool :=
  let (u, g) := commonUnits i.exponent place
  if i.closed then i.low * u ≤ c * g && c * g ≤ i.high * u
  else i.low * u < c * g && c * g < i.high * u

/-- Of two equally near neighbours on a grid, which one is written. -/
inductive Tie where
  | up
  | toEven
  deriving DecidableEq, Repr

/-- The neighbour of the value on the grid `10 ^ place` that reads back and is nearest. -/
def Interval.neighbour? (i : Interval) (tie : Tie) (place : Int) : Option Nat :=
  let (u, g) := commonUnits i.exponent place
  let c := i.value * u / g
  let r := i.value * u % g
  let down := i.holds c place
  let up := i.holds (c + 1) place
  if down && up then
    if 2 * r < g then some c
    else if g < 2 * r then some (c + 1)
    else match tie with
      | .up => some (c + 1)
      | .toEven => some (if c % 2 = 0 then c else c + 1)
  else if down then some c
  else if up then some (c + 1)
  else none

theorem Interval.holds_of_neighbour? {i : Interval} {tie : Tie} {place : Int} {c : Nat}
    (h : i.neighbour? tie place = some c) : i.holds c place := by
  simp only [Interval.neighbour?] at h
  split at h
  · rename_i hb
    simp only [Bool.and_eq_true] at hb
    split at h
    · cases h; exact hb.1
    · split at h
      · cases h; exact hb.2
      · split at h
        · cases h; exact hb.2
        · split at h <;> cases h
          · exact hb.1
          · exact hb.2
  · split at h
    · cases h; assumption
    · split at h
      · cases h; assumption
      · cases h

/-- Whether `m · 2 ^ e` is below `10 ^ k`. -/
def belowPower (m : Nat) (e k : Int) : Bool :=
  let (u, g) := commonUnits e k
  m * u < g

/-- The number `d` with `10 ^ (d - 1) ≤ m · 2 ^ e < 10 ^ d`, from the bit length and the ratio of
the logarithms. -/
def decimalLength (m : Nat) (e : Int) : Int :=
  let guess := (m.log2 + e) * 30103 / 100000
  if belowPower m e guess then guess
  else if belowPower m e (guess + 1) then guess + 1
  else guess + 2

/-- The shortest decimal that reads back as `m · 2 ^ e`. Seventeen digits always do. -/
def shortest (tie : Tie) (m : Nat) (e : Int) : Decimal :=
  let i := interval m e
  let top := decimalLength m e
  let onGrid (count : Nat) : Option Decimal :=
    let place := top - (count + 1 : Nat)
    (i.neighbour? tie place).map fun c => Decimal.ofGrid c place
  ((List.range 17).findSome? onGrid).getD ⟨[], 0⟩

end RaidProvision.Binary64

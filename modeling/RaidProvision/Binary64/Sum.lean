import RaidProvision.Binary64.Basic

/-!
# Sums, remainders and powers

Two finite values are multiples of one common unit, so they are added, compared and divided with a
remainder as integers. The result is rounded once.

* `add_comm`: the order of summands does not matter.
-/
namespace RaidProvision.Binary64

/-- `± mantissa · 2 ^ exponent` in units of `2 ^ low`, where the exponent is at least `low`. -/
def units (negative : Bool) (mantissa : Nat) (exponent low : Int) : Int :=
  let n : Int := mantissa * twoTo (exponent - low).toNat
  if negative then -n else n

/-- The value nearest to `± n · 2 ^ exponent`. -/
def ofUnits (negative : Bool) (n : Nat) (exponent : Int) : Binary64 :=
  let (num, den) := shiftRatio n 1 (-exponent)
  ofRatio negative num den

/-- The value nearest to an integer. -/
def ofInt (n : Int) : Binary64 := ofUnits (n < 0) n.natAbs 0

/-- The sum, rounded. -/
def add : Binary64 → Binary64 → Binary64
  | .finite s m e, .finite t n f =>
    let low := min e f
    let sum := units s m e low + units t n f low
    if sum = 0 then zero (s && t) else ofUnits (sum < 0) sum.natAbs low
  | .infinity s, .infinity t => if s = t then .infinity s else .nan
  | .infinity s, .finite .. => .infinity s
  | .finite .., .infinity t => .infinity t
  | .nan, _ => .nan
  | _, .nan => .nan

theorem add_comm (x y : Binary64) : x.add y = y.add x := by
  cases x <;> cases y <;> simp only [add]
  · rename_i s t
    cases s <;> cases t <;> rfl
  · rename_i s m e t n f
    simp only [Int.min_comm e f, Int.add_comm (units s m e _), Bool.and_comm s t]

/-- The difference, rounded. -/
def sub (x y : Binary64) : Binary64 := x.add y.neg

/-- How two values are ordered, unless one is no number. -/
def compare? : Binary64 → Binary64 → Option Ordering
  | .finite s m e, .finite t n f =>
    let low := min e f
    some (compare (units s m e low) (units t n f low))
  | .infinity s, .infinity t => some (if s = t then .eq else if s then .lt else .gt)
  | .infinity s, .finite .. => some (if s then .lt else .gt)
  | .finite .., .infinity t => some (if t then .gt else .lt)
  | _, _ => none

/-- Whether the value is one of the two zeros. -/
def isZero : Binary64 → Bool
  | .finite _ m _ => m == 0
  | _ => false

/-- The integer part. -/
def truncate : Binary64 → Binary64
  | .finite s m e => ofUnits s (floorMagnitude m e) 0
  | x => x

/-- The integer part, where what is not finite counts as zero. -/
def toInt : Binary64 → Int
  | .finite s m e => if s then -(floorMagnitude m e : Int) else floorMagnitude m e
  | _ => 0

/-- What is left of a value when the other one is taken away as often as possible. It has the sign
of the first value. -/
def rem : Binary64 → Binary64 → Binary64
  | .finite s m e, .finite t n f =>
    let low := min e f
    if n = 0 then .nan
    else ofUnits s ((units s m e low).natAbs % (units t n f low).natAbs) low
  | .finite s m e, .infinity _ => .finite s m e
  | _, _ => .nan

/-- A natural power, rounded. -/
def powerNat (x : Binary64) (n : Nat) : Binary64 :=
  match x with
  | .finite s m e => ofUnits (s && n % 2 == 1) (Nat.pow m n) (e * n)
  | .infinity s => if n = 0 then ofNat 1 else .infinity (s && n % 2 == 1)
  | .nan => .nan

/-- A power with an exponent that is an integer. There is no number for other exponents, or for too
large ones. -/
def power (x y : Binary64) : Binary64 :=
  let n := y.toInt
  if !y.isInteger || 2000 < n.natAbs then .nan
  else if n < 0 then (ofNat 1).div (x.powerNat n.natAbs)
  else x.powerNat n.natAbs

end RaidProvision.Binary64

import RaidProvision.Binary64.Shortest

/-!
# Writing numbers

`Style.write` writes a number with the fewest digits that read back; a `Style` fixes what is left to
choose. `toFixed1` writes one decimal place, rounding the exact value and a tie to the even digit.
-/
namespace RaidProvision.Binary64

/-- What a writer of shortest digits chooses. -/
structure Style where
  /-- Of two nearest candidates, the one that is written. -/
  tie : Tie
  /-- What follows a whole number that is written without an exponent. -/
  wholeMark : String
  /-- The exponents `low ≤ x < high` of the first digit that are written without an exponent; none
  means all. -/
  positional : Option (Int × Int)

/-- The digits with a point where it belongs. -/
def Decimal.positional (mark : String) (d : Decimal) : String :=
  let zeros (n : Int) := List.replicate n.toNat '0'
  if 0 ≤ d.place then String.ofList (d.digits ++ zeros d.place) ++ mark
  else
    let whole := d.digits.length + d.place
    if 0 < whole then
      String.ofList (d.digits.take whole.toNat ++ '.' :: d.digits.drop whole.toNat)
    else String.ofList ('0' :: '.' :: zeros (-whole) ++ d.digits)

/-- One digit before the point, and the exponent with its sign. -/
def Decimal.scientific (d : Decimal) : String :=
  let part := match d.digits with
    | first :: second :: rest => first :: '.' :: second :: rest
    | digits => digits
  String.ofList part ++ (if d.exponent < 0 then "e-" else "e+") ++ Nat.repr d.exponent.natAbs

/-- Writes a number in a style. -/
def Style.write (style : Style) : Binary64 → String
  | .nan => "NaN"
  | .infinity negative => if negative then "-inf" else "inf"
  | .finite negative m e =>
    let sign := if negative then "-" else ""
    if m = 0 then sign ++ "0" ++ style.wholeMark
    else
      let d := shortest style.tie m e
      let plain := match style.positional with
        | none => true
        | some (low, high) => low ≤ d.exponent && d.exponent < high
      sign ++ (if plain then d.positional style.wholeMark else d.scientific)

/-- Writes a number with one decimal place. -/
def toFixed1 : Binary64 → String
  | .nan => "NaN"
  | .infinity negative => if negative then "-inf" else "inf"
  | .finite negative m e =>
    let tenths := roundDiv (10 * m * twoTo e.toNat) (twoTo (-e).toNat)
    (if negative then "-" else "") ++ Nat.repr (tenths / 10) ++ "." ++ Nat.repr (tenths % 10)

end RaidProvision.Binary64

import RaidProvision.Binary64.Format
import RaidProvision.Binary64.Literal
import RaidProvision.Report.Error
import RaidProvision.Text.Split

/-!
# Sizes (raidmgr specification §4.3)

A tool prints a size as a number and one of five units, each 1024 times the one before. Sizes are
compared and stored in gigabytes: `normalize` converts with two decimals, `wholeGb` converts and
drops the fraction.

* `SizeUnit.ofText?_label`: a unit is read from its own label.
-/
namespace RaidProvision

open RaidProvision.Text

/-- A unit of size (§3). -/
inductive SizeUnit where
  | kb | mb | gb | tb | pb
  deriving DecidableEq, Repr, Inhabited

namespace SizeUnit

def label : SizeUnit → String
  | kb => "KB"
  | mb => "MB"
  | gb => "GB"
  | tb => "TB"
  | pb => "PB"

/-- All units, the smallest first. -/
def all : List SizeUnit := [kb, mb, gb, tb, pb]

/-- The unit with a label, in any letter case (§4.3). -/
def ofText? (s : String) : Option SizeUnit := all.find? fun u => sameFold u.label s

/-- Reads a unit. -/
def ofText (s : String) : Except ReportError SizeUnit :=
  match ofText? s with
  | some u => .ok u
  | none => .error (.unknownUnit s)

theorem ofText?_label (u : SizeUnit) : ofText? u.label = some u := by
  cases u <;> decide

end SizeUnit

/-- A size as a tool prints it (§3). -/
structure Size where
  value : Binary64
  unit : SizeUnit
  deriving DecidableEq, Repr, Inhabited

namespace Size

open Binary64

/-- Reads `value unit`; what follows does not count. -/
def ofText (s : String) : Except ReportError Size :=
  match words s with
  | [] => .error .emptySize
  | value :: rest =>
    match ofLiteral? value with
    | none => .error (.badSizeValue value)
    | some x =>
      match rest with
      | [] => .error (.sizeWithoutUnit (trim s))
      | unit :: _ => (SizeUnit.ofText unit).map fun u => ⟨x, u⟩

/-- Rounds to two decimals, a half away from zero (§4.3). -/
def roundCents (x : Binary64) : Binary64 := div (round (mul x (ofNat 100))) (ofNat 100)

/-- The step between two units. -/
def step : Binary64 := ofNat 1024

/-- The value in gigabytes, one step of 1024 at a time (§4.3). -/
def inGb (size : Size) : Binary64 :=
  match size.unit with
  | .kb => div (div size.value step) step
  | .mb => div size.value step
  | .gb => size.value
  | .tb => mul size.value step
  | .pb => mul (mul size.value step) step

/-- The size in gigabytes with two decimals (§4.3). -/
def normalize (size : Size) : Size := ⟨roundCents size.inGb, .gb⟩

/-- The whole gigabytes, not rounded: 511990 MB are 499 GB (§4.3). -/
def wholeGb (size : Size) : UInt64 := size.inGb.toUInt64

/-- How a size with a fraction is written. -/
def style : Style := ⟨.up, "", none⟩

/-- The number in full. -/
def valueText (size : Size) : String := style.write size.value

/-- The size with two decimals at most and one at least. -/
def toText (size : Size) : String :=
  let x := roundCents size.value
  (if x.isInteger then toFixed1 x else style.write x) ++ " " ++ size.unit.label

/-- Reads a size and writes it in gigabytes (§4.3). -/
def normalizeText (s : String) : Except ReportError String :=
  (ofText s).map fun size => size.normalize.toText

end Size
end RaidProvision

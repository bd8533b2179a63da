import RaidProvision.Report.Error
import RaidProvision.Text.Ascii

/-!
# Requested sizes (raidmgr specification §4.4, step 2)

The size of a logical drive is a number of gigabytes or all the space there is. Tools take
megabytes, so a number of gigabytes is in range iff its megabytes fit a word of 64 bits.

* `megabytes_eq_ok`: the argument of a size in range is its megabytes.
-/
namespace RaidProvision

open RaidProvision.Text

/-- The size of a logical drive. -/
inductive SizeRequest where
  /-- All remaining space on the member drives. -/
  | max
  | gb (count : UInt64)
  deriving DecidableEq, Repr, Inhabited

namespace SizeRequest

/-- The largest number of gigabytes whose megabytes fit a word (§4.4, step 2). -/
def maxGb : Nat := (UInt64.size - 1) / 1024

def toText : SizeRequest → String
  | max => "MAX"
  | gb n => Nat.repr n.toNat

/-- The size as tools take it: `MAX` or megabytes (§4.4, step 2). -/
def megabytes : SizeRequest → Except ReportError String
  | max => .ok "MAX"
  | gb n =>
    if 1024 * n.toNat < UInt64.size then .ok (Nat.repr (1024 * n.toNat))
    else .error (.sizeOutOfRange n)

theorem megabytes_eq_ok {n : UInt64} (h : n.toNat ≤ maxGb) :
    (gb n).megabytes = .ok (Nat.repr (1024 * n.toNat)) := by
  have hlt : 1024 * n.toNat < UInt64.size := by simp only [maxGb, UInt64.size] at *; omega
  rw [megabytes, if_pos hlt]

end SizeRequest
end RaidProvision

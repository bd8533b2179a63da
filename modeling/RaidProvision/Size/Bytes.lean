import RaidProvision.Binary64.Format

/-!
# Byte counts for people

A byte count is written in the greatest unit that it fills, with one decimal place; below a kilobyte
it is written in full.
-/
namespace RaidProvision.Size

open Binary64

/-- Writes a byte count. -/
def ofBytes (bytes : Nat) : String :=
  let scaled (k : Nat) := toFixed1 (div (ofNat bytes) (ofNat (twoTo k)))
  if twoTo 40 ≤ bytes then scaled 40 ++ " TB"
  else if twoTo 30 ≤ bytes then scaled 30 ++ " GB"
  else if twoTo 20 ≤ bytes then scaled 20 ++ " MB"
  else if twoTo 10 ≤ bytes then scaled 10 ++ " KB"
  else Nat.repr bytes ++ " B"

end RaidProvision.Size

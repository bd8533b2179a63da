/-!
# Reading bytes as text

The output of a tool is meant to be UTF-8 and need not be. `decodeUtf8` reads it byte by byte and
puts U+FFFD in the place of each maximal part that cannot be the start of a character.

* `decodeUtf8_ascii`: bytes below 128 are read as they are.
-/
namespace RaidProvision.Text

/-- U+FFFD, which stands for bytes that are no character. -/
def replacementChar : Char := '\uFFFD'

/-- A character of several bytes of which some are still to come. -/
structure Unfinished where
  /-- How many bytes are missing; at least one. -/
  missing : Nat
  /-- The bits read so far. -/
  bits : Nat
  /-- The least and greatest value of the next byte. -/
  low : UInt8
  high : UInt8

/-- The first byte of a character: what it yields and what it leaves open. -/
def startByte (b : UInt8) : List Char × Option Unfinished :=
  let n := b.toNat
  if n < 0x80 then ([Char.ofNat n], none)
  else if n < 0xC2 then ([replacementChar], none)
  else if n < 0xE0 then ([], some ⟨1, n % 0x20, 0x80, 0xBF⟩)
  else if n < 0xF0 then
    ([], some ⟨2, n % 0x10, if n = 0xE0 then 0xA0 else 0x80, if n = 0xED then 0x9F else 0xBF⟩)
  else if n < 0xF5 then
    ([], some ⟨3, n % 0x08, if n = 0xF0 then 0x90 else 0x80, if n = 0xF4 then 0x8F else 0xBF⟩)
  else ([replacementChar], none)

/-- One more byte. A byte that cannot go on closes the unfinished part and starts anew. -/
def nextByte : Option Unfinished → UInt8 → List Char × Option Unfinished
  | none, b => startByte b
  | some u, b =>
    if u.low ≤ b && b ≤ u.high then
      let bits := 0x40 * u.bits + b.toNat % 0x40
      if u.missing ≤ 1 then ([Char.ofNat bits], none)
      else ([], some ⟨u.missing - 1, bits, 0x80, 0xBF⟩)
    else
      let (cs, rest) := startByte b
      (replacementChar :: cs, rest)

def decodeFrom : Option Unfinished → List UInt8 → List Char
  | none, [] => []
  | some _, [] => [replacementChar]
  | state, b :: bs =>
    let (cs, next) := nextByte state b
    cs ++ decodeFrom next bs

/-- The text of some bytes. -/
def decodeUtf8 (bytes : List UInt8) : String := String.ofList (decodeFrom none bytes)

theorem decodeFrom_ascii (bytes : List UInt8) (h : ∀ b ∈ bytes, b.toNat < 0x80) :
    decodeFrom none bytes = bytes.map fun b => Char.ofNat b.toNat := by
  induction bytes with
  | nil => rfl
  | cons b bs ih =>
    have hb : b.toNat < 0x80 := h b (by simp)
    simp [decodeFrom, nextByte, startByte, hb, ih fun x hx => h x (by simp [hx])]

theorem decodeUtf8_ascii (bytes : List UInt8) (h : ∀ b ∈ bytes, b.toNat < 0x80) :
    (decodeUtf8 bytes).toList = bytes.map fun b => Char.ofNat b.toNat := by
  simp [decodeUtf8, decodeFrom_ascii bytes h]

end RaidProvision.Text

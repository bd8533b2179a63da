/-!
# Unsigned integers in text

An unsigned integer is written as an optional `+` and one or more digits. `readUnsigned` reads one
below a bound and says what is wrong with any other text, at the first place where it goes wrong.

* `readUnsigned_lt`: what is read is below the bound.
-/
namespace RaidProvision.Text

/-- Why a text is no unsigned integer. -/
inductive IntegerError where
  | empty
  | invalidDigit
  | tooLarge
  deriving DecidableEq, Repr

def IntegerError.message : IntegerError → String
  | .empty => "cannot parse integer from empty string"
  | .invalidDigit => "invalid digit found in string"
  | .tooLarge => "number too large to fit in target type"

/-- Reads digits after the number `n`. -/
def readDigits (bound : Nat) : Nat → List Char → Except IntegerError Nat
  | n, [] => .ok n
  | n, c :: cs =>
    if c.isDigit then
      let next := 10 * n + (c.toNat - '0'.toNat)
      if next < bound then readDigits bound next cs else .error .tooLarge
    else .error .invalidDigit

/-- Reads an unsigned integer below `bound`. -/
def readUnsigned (bound : Nat) (s : String) : Except IntegerError Nat :=
  match s.toList with
  | [] => .error .empty
  | ['+'] => .error .invalidDigit
  | '+' :: cs => readDigits bound 0 cs
  | cs => readDigits bound 0 cs

theorem readDigits_lt {bound n m : Nat} {cs : List Char} (hn : n < bound)
    (h : readDigits bound n cs = .ok m) : m < bound := by
  induction cs generalizing n with
  | nil => simp only [readDigits, Except.ok.injEq] at h; omega
  | cons c cs ih =>
    simp only [readDigits] at h
    split at h
    · split at h
      · rename_i hlt; exact ih hlt h
      · cases h
    · cases h

theorem readUnsigned_lt {bound m : Nat} {s : String} (hb : 0 < bound)
    (h : readUnsigned bound s = .ok m) : m < bound := by
  unfold readUnsigned at h
  split at h
  · cases h
  · cases h
  · exact readDigits_lt hb h
  · exact readDigits_lt hb h

/-- Reads an integer of 32 bits. -/
def readUInt32 (s : String) : Except IntegerError UInt32 :=
  (readUnsigned UInt32.size s).map UInt32.ofNat

/-- Reads an integer of 64 bits. -/
def readUInt64 (s : String) : Except IntegerError UInt64 :=
  (readUnsigned UInt64.size s).map UInt64.ofNat

end RaidProvision.Text

import RaidProvision.Text.Printable

/-!
# Literals

A text that is quoted in a message is written as a literal: between double quotes, with escapes for
quotes, backslashes and whatever does not show by itself. An escape has one letter, or the number of
the character in braces.

* `literalChar_printable`: a printable character stands for itself.
-/
namespace RaidProvision.Text

/-- The letter of the escape for a character, if it has one. -/
def escapeLetter? : Char → Option Char
  | '\x00' => some '0'
  | '\t' => some 't'
  | '\n' => some 'n'
  | '\r' => some 'r'
  | '"' => some '"'
  | '\\' => some '\\'
  | _ => none

/-- A character inside a literal. -/
def literalChar (c : Char) : List Char :=
  match escapeLetter? c with
  | some letter => ['\\', letter]
  | none =>
    if isPrintable c then [c] else '\\' :: 'u' :: '{' :: Nat.toDigits 16 c.toNat ++ ['}']

/-- A text as a literal. -/
def literal (s : String) : String :=
  String.ofList ('"' :: s.toList.flatMap literalChar ++ ['"'])

theorem literalChar_printable {c : Char} (hq : c ≠ '"') (hb : c ≠ '\\') (hp : isPrintable c)
    (hc : 0x20 ≤ c.toNat) : literalChar c = [c] := by
  have : escapeLetter? c = none := by
    unfold escapeLetter?
    split <;> first | rfl | simp_all
  simp [literalChar, this, hp]

end RaidProvision.Text

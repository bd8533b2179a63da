import RaidProvision.Json.Reader

/-!
# Writing JSON

`Value.write` writes a value in one line, `Value.writeLines` with two spaces of indentation for each
level. Only quotes, backslashes and characters below U+0020 are escaped.

* `escapeChar_plain`: any other character stands for itself.
-/
namespace RaidProvision.Json

/-- The digit of a value below 16. -/
def hexDigit (n : Nat) : Char := Nat.digitChar n

/-- The written form of a character inside quotes. -/
def escapeChar (c : Char) : List Char :=
  if c = '"' then ['\\', '"']
  else if c = '\\' then ['\\', '\\']
  else if 0x20 ≤ c.toNat then [c]
  else if c = '\x08' then ['\\', 'b']
  else if c = '\x0C' then ['\\', 'f']
  else if c = '\n' then ['\\', 'n']
  else if c = '\r' then ['\\', 'r']
  else if c = '\t' then ['\\', 't']
  else ['\\', 'u', '0', '0', hexDigit (c.toNat / 16), hexDigit (c.toNat % 16)]

/-- The written form of a text. -/
def quote (s : String) : List Char := '"' :: s.toList.flatMap escapeChar ++ ['"']

mutual

/-- The characters of a value in one line. -/
def Value.characters : Value → List Char
  | .null => "null".toList
  | .boolean b => if b then "true".toList else "false".toList
  | .number n => n.write.toList
  | .text s => quote s
  | .array elements => '[' :: elementCharacters elements
  | .object members => '{' :: memberCharacters members

def elementCharacters : List Value → List Char
  | [] => [']']
  | [value] => value.characters ++ [']']
  | value :: rest => value.characters ++ ',' :: elementCharacters rest

def memberCharacters : List (String × Value) → List Char
  | [] => ['}']
  | [(name, value)] => quote name ++ ':' :: value.characters ++ ['}']
  | (name, value) :: rest => quote name ++ ':' :: value.characters ++ ',' :: memberCharacters rest

end

/-- Writes a value in one line. -/
def Value.write (value : Value) : String := String.ofList value.characters

/-- A new line at a level of indentation. -/
def newLine (level : Nat) : List Char := '\n' :: List.replicate (2 * level) ' '

mutual

/-- The characters of a value over several lines, from a level of indentation on. -/
def Value.lineCharacters (level : Nat) : Value → List Char
  | .array [] => ['[', ']']
  | .array (value :: rest) =>
    '[' :: newLine (level + 1) ++ value.lineCharacters (level + 1) ++ elementLines level rest
  | .object [] => ['{', '}']
  | .object ((name, value) :: rest) =>
    '{' :: newLine (level + 1) ++ quote name ++ ':' :: ' ' :: value.lineCharacters (level + 1) ++
      memberLines level rest
  | value => value.characters

def elementLines (level : Nat) : List Value → List Char
  | [] => newLine level ++ [']']
  | value :: rest =>
    ',' :: newLine (level + 1) ++ value.lineCharacters (level + 1) ++ elementLines level rest

def memberLines (level : Nat) : List (String × Value) → List Char
  | [] => newLine level ++ ['}']
  | (name, value) :: rest =>
    ',' :: newLine (level + 1) ++ quote name ++ ':' :: ' ' :: value.lineCharacters (level + 1) ++
      memberLines level rest

end

/-- Writes a value over several lines. -/
def Value.writeLines (value : Value) : String := String.ofList (value.lineCharacters 0)

/-- A character from U+0020 on that is neither a quote nor a backslash stands for itself. -/
theorem escapeChar_plain {c : Char} (hq : c ≠ '"') (hb : c ≠ '\\') (hc : 0x20 ≤ c.toNat) :
    escapeChar c = [c] := by
  simp [escapeChar, hq, hb, hc]

end RaidProvision.Json

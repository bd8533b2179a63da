import RaidProvision.Text.Unsigned

/-!
# Writing TOML values

A text is written between double quotes. One that would need escapes there stands between single
quotes as it is, if it can; one with line feeds keeps them between threefold quotes, which also hold
single quotes.

* `quote_of_isPlainText`: a text without anything special is written as it is.
-/
namespace RaidProvision.Toml

/-- A digit of a number below 16. -/
def capitalDigit (n : Nat) : Char := (Nat.digitChar n).toUpper

/-- The written form of a character between double quotes. -/
def escapeChar (c : Char) : List Char :=
  if c = '"' then ['\\', '"']
  else if c = '\\' then ['\\', '\\']
  else if c = '\x08' then ['\\', 'b']
  else if c = '\t' then ['\\', 't']
  else if c = '\n' then ['\\', 'n']
  else if c = '\x0C' then ['\\', 'f']
  else if c = '\r' then ['\\', 'r']
  else if c.toNat < 0x20 || c.toNat = 0x7F then
    ['\\', 'u', '0', '0', capitalDigit (c.toNat / 16), capitalDigit (c.toNat % 16)]
  else [c]

/-- Whether a character asks for single quotes. -/
def prefersLiteral (c : Char) : Bool := c == '"' || c == '\\'

/-- Whether a character may stand between single quotes, or between threefold ones. -/
def allowsLiteral (c : Char) : Bool :=
  c == '\t' || c == '\n' || (0x20 ≤ c.toNat && c.toNat != 0x7F)

/-- Whether single quotes in a text leave room for threefold ones around it: there are no three of
them in a row and none at the end. -/
def hasFewQuotes (cs : List Char) : Bool :=
  ((cs.splitOnP (· != '\'')).all fun run => run.length < 3) && cs.getLast? != some '\''

/-- The written form of a text. -/
def quote (cs : List Char) : List Char :=
  if cs.any prefersLiteral && cs.all allowsLiteral && hasFewQuotes cs then
    if cs.contains '\n' then "'''\n".toList ++ cs ++ "'''".toList
    else if cs.contains '\'' then "'''".toList ++ cs ++ "'''".toList
    else '\'' :: cs ++ ['\'']
  else if cs.contains '\n' then
    "\"\"\"\n".toList ++ cs.flatMap (fun c => if c = '\n' then [c] else escapeChar c) ++
      "\"\"\"".toList
  else '"' :: cs.flatMap escapeChar ++ ['"']

/-- Whether a character is written as it is between double quotes. -/
def isPlainText (c : Char) : Bool := !prefersLiteral c && 0x20 ≤ c.toNat && c.toNat != 0x7F

theorem escapeChar_of_isPlainText {c : Char} (h : isPlainText c = true) : escapeChar c = [c] := by
  simp only [isPlainText, prefersLiteral, Bool.and_eq_true, Bool.not_eq_eq_eq_not, Bool.not_true,
    Bool.or_eq_false_iff, beq_eq_false_iff_ne, ne_eq, decide_eq_true_eq, bne_iff_ne] at h
  obtain ⟨⟨⟨hq, hb⟩, hc⟩, hd⟩ := h
  have low (d : Char) (hlow : d.toNat < 0x20) : c ≠ d := by
    rintro rfl
    omega
  have hlow : ¬ c.toNat < 0x20 := by omega
  simp [escapeChar, hq, hb, hd, hlow, low '\x08' (by decide), low '\t' (by decide),
    low '\n' (by decide), low '\x0C' (by decide), low '\r' (by decide)]

theorem quote_of_isPlainText {cs : List Char} (h : ∀ c ∈ cs, isPlainText c = true) :
    quote cs = '"' :: cs ++ ['"'] := by
  have hliteral : cs.any prefersLiteral = false := by
    simp only [List.any_eq_false]
    intro c hc
    have hplain := h c hc
    simp only [isPlainText, Bool.and_eq_true, Bool.not_eq_eq_eq_not, Bool.not_true] at hplain
    simp [hplain.1.1]
  have hline : '\n' ∉ cs := fun hmem => absurd (h '\n' hmem) (by decide)
  have hflat : cs.flatMap escapeChar = cs := by
    clear hliteral hline
    induction cs with
    | nil => rfl
    | cons c rest ih =>
      have hrest := ih fun d hd => h d (List.mem_cons_of_mem _ hd)
      simp [List.flatMap_cons, escapeChar_of_isPlainText (h c List.mem_cons_self), hrest]
  simp [quote, hliteral, hline, hflat]

/-- A line that gives a key its value. -/
def assignment (key : String) (value : List Char) : List Char :=
  key.toList ++ " = ".toList ++ value ++ ['\n']

/-- The line that opens a table. -/
def header (name : String) : List Char := '[' :: name.toList ++ [']', '\n']

end RaidProvision.Toml

/-!
# Blank space

`isBlank` is the Unicode property `White_Space`. `trim` takes blanks off both ends of a text,
`words` are the maximal runs without a blank.

* `isBlank_of_isWhitespace`: every character that core calls white space is blank here.
* `toList_trim`: the characters of a trimmed text.
-/
namespace RaidProvision.Text

/-- The Unicode property `White_Space`. -/
def isBlank (c : Char) : Bool :=
  let n := c.toNat
  (9 ≤ n && n ≤ 13) || n == 0x20 || n == 0x85 || n == 0xA0 || n == 0x1680 ||
    (0x2000 ≤ n && n ≤ 0x200A) || n == 0x2028 || n == 0x2029 || n == 0x202F || n == 0x205F ||
    n == 0x3000

theorem isBlank_of_isWhitespace {c : Char} (h : c.isWhitespace) : isBlank c := by
  simp only [Char.isWhitespace, Bool.or_eq_true, decide_eq_true_eq] at h
  rcases h with ((rfl | rfl) | rfl) | rfl <;> decide

/-- Drops the longest run of characters in `p` at the end. -/
def dropTrailing (p : Char → Bool) (cs : List Char) : List Char :=
  (cs.reverse.dropWhile p).reverse

/-- Drops the blanks at both ends. -/
def strip (cs : List Char) : List Char :=
  dropTrailing isBlank (cs.dropWhile isBlank)

/-- The text without the blanks at its ends. -/
def trim (s : String) : String := String.ofList (strip s.toList)

@[simp]
theorem toList_trim (s : String) : (trim s).toList = strip s.toList := by simp [trim]

/-- The maximal runs of characters that are not blank, in order. -/
def words (s : String) : List String :=
  ((s.toList.splitOnP isBlank).filter (!·.isEmpty)).map String.ofList

/-- A text of blanks only. -/
def isBlankText (s : String) : Bool := s.toList.all isBlank

end RaidProvision.Text

/-!
# Escapes in what is printed

After a backslash a letter stands for a control character, digits for the character with an octal
number, and `c` ends the text. A backslash before anything else stands for itself.

* `unescape_nil`: the empty text stands for itself.
-/
namespace RaidProvision.Escape

/-- The character that a letter stands for. -/
def letter? : Char → Option Char
  | 'a' => some '\x07'
  | 'b' => some '\x08'
  | 'f' => some '\x0C'
  | 'n' => some '\n'
  | 'r' => some '\r'
  | 't' => some '\t'
  | 'v' => some '\x0B'
  | '\\' => some '\\'
  | _ => none

def isOctal (c : Char) : Bool := '0' ≤ c && c ≤ '7'

/-- Takes up to `count` octal digits. -/
def takeOctal : (count : Nat) → Nat → List Char → Nat × List Char
  | count + 1, n, c :: rest =>
    if isOctal c then takeOctal count (8 * n + (c.toNat - '0'.toNat)) rest else (n, c :: rest)
  | _, n, rest => (n, rest)

/-- The octet with a number, of which the lowest bits count. -/
def octet (n : Nat) : Char := Char.ofNat (n % 256)

/-- Takes what a backslash stands in front of. -/
def take : List Char → Char × List Char
  | c :: rest =>
    match letter? c with
    | some e => (e, rest)
    | none =>
      if isOctal c then
        let (n, rest) := takeOctal 3 0 (c :: rest)
        (octet n, rest)
      else ('\\', c :: rest)
  | [] => ('\\', [])

theorem length_takeOctal (count n : Nat) (cs : List Char) :
    (takeOctal count n cs).2.length ≤ cs.length := by
  induction count generalizing n cs with
  | zero => simp [takeOctal]
  | succ count ih =>
    cases cs with
    | nil => simp [takeOctal]
    | cons c rest =>
      simp only [takeOctal]
      split
      · exact Nat.le_trans (ih _ _) (Nat.le_succ _)
      · simp

theorem length_take (cs : List Char) : (take cs).2.length ≤ cs.length := by
  cases cs with
  | nil => simp [take]
  | cons c rest =>
    simp only [take]
    split
    · simp
    · split
      · exact length_takeOctal 3 0 (c :: rest)
      · simp

/-- The digits of an escape, without a zero in front of three of them. -/
def octalDigits : List Char → List Char
  | '0' :: d :: rest => if isOctal d then d :: rest else '0' :: d :: rest
  | cs => cs

theorem length_octalDigits (cs : List Char) : (octalDigits cs).length ≤ cs.length := by
  unfold octalDigits
  split
  · split <;> simp
  · simp

/-- The characters that a text stands for, and whether it says that nothing follows. -/
def unescape : List Char → List Char × Bool
  | [] => ([], false)
  | c :: rest =>
    if c = '\\' then
      if rest.head? = some 'c' then ([], true)
      else
        let after := take (octalDigits rest)
        let (cs, ended) := unescape after.2
        (after.1 :: cs, ended)
    else
      let (cs, ended) := unescape rest
      (c :: cs, ended)
termination_by cs => cs.length
decreasing_by
  · have h := length_take (octalDigits rest)
    have h' := length_octalDigits rest
    simp only [List.length_cons]
    omega
  · simp

theorem unescape_nil : unescape [] = ([], false) := by simp [unescape]

end RaidProvision.Escape

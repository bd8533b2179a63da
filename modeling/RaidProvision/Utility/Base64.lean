import RaidProvision.Utility.Escape
import RaidProvision.Utility.Passing

/-!
# Bytes as letters

Three bytes are written as four letters that stand for six bits each, and equals signs fill up the
last group.

* `number?_letter`: a letter stands for the number that it was written for.
* `bytesOf_sextets`: three bytes are read back from their letters.
-/
namespace RaidProvision.Base64

/-- The letters for the numbers below 64. -/
def letters : List Char :=
  "ABCDEFGHIJKLMNOPQRSTUVWXYZabcdefghijklmnopqrstuvwxyz0123456789+/".toList

def letter (n : Nat) : Char := letters[n]?.getD '='

def number? (c : Char) : Option Nat := letters.findIdx? (· == c)

theorem number?_letter {n : Nat} (h : n < 64) : number? (letter n) = some n := by
  have all : ∀ m ∈ List.range 64, number? (letter m) = some m := by decide +kernel
  exact all n (List.mem_range.mpr h)

/-- The numbers of the four letters for three bytes. -/
def sextets (a b c : Nat) : Nat × Nat × Nat × Nat :=
  let n := 65536 * a + 256 * b + c
  (n / 262144, n / 4096 % 64, n / 64 % 64, n % 64)

/-- The three bytes that four numbers of letters stand for. -/
def bytesOf : Nat × Nat × Nat × Nat → Nat × Nat × Nat
  | (w, x, y, z) =>
    let n := 262144 * w + 4096 * x + 64 * y + z
    (n / 65536, n / 256 % 256, n % 256)

theorem bytesOf_sextets (a b c : Nat) (hb : b < 256) (hc : c < 256) :
    bytesOf (sextets a b c) = (a, b, c) := by
  simp only [sextets, bytesOf, Prod.mk.injEq]
  omega

/-- The letters of three bytes. -/
def group (a b c : Char) : List Char :=
  let (w, x, y, z) := sextets a.toNat b.toNat c.toNat
  [letter w, letter x, letter y, letter z]

def encode : List Char → List Char
  | a :: b :: c :: rest => group a b c ++ encode rest
  | [a, b] => (group a b '\x00').take 3 ++ ['=']
  | [a] => (group a '\x00' '\x00').take 2 ++ ['=', '=']
  | [] => []

/-- The bytes of up to four letters, or nothing if there are others among them. -/
def ungroup? (cs : List Char) : Option (List Char) := do
  let numbers ← cs.mapM number?
  match numbers ++ List.replicate (4 - numbers.length) 0 with
  | [w, x, y, z] =>
    let (a, b, c) := bytesOf (w, x, y, z)
    return ([a, b, c].map Escape.octet).take (numbers.length - 1)
  | _ => none

/-- The bytes of a text of letters, up to where it cannot be read, and whether all of it can. -/
def decode : List Char → List Char × Bool
  | [] => ([], true)
  | w :: x :: '=' :: '=' :: rest => goOn [w, x] (decode rest)
  | w :: x :: y :: '=' :: rest => goOn [w, x, y] (decode rest)
  | w :: x :: y :: z :: rest => goOn [w, x, y, z] (decode rest)
  | cs => ((ungroup? cs).getD [], false)
where
  /-- The bytes of a group in front of others. -/
  goOn (group : List Char) (others : List Char × Bool) : List Char × Bool :=
    match ungroup? group with
    | some bytes => (bytes ++ others.1, others.2)
    | none => ((ungroup? (group.takeWhile fun c => (number? c).isSome)).getD [], false)

/-- Letters in lines of some width. `fuel` bounds their number. -/
def wrap (width : Nat) : (fuel : Nat) → List Char → List Char
  | 0, cs => cs
  | _, [] => []
  | fuel + 1, cs => cs.take width ++ '\n' :: wrap width fuel (cs.drop width)

def options : OptionTable :=
  { flags := "di", valued := "w",
    long := [("decode", 'd'), ("ignore-garbage", 'i'), ("wrap", 'w')], mixed := true }

end RaidProvision.Base64

namespace RaidProvision.Utility

/-- Writes bytes as letters, or reads them back. -/
def base64 : Utility := withOptions Base64.options 1 fun options => do
  let (text, complete) ← Work.readJoined (options.operands.take 1)
  if !complete then return 1
  let cs := text.toList
  if options.has 'd' then
    let known (c : Char) : Bool := c == '=' || (Base64.number? c).isSome
    let cs := cs.filter fun c => c != '\n' && (!options.has 'i' || known c)
    let (bytes, valid) := Base64.decode cs
    Work.print (String.ofList bytes)
    if valid then return 0 else Work.fail 1 "invalid input"
  else
    let letters := Base64.encode cs
    let width := ((options.value? 'w').bind String.toNat?).getD 76
    Work.print (String.ofList
      (if width = 0 then letters else Base64.wrap width letters.length letters))
    return 0

end RaidProvision.Utility

import RaidProvision.Binary64.Basic

/-!
# JSON values

A number is an integer where it is written as one and fits a word of 64 bits with or without sign,
and otherwise a double precision number. The members of an object stand in the order in which they
are written; those of an object that was read are sorted by name, one for each name.

* `Value.same_iff`: two values can be told apart.
* `Members.lookup_insert`: what is found after an insertion into sorted members.
-/
namespace RaidProvision.Json

/-- A JSON number. -/
inductive Number where
  | integer (n : Int)
  | real (x : Binary64)
  deriving DecidableEq, Repr, Inhabited

/-- A JSON value. -/
inductive Value where
  | null
  | boolean (b : Bool)
  | number (n : Number)
  | text (s : String)
  | array (elements : List Value)
  | object (members : List (String × Value))
  deriving Repr, Inhabited

/-- The members of an object. -/
abbrev Members := List (String × Value)

namespace Value

mutual

/-- Whether two values are the same. -/
def same : Value → Value → Bool
  | null, null => true
  | boolean a, boolean b => a == b
  | number a, number b => a == b
  | text a, text b => a == b
  | array xs, array ys => sameElements xs ys
  | object xs, object ys => sameMembers xs ys
  | _, _ => false

def sameElements : List Value → List Value → Bool
  | [], [] => true
  | x :: xs, y :: ys => x.same y && sameElements xs ys
  | _, _ => false

def sameMembers : Members → Members → Bool
  | [], [] => true
  | (a, x) :: xs, (b, y) :: ys => a == b && x.same y && sameMembers xs ys
  | _, _ => false

end

mutual

theorem same_iff : ∀ {x y : Value}, x.same y = true ↔ x = y
  | null, y => by cases y <;> simp [same]
  | boolean _, y => by cases y <;> simp [same]
  | number _, y => by cases y <;> simp [same]
  | text _, y => by cases y <;> simp [same]
  | array _, y => by cases y <;> simp [same, sameElements_iff]
  | object _, y => by cases y <;> simp [same, sameMembers_iff]

theorem sameElements_iff : ∀ {xs ys : List Value}, sameElements xs ys = true ↔ xs = ys
  | [], ys => by cases ys <;> simp [sameElements]
  | _ :: _, ys => by cases ys <;> simp [sameElements, same_iff, sameElements_iff]

theorem sameMembers_iff : ∀ {xs ys : Members}, sameMembers xs ys = true ↔ xs = ys
  | [], ys => by cases ys <;> simp [sameMembers]
  | (_, _) :: _, ys => by cases ys <;> simp [sameMembers, Prod.ext_iff, same_iff, sameMembers_iff]

end

instance : DecidableEq Value := fun _ _ => decidable_of_iff _ same_iff

end Value

/-- Puts a member at its place in members sorted by name; a member of the same name is replaced. -/
def Members.insert (name : String) (value : Value) : Members → Members
  | [] => [(name, value)]
  | (other, held) :: rest =>
    if name < other then (name, value) :: (other, held) :: rest
    else if name = other then (name, value) :: rest
    else (other, held) :: Members.insert name value rest

theorem Members.lookup_insert (name other : String) (value : Value) (members : Members) :
    (members.insert name value).lookup other =
      if other = name then some value else members.lookup other := by
  induction members with
  | nil => simp only [Members.insert, List.lookup_cons, List.lookup_nil]; grind
  | cons m rest ih =>
    obtain ⟨key, held⟩ := m
    simp only [Members.insert]
    split
    · simp only [List.lookup_cons]; grind
    · split
      · simp only [List.lookup_cons]; grind
      · simp only [List.lookup_cons, ih]; grind

namespace Value

/-- A natural number as a value. -/
def nat (n : Nat) : Value := .number (.integer n)

/-- A text, or null for none. -/
def ofText? : Option String → Value
  | some s => .text s
  | none => .null

/-- The member of an object. Anything else has no members. -/
def member? (name : String) : Value → Option Value
  | .object members => members.lookup name
  | _ => none

def text? : Value → Option String
  | .text s => some s
  | _ => none

def boolean? : Value → Option Bool
  | .boolean b => some b
  | _ => none

/-- A number that is a word without sign. -/
def word? : Value → Option UInt64
  | .number (.integer n) => if 0 ≤ n && n < UInt64.size then some (UInt64.ofNat n.toNat) else none
  | _ => none

mutual

/-- The value with the members of every object sorted by name. -/
def sorted : Value → Value
  | .array elements => .array (sortedAll elements)
  | .object members => .object (sortedMembers members)
  | value => value

def sortedAll : List Value → List Value
  | [] => []
  | value :: rest => sorted value :: sortedAll rest

def sortedMembers : List (String × Value) → List (String × Value)
  | [] => []
  | (name, value) :: rest => Members.insert name (sorted value) (sortedMembers rest)

end

end Value
end RaidProvision.Json

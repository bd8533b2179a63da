import RaidProvision.Json.Number
import RaidProvision.Text.Literal

/-!
# What can be wrong with JSON

A text may be malformed, or it may be JSON that does not fit what is asked for. `Found` is the kind
of value that stood in a wrong place, `Mismatch` names the ways not to fit, and a reader adds causes
of its own through the parameter of `Fault`.
-/
namespace RaidProvision.Json

/-- What stood in the place of something else. -/
inductive Found where
  | null
  | boolean (b : Bool)
  | number (n : Number)
  | text (s : String)
  | sequence
  | map
  deriving DecidableEq, Repr

namespace Found

def ofValue : Value → Found
  | .null => .null
  | .boolean b => .boolean b
  | .number n => .number n
  | .text s => .text s
  | .array _ => .sequence
  | .object _ => .map

def describe : Found → String
  | null => "null"
  | boolean b => s!"boolean `{b}`"
  | number (.integer n) => s!"integer `{n}`"
  | number (.real x) => "floating point `" ++ Number.style.write x ++ "`"
  | text s => "string " ++ Text.literal s
  | sequence => "sequence"
  | map => "map"

end Found

/-- How a value fails to have a shape. -/
inductive Mismatch where
  | kind (found : Found) (expected : String)
  | duplicateField (name : String)
  | missingField (name : String)
  /-- Fewer elements than the fields of a structure. -/
  | tooFew (length : Nat) (expected : String)
  | tooMany (length : Nat)
  /-- None of the alternatives of a field. -/
  | noAlternative
  deriving DecidableEq, Repr

def Mismatch.message : Mismatch → String
  | kind found expected => "invalid type: " ++ found.describe ++ ", expected " ++ expected
  | duplicateField name => s!"duplicate field `{name}`"
  | missingField name => s!"missing field `{name}`"
  | tooFew length expected => s!"invalid length {length}, expected {expected}"
  | tooMany length => s!"invalid length {length}, expected fewer elements in array"
  | noAlternative => "data did not match any variant of untagged enum Raw"

/-- Why a text could not be read: it is no JSON, or a cause of the reader. -/
inductive Fault (ε : Type) where
  | malformed
  | refused (cause : ε)
  deriving DecidableEq, Repr

end RaidProvision.Json

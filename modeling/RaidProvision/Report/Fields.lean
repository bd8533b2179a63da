import RaidProvision.Report.Error

/-!
# The fields of a block (raidmgr specification §4.5)

`Fields` holds the values of one block of `key : value` lines by key. A later value of a key takes
the place of an earlier one.

* `get?_insert`: what is found after an insertion.
* `get?_insert_self`, `get?_insert_of_ne`: its two cases.
-/
namespace RaidProvision.Report

/-- Values by key, the latest first (§4.5). -/
structure Fields where
  entries : List (String × String)
  deriving DecidableEq, Repr

namespace Fields

def empty : Fields := ⟨[]⟩

/-- Sets the value of a key. -/
def insert (fields : Fields) (key value : String) : Fields := ⟨(key, value) :: fields.entries⟩

/-- The value of a key. -/
def get? (fields : Fields) (key : String) : Option String := fields.entries.lookup key

/-- The value of a key that has to be there (§4.5). -/
def get (fields : Fields) (key : String) : Except ReportError String :=
  match fields.get? key with
  | some value => .ok value
  | none => .error (.missingField key)

/-- Sets the value of a key that has none yet. -/
def insertNew (fields : Fields) (key value : String) : Fields :=
  if (fields.get? key).isSome then fields else fields.insert key value

@[simp]
theorem get?_empty (key : String) : empty.get? key = none := rfl

theorem get?_insert (fields : Fields) (key value other : String) :
    (fields.insert key value).get? other =
      if other = key then some value else fields.get? other := by
  simp only [get?, insert, List.lookup_cons]
  by_cases h : other = key
  · simp [h]
  · have hb : (other == key) = false := by simpa using h
    simp [hb, h]

@[simp]
theorem get?_insert_self (fields : Fields) (key value : String) :
    (fields.insert key value).get? key = some value := by simp [get?_insert]

theorem get?_insert_of_ne (fields : Fields) {key other : String} (value : String)
    (h : other ≠ key) : (fields.insert key value).get? other = fields.get? other := by
  simp [get?_insert, h]

end Fields
end RaidProvision.Report

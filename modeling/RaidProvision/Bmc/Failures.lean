/-!
# Failures that do not stop a run (raidmgr specification §4.8, step 7, and §7)

What fails on the way is noted and reported at the end, all at once and in order.

* `isEmpty_add`, `error?_eq_none_iff`: there is something to report iff something was noted.
-/
namespace RaidProvision

/-- The failures noted so far, the oldest first (§4.8, step 7). -/
structure Failures where
  entries : List String
  deriving DecidableEq, Repr

namespace Failures

def empty : Failures := ⟨[]⟩

/-- Notes a failure. -/
def add (failures : Failures) (failure : String) : Failures := ⟨failures.entries ++ [failure]⟩

def isEmpty (failures : Failures) : Bool := failures.entries.isEmpty

/-- All failures as one message, if there are any. -/
def error? (failures : Failures) : Option String :=
  if failures.isEmpty then none
  else some ("The following errors were encountered:\n" ++
    "\n".intercalate (failures.entries.map fun failure => "* " ++ failure))

/-- The message with which a run ends that noted failures (§7). -/
def verdict? (failures : Failures) : Option String :=
  failures.error?.map fun message => "inspection failed: " ++ message

@[simp]
theorem isEmpty_add (failures : Failures) (failure : String) :
    (failures.add failure).isEmpty = false := by simp [add, isEmpty]

theorem error?_eq_none_iff (failures : Failures) : failures.error? = none ↔ failures.isEmpty := by
  simp [error?]

end Failures
end RaidProvision

import RaidProvision.Session.Script

/-!
# Which manager to use (raidmgr specification §3 and §4.6)

Every manager says how well it supports the machine. The one that supports it best is used, of
several the first; one that does not support it at all is never used.

* `better_none_left`: anything is taken before nothing.
-/
namespace RaidProvision

/-- How well a manager supports a machine, from not at all upwards (§3). -/
inductive Support where
  | none
  | generic
  | mainline
  | serviceProvider
  deriving DecidableEq, Repr, Inhabited

namespace Support

def rank : Support → Nat
  | none => 0
  | generic => 1
  | mainline => 2
  | serviceProvider => 3

def label : Support → String
  | none => "NONE"
  | generic => "GENERIC"
  | mainline => "MAINLINE"
  | serviceProvider => "SERVICE_PROVIDER"

def toText (level : Support) : String := s!"{level.label} ({level.rank})"

end Support

namespace Manager

variable {α : Type}

/-- The better of what is chosen so far and the next candidate. -/
def better (best : Option (α × Support)) (candidate : α × Support) : Option (α × Support) :=
  if candidate.2.rank = 0 then best
  else
    match best with
    | none => some candidate
    | some (chosen, level) =>
      if level.rank < candidate.2.rank then some candidate else some (chosen, level)

/-- The candidate with the highest level, the first of several (§4.6). -/
def choose (candidates : List (α × Support)) : Option α :=
  (candidates.foldl better none).map Prod.fst

theorem better_none_left (candidate : α × Support) (h : candidate.2.rank ≠ 0) :
    better none candidate = some candidate := by simp [better, h]

/-- Asks all candidates in order for their levels. -/
def evaluateAll (evaluate : α → Script Support) : List α → Script (List (α × Support))
  | [] => .done []
  | a :: rest =>
    (evaluate a).bind fun level =>
      (evaluateAll evaluate rest).bind fun levels => .done ((a, level) :: levels)

/-- Asks all candidates and chooses one (§4.6). -/
def dispatch (evaluate : α → Script Support) (candidates : List α) : Script (Option α) :=
  (evaluateAll evaluate candidates).bind fun levels => .done (choose levels)

end Manager
end RaidProvision

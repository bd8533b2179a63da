import RaidProvision.Session.Command

/-!
# Scripts

A `Script` is a procedure that asks its surroundings for one thing at a time and goes on with the
answer. What it does depends on the answers alone, so it can be run on a machine, or with answers
given beforehand, or reasoned about for all answers.

* `bind_done`, `done_bind`, `bind_assoc`: scripts form a lawful monad.
-/
namespace RaidProvision

/-- The time, as the two outputs that mention it write it. -/
structure Moment where
  /-- Date and time of day. -/
  plain : String
  /-- The same with the offset from universal time. -/
  stamp : String
  deriving DecidableEq, Repr, Inhabited

/-- What a script may ask for. -/
inductive Request where
  | run (command : Command)
  | readFile (path : String)
  /-- Replaces a file, whose directories are made if they are not there. -/
  | replaceFile (path content : String)
  /-- Opens a file to write behind its end; it is made if it is not there. -/
  | appendFile (path : String)
  | print (text : String)
  | clock
  | pause (seconds : Nat)
  deriving DecidableEq, Repr

/-- What a request is answered with. -/
def Request.Answer : Request → Type
  | run _ => Reply
  | readFile _ => Except OsError String
  | replaceFile _ _ => Except OsError Unit
  | appendFile _ => Except OsError Unit
  | print _ => Unit
  | clock => Moment
  | pause _ => Unit

/-- A procedure that ends in an `α`. -/
inductive Script (α : Type) : Type where
  | done (value : α)
  | ask (request : Request) (next : request.Answer → Script α)

namespace Script

variable {α β γ : Type}

def bind : Script α → (α → Script β) → Script β
  | done a, k => k a
  | ask r next, k => ask r fun answer => (next answer).bind k

instance : Monad Script where
  pure := done
  bind := bind

@[simp]
theorem done_bind (a : α) (k : α → Script β) : (done a).bind k = k a := rfl

@[simp]
theorem bind_done (s : Script α) : s.bind done = s := by
  induction s with
  | done a => rfl
  | ask r next ih => simp only [bind]; congr 1; funext answer; exact ih answer

theorem bind_assoc (s : Script α) (k : α → Script β) (l : β → Script γ) :
    (s.bind k).bind l = s.bind fun a => (k a).bind l := by
  induction s with
  | done a => rfl
  | ask r next ih => simp only [bind]; congr 1; funext answer; exact ih answer

instance : LawfulMonad Script := LawfulMonad.mk' Script
  bind_done
  done_bind
  bind_assoc

/-- One request. -/
def request (r : Request) : Script r.Answer := ask r done

/-- Runs a command for its output. -/
def execute (command : Command) : Script (Except ExecutionError String) :=
  ask (.run command) fun reply => done (reply.read command)

def print (text : String) : Script Unit := ask (.print text) done

/-- Runs a script where requests are answered in a monad. -/
def interpret {m : Type → Type} [Monad m] (answer : (r : Request) → m r.Answer) :
    Script α → m α
  | done a => pure a
  | ask r next => do
    let a ← answer r
    (next a).interpret answer

end Script
end RaidProvision

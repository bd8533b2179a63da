import RaidProvision.Regex.Basic
import RaidProvision.Utility.Awk.Cell

/-!
# Scripts for records

A script has rules, each of which says for which records it is and what is done with them, and
functions. Records have fields; values are kept in variables and in arrays, whose elements are named
by texts.

* `Comparison.holds_flip`: less turns into greater when the sides are exchanged.
-/
namespace RaidProvision.Awk

inductive Operator where
  | plus
  | minus
  | times
  | divide
  | remainder
  | power
  deriving DecidableEq, Repr

def Operator.apply : Operator → Binary64 → Binary64 → Binary64
  | plus => .add
  | minus => .sub
  | times => .mul
  | divide => .div
  | remainder => .rem
  | power => .power

inductive Comparison where
  | less
  | lessOrEqual
  | equal
  | notEqual
  | greater
  | greaterOrEqual
  deriving DecidableEq, Repr

/-- Whether a comparison holds for two things that are ordered like this. -/
def Comparison.holds : Comparison → Option Ordering → Bool
  | less, order => order == some .lt
  | lessOrEqual, order => order == some .lt || order == some .eq
  | equal, order => order == some .eq
  | notEqual, order => order != some .eq
  | greater, order => order == some .gt
  | greaterOrEqual, order => order == some .gt || order == some .eq

theorem Comparison.holds_flip (order : Ordering) :
    less.holds (some order) = greater.holds (some order.swap) := by
  cases order <;> rfl

/-- What is done by a function that every script has. -/
inductive Primitive where
  | length
  | substring
  | index
  | split
  | substituteFirst
  | substituteAll
  | locate
  | format
  | lower
  | upper
  | integer
  | system
  | close
  | flush
  deriving DecidableEq, Repr

def primitives : List (String × Primitive) :=
  [("length", .length), ("substr", .substring), ("index", .index), ("split", .split),
    ("sub", .substituteFirst), ("gsub", .substituteAll), ("match", .locate), ("sprintf", .format),
    ("tolower", .lower), ("toupper", .upper), ("int", .integer), ("system", .system),
    ("close", .close), ("fflush", .flush)]

mutual

/-- What can be assigned to. -/
inductive Place where
  | named (name : String)
  | element (array : String) (subscripts : List Expression)
  | field (number : Expression)

/-- Where a line is read from. -/
inductive Source where
  | input
  | file (path : Expression)
  | command (line : Expression)

inductive Expression where
  | literal (cell : Cell)
  /-- An expression that stands for itself where one is asked for, and else for a match of the
  record. -/
  | pattern (r : Regex)
  | place (place : Place)
  | assign (place : Place) (operator : Option Operator) (value : Expression)
  /-- Counts up or down, with the value of before or after that. -/
  | count (place : Place) (operator : Operator) (before : Bool)
  | conditional (test success failure : Expression)
  | both (a b : Expression)
  | either (a b : Expression)
  | not (a : Expression)
  | negate (a : Expression)
  | positive (a : Expression)
  | isIn (subscripts : List Expression) (array : String)
  | matched (negated : Bool) (text pattern : Expression)
  | compare (comparison : Comparison) (a b : Expression)
  | join (a b : Expression)
  | operate (operator : Operator) (a b : Expression)
  | call (name : String) (args : List Expression)
  | primitive (primitive : Primitive) (args : List Expression)
  | readLine (place : Option Place) (source : Source)

end

/-- How what is printed goes elsewhere. -/
inductive Outlet where
  | file
  | append
  | command
  deriving DecidableEq, Repr

inductive Statement where
  | nothing
  | sequence (a b : Statement)
  | evaluate (e : Expression)
  | print (items : List Expression) (outlet : Option (Outlet × Expression))
  | printFormat (items : List Expression) (outlet : Option (Outlet × Expression))
  | conditional (test : Expression) (success failure : Statement)
  /-- Runs a body and then a step as long as there is no test or it holds. -/
  | loop (test : Option Expression) (next body : Statement)
  | each (name array : String) (body : Statement)
  | breakLoop
  | continueLoop
  | nextRecord
  | nextFile
  | exit (status : Option Expression)
  | giveBack (value : Option Expression)
  | delete (array : String) (subscripts : Option (List Expression))

/-- The records that a rule is for. -/
inductive Selection where
  | start
  | finish
  | every
  | test (e : Expression)
  | range (first last : Expression)

structure Rule where
  selection : Selection
  action : Statement

structure Function where
  parameters : List String
  body : Statement

structure Script where
  rules : List Rule
  functions : List (String × Function)

end RaidProvision.Awk

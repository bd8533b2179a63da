import RaidProvision.Regex.Reader
import RaidProvision.System.Work

/-!
# Expressions of arguments

`expr` computes with its arguments: integers are added and multiplied, texts are compared and
matched. It succeeds if the result is something other than nothing and zero.

* `truthOf_nothing`: nothing counts as false.
-/
namespace RaidProvision.Expr

/-- Why an expression has no value. -/
inductive ExprFault where
  | missing
  | unexpected (word : String)
  | missingAfter (word : String)
  | notInteger
  | divisionByZero
  | badPattern (cause : Regex.RegexFault)
  deriving DecidableEq, Repr

def ExprFault.message : ExprFault → String
  | missing => "missing operand"
  | unexpected word => s!"syntax error: unexpected argument '{word}'"
  | missingAfter word => s!"syntax error: missing argument after '{word}'"
  | notInteger => "non-integer argument"
  | divisionByZero => "division by zero"
  | badPattern cause => cause.message

/-- An integer that a text is. -/
def integer? (s : String) : Option Int :=
  match s.toList with
  | '-' :: cs => if !cs.isEmpty && cs.all Char.isDigit then
      some (-(Nat.ofDigitChars 10 cs 0 : Int)) else none
  | cs => if !cs.isEmpty && cs.all Char.isDigit then some (Nat.ofDigitChars 10 cs 0) else none

/-- Whether a value counts as true. -/
def truthOf (s : String) : Bool :=
  match integer? s with
  | some n => n != 0
  | none => !s.isEmpty

theorem truthOf_nothing : truthOf "" = false := by decide

/-- What comes of matching a text from its start: a group, or how much is matched. -/
def matched (text pattern : String) : Except ExprFault String :=
  match Regex.ofText .basic pattern with
  | .error cause => .error (.badPattern cause)
  | .ok r =>
    let start := Position.ofText text.toList
    match Regex.longest? (r.ends false start), r.groupCount with
    | some finish, 0 => .ok (Nat.repr (start.upTo finish).length)
    | some finish, _ => .ok (String.ofList ((finish.groups.lookup 1).getD []))
    | none, 0 => .ok "0"
    | none, _ => .ok ""

/-- Operators by their precedence. -/
def levels : List (List String) :=
  [["|"], ["&"], ["<", "<=", "=", "==", "!=", ">=", ">"], ["+", "-"], ["*", "/", "%"], [":"]]

def arithmetic (op : String) (a b : String) : Except ExprFault String :=
  match integer? a, integer? b with
  | some x, some y =>
    if (op = "/" || op = "%") && y = 0 then .error .divisionByZero
    else
      .ok (toString (match op with
        | "+" => x + y
        | "-" => x - y
        | "*" => x * y
        | "/" => x.tdiv y
        | _ => x.tmod y))
  | _, _ => .error .notInteger

def comparison (op : String) (a b : String) : Bool :=
  let order :=
    match integer? a, integer? b with
    | some x, some y => compare x y
    | _, _ => compare a b
  match op with
  | "<" => order == .lt
  | "<=" => order != .gt
  | "=" | "==" => order == .eq
  | "!=" => order != .eq
  | ">=" => order != .lt
  | _ => order == .gt

/-- The value of two operands with an operator between them. -/
def apply (op a b : String) : Except ExprFault String :=
  match op with
  | "|" => .ok (if truthOf a then a else if truthOf b then b else "0")
  | "&" => .ok (if truthOf a && truthOf b then a else "0")
  | ":" => matched a b
  | "+" | "-" | "*" | "/" | "%" => arithmetic op a b
  | _ => .ok (if comparison op a b then "1" else "0")

/-- A value with the arguments that are left. -/
abbrev Reading := Except ExprFault (String × List String)

/-- Reads a word as it is. -/
def word (before : String) : List String → Reading
  | s :: rest => .ok (s, rest)
  | [] => .error (if before.isEmpty then .missing else .missingAfter before)

mutual

/-- Reads an expression of a level. `fuel` bounds the number of arguments. -/
def level : (fuel : Nat) → List (List String) → (before : String) → List String → Reading
  | 0, _, _, _ => .error .missing
  | fuel + 1, [], before, args => operand fuel before args
  | fuel + 1, operators :: higher, before, args => do
    let (a, rest) ← level fuel higher before args
    more fuel operators higher a rest

/-- Goes on after an operand of a level. -/
def more : (fuel : Nat) → List String → List (List String) → String → List String → Reading
  | 0, _, _, a, args => .ok (a, args)
  | fuel + 1, operators, higher, a, args =>
    match args with
    | op :: rest =>
      if operators.contains op then do
        let (b, rest) ← level fuel higher op rest
        more fuel operators higher (← apply op a b) rest
      else .ok (a, args)
    | [] => .ok (a, [])

/-- Reads an operand. -/
def operand : (fuel : Nat) → (before : String) → List String → Reading
  | 0, _, _ => .error .missing
  | fuel + 1, before, args => do
    match args with
    | "+" :: rest => word "+" rest
    | "(" :: rest =>
      let (a, rest) ← level fuel levels "(" rest
      match rest with
      | ")" :: rest => return (a, rest)
      | _ => throw (.missingAfter a)
    | ")" :: _ => throw (.unexpected ")")
    | "length" :: rest =>
      let (a, rest) ← operand fuel "length" rest
      return (Nat.repr a.length, rest)
    | "match" :: rest =>
      let (a, rest) ← operand fuel "match" rest
      let (b, rest) ← operand fuel a rest
      return (← matched a b, rest)
    | "index" :: rest =>
      let (a, rest) ← operand fuel "index" rest
      let (b, rest) ← operand fuel a rest
      let place := a.toList.findIdx? fun c => b.toList.contains c
      return (Nat.repr (place.elim 0 (· + 1)), rest)
    | "substr" :: rest =>
      let (a, rest) ← operand fuel "substr" rest
      let (b, rest) ← operand fuel a rest
      let (c, rest) ← operand fuel b rest
      match (integer? b, integer? c) with
      | (some first, some count) =>
        let cs := if first < 1 || count < 1 then []
          else (a.toList.drop (first.toNat - 1)).take count.toNat
        return (String.ofList cs, rest)
      | _ => return ("", rest)
    | args => word before args

end

/-- The value of an expression. -/
def value (args : List String) : Except ExprFault String := do
  let (s, rest) ← level (8 * args.length + 16) levels "" args
  match rest with
  | [] => return s
  | extra :: _ => throw (.unexpected extra)

end RaidProvision.Expr

namespace RaidProvision.Utility

/-- Prints the value of an expression. -/
def expr : Utility := fun args => do
  match Expr.value (if args.head? = some "--" then args.drop 1 else args) with
  | .error fault => Work.fail 2 fault.message
  | .ok value =>
    Work.print (value ++ "\n")
    return if Expr.truthOf value then 0 else 1

end RaidProvision.Utility

/-!
# Arithmetic

The shell computes with words of 64 bits and a sign. An expression is read with operators
of fixed precedence; it may give values to variables, which later parts of it see.

* `Arithmetic.eval_literal`: a number is its own value.
-/
namespace RaidProvision.Shell

/-- Operators between two numbers. -/
inductive Operator where
  | times
  | divide
  | remainder
  | plus
  | minus
  | shiftLeft
  | shiftRight
  | less
  | lessOrEqual
  | greater
  | greaterOrEqual
  | equal
  | unequal
  | bitAnd
  | bitXor
  | bitOr
  deriving DecidableEq, Repr

/-- An expression. -/
inductive Arithmetic where
  | literal (n : Int64)
  | name (name : String)
  | negate (a : Arithmetic)
  | complement (a : Arithmetic)
  | invert (a : Arithmetic)
  | binary (op : Operator) (a b : Arithmetic)
  | both (a b : Arithmetic)
  | either (a b : Arithmetic)
  | choose (condition a b : Arithmetic)
  /-- Gives a value to a variable, computed with the one it had if there is an operator. -/
  | assign (name : String) (op : Option Operator) (a : Arithmetic)
  deriving Repr

/-- Why an expression has no value. -/
inductive ArithmeticFault where
  | malformed
  | divisionByZero
  | noNumber (text : String)
  deriving DecidableEq, Repr

/-- What is said about a fault in the text of an expression. -/
def ArithmeticFault.messageIn (expression : String) : ArithmeticFault → String
  | malformed => s!"arithmetic expression: expecting primary: \"{expression}\""
  | divisionByZero => s!"arithmetic expression: division by zero: \"{expression}\""
  | noNumber text => s!"Illegal number: {text}"

/-! ## Numbers -/

/-- The value of a digit in bases up to 16. -/
def digitValue? (c : Char) : Option Nat :=
  if c.isDigit then some (c.toNat - '0'.toNat)
  else if 'a' ≤ c && c ≤ 'f' then some (c.toNat - 'a'.toNat + 10)
  else if 'A' ≤ c && c ≤ 'F' then some (c.toNat - 'A'.toNat + 10)
  else none

def isDigitIn (base : Nat) (c : Char) : Bool :=
  match digitValue? c with
  | some d => d < base
  | none => false

/-- The number that some digits are, and what follows them. -/
def takeDigits (base : Nat) (cs : List Char) : Nat × List Char :=
  ((cs.takeWhile (isDigitIn base)).foldl (fun n c => base * n + (digitValue? c).getD 0) 0,
    cs.dropWhile (isDigitIn base))

/-- Takes a number without sign, where the digits in front tell the base. -/
def takeNumber? (cs : List Char) : Option (Nat × List Char) :=
  match cs with
  | '0' :: x :: d :: rest =>
    if (x == 'x' || x == 'X') && isDigitIn 16 d then some (takeDigits 16 (d :: rest))
    else some (takeDigits 8 cs)
  | '0' :: _ => some (takeDigits 8 cs)
  | c :: _ => if c.isDigit then some (takeDigits 10 cs) else none
  | [] => none

/-- The word that is nearest to a number. -/
def clampWord (n : Int) : Int64 :=
  if n < Int64.minValue.toInt then Int64.minValue
  else if Int64.maxValue.toInt < n then Int64.maxValue
  else Int64.ofInt n

def isArithmeticSpace (c : Char) : Bool := c == ' ' || (9 ≤ c.toNat && c.toNat ≤ 13)

/-- Takes a number with white space and a sign in front. -/
def takeSigned? (cs : List Char) : Option (Int × List Char) :=
  match cs.dropWhile isArithmeticSpace with
  | '-' :: rest => (takeNumber? rest).map fun (n, rest) => (-(n : Int), rest)
  | '+' :: rest => (takeNumber? rest).map fun (n, rest) => ((n : Int), rest)
  | rest => (takeNumber? rest).map fun (n, rest) => ((n : Int), rest)

/-- The number that a variable holds. -/
def heldNumber (text : String) : Except ArithmeticFault Int64 :=
  if text.toList.all isArithmeticSpace then .ok 0
  else
    match takeSigned? text.toList with
    | some (n, rest) =>
      if rest.all isArithmeticSpace then .ok (clampWord n) else .error (.noNumber text)
    | none => .error (.noNumber text)

/-! ## Reading -/

namespace Arithmetic

/-- Operators by their signs and precedence, the longer signs first. -/
def operators : List (String × Nat × (Arithmetic → Arithmetic → Arithmetic)) :=
  [("||", 1, either), ("&&", 2, both), ("==", 6, binary .equal), ("!=", 6, binary .unequal),
    ("<<", 8, binary .shiftLeft), (">>", 8, binary .shiftRight), ("<=", 7, binary .lessOrEqual),
    (">=", 7, binary .greaterOrEqual), ("<", 7, binary .less), (">", 7, binary .greater),
    ("|", 3, binary .bitOr), ("^", 4, binary .bitXor), ("&", 5, binary .bitAnd),
    ("+", 9, binary .plus), ("-", 9, binary .minus), ("*", 10, binary .times),
    ("/", 10, binary .divide), ("%", 10, binary .remainder)]

/-- Signs that give a value to a variable, the longer ones first. -/
def assignments : List (String × Option Operator) :=
  [("<<=", some .shiftLeft), (">>=", some .shiftRight), ("+=", some .plus), ("-=", some .minus),
    ("*=", some .times), ("/=", some .divide), ("%=", some .remainder), ("&=", some .bitAnd),
    ("^=", some .bitXor), ("|=", some .bitOr), ("=", none)]

def skipSpace (cs : List Char) : List Char := cs.dropWhile isArithmeticSpace

/-- The assignment that is next, which is no comparison. -/
def assignment? (cs : List Char) : Option (Option Operator × List Char) :=
  (assignments.find? fun (sign, _) => sign.toList.isPrefixOf cs).bind fun (sign, op) =>
    let rest := cs.drop sign.length
    if sign = "=" && rest.head? = some '=' then none else some (op, rest)

/-- The operator that is next, if it binds at least as tightly as asked. -/
def operator? (level : Nat) (cs : List Char) :
    Option (Nat × (Arithmetic → Arithmetic → Arithmetic) × List Char) :=
  (operators.find? fun (sign, _, _) => sign.toList.isPrefixOf cs).bind fun (sign, own, build) =>
    let rest := cs.drop sign.length
    if own < level || (assignment? cs).isSome then none else some (own, build, rest)

def isNamePart (c : Char) : Bool := c.isAlphanum || c == '_'

mutual

/-- Reads operands and operators that bind at least as tightly as a level. -/
def readLevel : (fuel : Nat) → (level : Nat) → List Char →
    Except ArithmeticFault (Arithmetic × List Char)
  | 0, _, _ => .error .malformed
  | fuel + 1, level, cs => do
    let (a, rest) ← readOperand fuel (skipSpace cs)
    readOperators fuel level a (skipSpace rest)

/-- Goes on after an operand. -/
def readOperators : (fuel : Nat) → (level : Nat) → Arithmetic → List Char →
    Except ArithmeticFault (Arithmetic × List Char)
  | 0, _, _, _ => .error .malformed
  | fuel + 1, level, a, cs =>
    match operator? level cs with
    | some (own, build, rest) => do
      let (b, rest) ← readLevel fuel (own + 1) rest
      readOperators fuel level (build a b) (skipSpace rest)
    | none =>
      match cs with
      | '?' :: rest =>
        if level = 0 then do
          let (b, rest) ← readLevel fuel 0 rest
          match skipSpace rest with
          | ':' :: rest =>
            let (c, rest) ← readLevel fuel 0 rest
            return (.choose a b c, skipSpace rest)
          | _ => .error .malformed
        else .ok (a, cs)
      | _ => .ok (a, cs)

/-- Reads an operand. -/
def readOperand : (fuel : Nat) → List Char → Except ArithmeticFault (Arithmetic × List Char)
  | 0, _ => .error .malformed
  | fuel + 1, cs =>
    match cs with
    | '-' :: rest => do
      let (a, rest) ← readOperand fuel (skipSpace rest)
      return (.negate a, rest)
    | '+' :: rest => readOperand fuel (skipSpace rest)
    | '!' :: rest => do
      let (a, rest) ← readOperand fuel (skipSpace rest)
      return (.invert a, rest)
    | '~' :: rest => do
      let (a, rest) ← readOperand fuel (skipSpace rest)
      return (.complement a, rest)
    | '(' :: rest => do
      let (a, rest) ← readLevel fuel 0 rest
      match skipSpace rest with
      | ')' :: rest => return (a, rest)
      | _ => .error .malformed
    | c :: _ =>
      if c.isDigit then
        match takeNumber? cs with
        | some (n, rest) => .ok (.literal (clampWord n), rest)
        | none => .error .malformed
      else if isNamePart c then
        let name := String.ofList (cs.takeWhile isNamePart)
        let rest := skipSpace (cs.dropWhile isNamePart)
        match assignment? rest with
        | some (op, rest) => do
          let (a, rest) ← readLevel fuel 0 rest
          return (.assign name op a, rest)
        | none => .ok (.name name, rest)
      else .error .malformed
    | [] => .error .malformed

end

/-- Reads an expression that takes up a whole text. -/
def read (s : String) : Except ArithmeticFault Arithmetic := do
  let cs := s.toList
  if cs.all isArithmeticSpace then return .literal 0
  let (expression, rest) ← readLevel (4 * cs.length + 4) 0 cs
  if (skipSpace rest).isEmpty then return expression else .error .malformed

/-! ## Values -/

/-- The number for a truth value. -/
def truth (b : Bool) : Int64 := if b then 1 else 0

end Arithmetic

def Operator.apply : Operator → Int64 → Int64 → Except ArithmeticFault Int64
  | .times, a, b => .ok (a * b)
  | .divide, a, b => if b = 0 then .error .divisionByZero else .ok (a / b)
  | .remainder, a, b => if b = 0 then .error .divisionByZero else .ok (a % b)
  | .plus, a, b => .ok (a + b)
  | .minus, a, b => .ok (a - b)
  | .shiftLeft, a, b => .ok (a <<< b)
  | .shiftRight, a, b => .ok (a >>> b)
  | .less, a, b => .ok (Arithmetic.truth (a < b))
  | .lessOrEqual, a, b => .ok (Arithmetic.truth (a ≤ b))
  | .greater, a, b => .ok (Arithmetic.truth (b < a))
  | .greaterOrEqual, a, b => .ok (Arithmetic.truth (b ≤ a))
  | .equal, a, b => .ok (Arithmetic.truth (a = b))
  | .unequal, a, b => .ok (Arithmetic.truth (a ≠ b))
  | .bitAnd, a, b => .ok (a &&& b)
  | .bitXor, a, b => .ok (a ^^^ b)
  | .bitOr, a, b => .ok (a ||| b)

namespace Arithmetic

/-- Values that an expression gave to variables, the latest first. -/
abbrev Given := List (String × Int64)

/-- A part of a computation. -/
abbrev Computing (α : Type) := StateT Given (Except ArithmeticFault) α

variable (held : String → String)

/-- The number in a variable. -/
def valueOf (name : String) : Computing Int64 := do
  match (← get).lookup name with
  | some n => return n
  | none => heldNumber (held name)

/-- The value of an expression, where `held` is what variables hold before. -/
def eval : Arithmetic → Computing Int64
  | literal n => return n
  | name n => valueOf held n
  | negate a => return -(← eval a)
  | complement a => return ~~~(← eval a)
  | invert a => return truth ((← eval a) = 0)
  | binary op a b => do
    let x ← eval a
    let y ← eval b
    op.apply x y
  | both a b => do
    if (← eval a) = 0 then return 0
    return truth ((← eval b) ≠ 0)
  | either a b => do
    if (← eval a) ≠ 0 then return 1
    return truth ((← eval b) ≠ 0)
  | choose c a b => do if (← eval c) ≠ 0 then eval a else eval b
  | assign n op a => do
    let y ← eval a
    let value ←
      match op with
      | none => pure y
      | some op => do op.apply (← valueOf held n) y
    modify ((n, value) :: ·)
    return value

theorem eval_literal (n : Int64) (given : Given) :
    (eval held (.literal n)).run given = .ok (n, given) := rfl

end Arithmetic
end RaidProvision.Shell

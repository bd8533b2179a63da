import RaidProvision.System.Work

/-!
# Conditions

`test` says whether a condition holds that its arguments spell: something about a text, a number or
a file, or several of these with operators between them. What a few arguments mean depends on their
number, so that operands may look like operators.

* `test_nothing`: no condition does not hold.
-/
namespace RaidProvision.Condition

/-- How two operands are compared. -/
inductive Comparison where
  | same
  | different
  | before
  | after
  | equal
  | unequal
  | greaterOrEqual
  | greater
  | lessOrEqual
  | less
  /-- Times of two files; nothing is known about those. -/
  | newer
  | older
  | sameFile
  deriving DecidableEq, Repr

/-- What an argument can be. -/
inductive Token where
  | finished
  | operand
  | unary (letter : Char)
  | binary (comparison : Comparison)
  | negation
  | conjunction
  | disjunction
  | opening
  | closing
  deriving DecidableEq, Repr

def comparisons : List (String × Comparison) :=
  [("=", .same), ("!=", .different), ("<", .before), (">", .after), ("-eq", .equal),
    ("-ne", .unequal), ("-ge", .greaterOrEqual), ("-gt", .greater), ("-le", .lessOrEqual),
    ("-lt", .less), ("-nt", .newer), ("-ot", .older), ("-ef", .sameFile)]

def operators : List (String × Token) :=
  [("!", .negation), ("-a", .conjunction), ("-o", .disjunction),
    ("(", .opening), (")", .closing)] ++
    comparisons.map fun (text, comparison) => (text, .binary comparison)

/-- Letters of the conditions on one operand. -/
def unaryLetters : String := "rwxefdcbpugkstznhOGLS"

/-- The operator that an argument looks like. -/
def operator? (arg : String) : Option Token :=
  match arg.toList with
  | ['-', letter] =>
    if unaryLetters.toList.contains letter then some (.unary letter) else operators.lookup arg
  | _ => operators.lookup arg

def comparison? (arg : String) : Option Comparison := comparisons.lookup arg

/-- What the first of some arguments is. -/
def tokenAt : List String → Token
  | [] => .finished
  | arg :: rest =>
    match operator? arg, rest with
    | none, _ => .operand
    | some (.unary _), [] => .operand
    | some (.unary letter), [_] => .unary letter
    | some (.unary letter), next :: _ =>
      if (comparison? next).isSome then .operand else .unary letter
    | some .opening, [] => .operand
    | some token, _ => token

/-- A number in decimal digits, with blanks around it. -/
def number? (s : String) : Option Int :=
  let isBlank (c : Char) : Bool := c == ' ' || (9 ≤ c.toNat && c.toNat ≤ 13)
  let cs := s.toList.dropWhile isBlank
  let (negative, cs) :=
    match cs with
    | '-' :: cs => (true, cs)
    | '+' :: cs => (false, cs)
    | cs => (false, cs)
  let digits := cs.takeWhile Char.isDigit
  let n : Int := Nat.ofDigitChars 10 digits 0
  let n := if negative then -n else n
  let inRange := -9223372036854775808 ≤ n && n < 9223372036854775808
  if digits.isEmpty || !(cs.drop digits.length).all isBlank || !inRange then none else some n

def number (s : String) : Except String Int :=
  match number? s with
  | some n => .ok n
  | none => .error s!"Illegal number: {s}"

section

variable (files : FileTree) (directory : Way)

/-- What stands where a path leads. -/
def entryAt (path : String) : Option Entry := ((files.find directory path).toOption).map Prod.snd

/-- Whether a condition on one operand holds. -/
def unary (letter : Char) (operand : String) : Except String Bool :=
  let holds (condition : Entry → Bool) : Except String Bool :=
    .ok ((entryAt files directory operand).any condition)
  match letter with
  | 'z' => .ok operand.isEmpty
  | 'n' => .ok !operand.isEmpty
  | 't' => (number operand).map fun _ => false
  | 'e' | 'r' | 'w' | 'O' | 'G' => holds fun _ => true
  | 'f' => holds fun | .file .. | .program _ => true | _ => false
  | 'd' => holds (· == .directory)
  | 'x' => holds fun entry => entry.isExecutable || entry == .directory
  | 's' => holds fun
    | .file content _ => !content.isEmpty
    | .program _ | .directory => true
    | _ => false
  | 'c' => holds fun | .null | .opened _ => true | _ => false
  | _ => .ok false

/-- Whether a comparison holds. -/
def binary (comparison : Comparison) (a b : String) : Except String Bool :=
  let numbers (condition : Int → Int → Bool) : Except String Bool := do
    let x ← number a
    let y ← number b
    return condition x y
  let found (path : String) := (files.find directory path).toOption.map Prod.fst
  match comparison with
  | .same => .ok (a = b)
  | .different => .ok (a ≠ b)
  | .before => .ok (decide (a < b))
  | .after => .ok (decide (b < a))
  | .equal => numbers (· = ·)
  | .unequal => numbers (· ≠ ·)
  | .greaterOrEqual => numbers (· ≥ ·)
  | .greater => numbers (· > ·)
  | .lessOrEqual => numbers (· ≤ ·)
  | .less => numbers (· < ·)
  | .newer | .older => .ok false
  | .sameFile => .ok ((found a).isSome && found a = found b)

/-- Whether a condition holds, with the arguments from the last one of it on. -/
abbrev Verdict := Except String (Bool × List String)

mutual

/-- Conditions of which one has to hold. -/
def anyOf : (fuel : Nat) → List String → Verdict
  | 0, args => .ok (false, args)
  | fuel + 1, args => do
    let (value, args) ← allOf fuel args
    match tokenAt (args.drop 1) with
    | .disjunction =>
      let (other, args) ← anyOf fuel (args.drop 2)
      return (value || other, args)
    | _ => return (value, args)

/-- Conditions which all have to hold. -/
def allOf : (fuel : Nat) → List String → Verdict
  | 0, args => .ok (false, args)
  | fuel + 1, args => do
    let (value, args) ← single fuel args
    match tokenAt (args.drop 1) with
    | .conjunction =>
      let (other, args) ← allOf fuel (args.drop 2)
      return (value && other, args)
    | _ => return (value, args)

/-- A condition without operators between parts. -/
def single : (fuel : Nat) → List String → Verdict
  | 0, args => .ok (false, args)
  | fuel + 1, args => do
    match tokenAt args, args with
    | .finished, _ => return (false, args)
    | .negation, _ =>
      if args.length = 1 then return (true, args)
      let (value, args) ← single fuel (args.drop 1)
      return (!value, args)
    | .opening, _ =>
      if tokenAt (args.drop 1) = .closing then return (false, args.drop 1)
      let (value, args) ← anyOf fuel (args.drop 1)
      if tokenAt (args.drop 1) = .closing then return (value, args.drop 1)
      throw "closing paren expected"
    | .unary letter, _ :: operand :: rest =>
      return (← unary files directory letter operand, operand :: rest)
    | .unary letter, _ => throw s!"-{letter}: argument expected"
    | _, a :: rest =>
      match tokenAt rest, rest with
      | .binary comparison, _ :: b :: rest =>
        return (← binary files directory comparison a b, b :: rest)
      | .binary _, op :: _ => throw s!"{op}: argument expected"
      | _, _ => return (!a.isEmpty, args)
    | _, [] => return (false, args)

end

/-- Whether a condition holds that takes up all arguments. -/
def whole (args : List String) : Except String Bool := do
  let (value, rest) ← anyOf files directory (4 * args.length + 4) args
  match rest with
  | last :: _ :: _ => throw s!"{last}: unexpected operator"
  | _ => return value

/-- Whether the condition holds that some arguments spell, or does not hold if it is `negated`. -/
def evaluate (negated : Bool) (args : List String) : Except String Bool :=
  let shown (result : Except String Bool) := result.map (· != negated)
  match args with
  | [] => .ok negated
  | ["!", a, b, c] => evaluate true [a, b, c]
  | [a, op, b] =>
    match comparison? op with
    | some comparison => shown (binary files directory comparison a b)
    | none =>
      if a = "(" && b = ")" then shown (whole files directory [op])
      else if a = "!" then evaluate true [op, b]
      else shown (whole files directory args)
  | ["(", a, b, ")"] => shown (whole files directory [a, b])
  | args => shown (whole files directory args)

theorem test_nothing : evaluate files directory false [] = .ok false := rfl

end
end RaidProvision.Condition

namespace RaidProvision.Utility

/-- Succeeds if a condition holds. -/
def test : Utility := fun args => do
  match Condition.evaluate (← Work.files) (← read).directory false args with
  | .ok holds => return Work.statusOf holds
  | .error fault => Work.fail 2 fault

/-- The same with a bracket behind the condition. -/
def bracket : Utility := fun args =>
  if args.getLast? = some "]" then test args.dropLast else Work.fail 2 "missing ]"

end RaidProvision.Utility

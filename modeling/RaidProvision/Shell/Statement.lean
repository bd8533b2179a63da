/-!
# Statements of the shell

A shell script is statements, a statement is made of words, and a word of pieces: characters as they
are or quoted, and what stands for the value of a parameter, the output of statements or the value
of an arithmetic expression.
-/
namespace RaidProvision.Shell

/-- What happens if a parameter has no value. -/
inductive Fallback where
  /-- A word stands for the value. -/
  | use
  /-- A word becomes the value. -/
  | assign
  /-- The script ends with a complaint. -/
  | complain
  /-- A word stands for the value if there is one, and nothing does otherwise. -/
  | replace
  deriving DecidableEq, Repr

/-- What is done with a descriptor. -/
inductive Transfer where
  | read
  | write
  | append
  | update
  /-- It becomes a copy of another one. -/
  | copy
  /-- It reads a text that stands in the script. -/
  | document
  deriving DecidableEq, Repr

mutual

/-- A part of a word. -/
inductive Piece where
  | plain (s : String)
  | quoted (s : String)
  /-- What stands between double quotes. -/
  | double (pieces : List Piece)
  | parameter (name : String)
  /-- The length of a parameter's value. -/
  | size (name : String)
  /-- A parameter with a fallback for no value, or for an empty one as well. -/
  | fallback (name : String) (kind : Fallback) (ifEmpty : Bool) (word : List Piece)
  /-- A parameter's value without what matches a pattern at one end. -/
  | trimmed (name : String) (atEnd longest : Bool) (pattern : List Piece)
  /-- What a statement prints. -/
  | output (body : Statement)
  | arithmetic (expression : List Piece)
  /-- A parameter in braces that means nothing. -/
  | faulty

/-- What is done with a descriptor, and the word that says with what. -/
inductive Redirection where
  | mk (descriptor : Nat) (transfer : Transfer) (word : List Piece)

/-- A statement. -/
inductive Statement where
  | nothing
  /-- A command in a line of the script: assignments, words, and what is done with descriptors. -/
  | command (line : Nat) (assignments : List (String × List Piece)) (words : List (List Piece))
      (redirections : List Redirection)
  | pipeline (negated : Bool) (parts : List Statement)
  /-- The second one is run if the first one succeeds. -/
  | both (first second : Statement)
  /-- The second one is run if the first one fails. -/
  | either (first second : Statement)
  | sequence (first second : Statement)
  | background (body : Statement)
  | subshell (body : Statement)
  | conditional (test success failure : Statement)
  /-- The body is run while the test succeeds, or while it fails. -/
  | loop (whileFails : Bool) (test body : Statement)
  /-- The body is run for each of some words, or for each parameter. -/
  | each (name : String) (words : Option (List (List Piece))) (body : Statement)
  /-- The body with the first pattern that matches a word is run. -/
  | choice (word : List Piece) (cases : List (List (List Piece) × Statement))
  | define (name : String) (body : Statement)
  | redirected (body : Statement) (redirections : List Redirection)

end

/-- A word of a script. -/
abbrev Word := List Piece

instance : Inhabited Piece := ⟨.faulty⟩
instance : Inhabited Statement := ⟨.nothing⟩

/-- Puts a piece in front of a word and joins characters of one kind. -/
def Piece.cons : Piece → Word → Word
  | .plain a, .plain b :: rest => .plain (a ++ b) :: rest
  | .quoted a, .quoted b :: rest => .quoted (a ++ b) :: rest
  | piece, word => piece :: word

namespace Word

/-- The characters of a word in which nothing has a meaning. -/
def bareText? : Word → Option String
  | [.plain s] => some s
  | _ => none

end Word

/-- Characters that begin a name. -/
def isNameStart (c : Char) : Bool := c.isAlpha || c == '_'

/-- Characters that go on with a name. -/
def isNamePart (c : Char) : Bool := c.isAlphanum || c == '_'

/-- Whether a text can be the name of a variable. -/
def isName (s : String) : Bool :=
  match s.toList with
  | [] => false
  | c :: cs => isNameStart c && cs.all isNamePart

/-- Parameters whose name is one sign. -/
def isSign (c : Char) : Bool := "@*#?-$!".toList.contains c

end RaidProvision.Shell

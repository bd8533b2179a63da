import RaidProvision.Shell.Arithmetic
import RaidProvision.System.Work
import RaidProvision.Utility.Escape

/-!
# Printing arguments

`echo` prints its arguments with blanks between them. The one of the shell knows escapes and one
option, the program knows escapes if it is asked to.

* `echoed_plain`: without options and escapes the arguments are printed as they are.
-/
namespace RaidProvision.Utility

/-- The value of a hexadecimal digit. -/
def hexDigit? (c : Char) : Option Nat := Shell.digitValue? c

/-- The escapes that the program knows besides the common ones. -/
def expandEscapes (cs : List Char) : List Char × Bool :=
  match cs with
  | [] => ([], false)
  | '\\' :: 'e' :: rest =>
    let (cs, ended) := expandEscapes rest
    ('\x1B' :: cs, ended)
  | '\\' :: 'x' :: a :: b :: rest =>
    match hexDigit? a, hexDigit? b with
    | some m, some n =>
      let (cs, ended) := expandEscapes rest
      (Char.ofNat (16 * m + n) :: cs, ended)
    | some m, none =>
      let (cs, ended) := expandEscapes (b :: rest)
      (Char.ofNat m :: cs, ended)
    | none, _ =>
      let (cs, ended) := expandEscapes (a :: b :: rest)
      ('\\' :: 'x' :: cs, ended)
  | c :: rest =>
    if c = '\\' then
      if rest.head? = some 'c' then ([], true)
      else
        let after := Escape.take (Escape.octalDigits rest)
        let (cs, ended) := expandEscapes after.2
        (after.1 :: cs, ended)
    else
      let (cs, ended) := expandEscapes rest
      (c :: cs, ended)
termination_by cs.length
decreasing_by
  · simp only [List.length_cons]
    omega
  · simp only [List.length_cons]
    omega
  · simp only [List.length_cons]
    omega
  · simp only [List.length_cons]
    omega
  · have h := Escape.length_take (Escape.octalDigits rest)
    have h' := Escape.length_octalDigits rest
    simp only [List.length_cons]
    omega
  · simp

/-- How arguments are printed. -/
structure EchoStyle where
  expand : List Char → List Char × Bool
  newline : Bool

/-- What is printed for some arguments. -/
def EchoStyle.text (style : EchoStyle) (args : List String) : String :=
  let (cs, ended) := style.expand (" ".intercalate args).toList
  String.ofList (if ended || !style.newline then cs else cs ++ ['\n'])

/-- Arguments that are printed as they are. -/
def EchoStyle.plain : EchoStyle := ⟨fun cs => (cs, false), true⟩

theorem echoed_plain (args : List String) :
    EchoStyle.plain.text args = String.ofList ((" ".intercalate args).toList ++ ['\n']) := by
  simp [EchoStyle.plain, EchoStyle.text]

/-- Prints arguments as the shell does. -/
def shellEcho : Utility
  | "-n" :: args => do
    Work.print ((EchoStyle.mk Escape.unescape false).text args)
    return 0
  | args => do
    Work.print ((EchoStyle.mk Escape.unescape true).text args)
    return 0

/-- Reads the options in front of the arguments. -/
def echoOptions (style : EchoStyle) : List String → EchoStyle × List String
  | [] => (style, [])
  | arg :: rest =>
    match arg.toList with
    | '-' :: letters =>
      if !letters.isEmpty && letters.all "neE".toList.contains then
        let style := letters.foldl (fun style letter =>
          match letter with
          | 'n' => { style with newline := false }
          | 'e' => { style with expand := expandEscapes }
          | _ => { style with expand := fun cs => (cs, false) }) style
        echoOptions style rest
      else (style, arg :: rest)
    | _ => (style, arg :: rest)

/-- Prints arguments as the program does. -/
def echo : Utility := fun args => do
  let (style, args) := echoOptions .plain args
  Work.print (style.text args)
  return 0

end RaidProvision.Utility

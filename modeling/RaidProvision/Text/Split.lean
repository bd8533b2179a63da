/-!
# Cutting text

`splitFirst` cuts at the first place where a separator stands, `pieces` cuts at every place of a
character, `lines` are the lines of a report: ended by a line feed, which may follow one carriage
return, and without an empty last line.

* `cutFirst_eq_some`: what `cutFirst` returns, with the separator between, is the text.
-/
namespace RaidProvision.Text

/-- The parts before and after the first occurrence of `sep`. -/
def cutFirst (sep : List Char) : List Char → Option (List Char × List Char)
  | [] => if sep.isEmpty then some ([], []) else none
  | c :: cs =>
    if sep.isPrefixOf (c :: cs) then some ([], (c :: cs).drop sep.length)
    else (cutFirst sep cs).map fun (before, after) => (c :: before, after)

theorem cutFirst_eq_some {sep cs before after : List Char}
    (h : cutFirst sep cs = some (before, after)) : cs = before ++ sep ++ after := by
  induction cs generalizing before after with
  | nil =>
    simp only [cutFirst] at h
    split at h
    · simp_all
    · cases h
  | cons c cs ih =>
    simp only [cutFirst] at h
    split at h
    · rename_i hp
      obtain ⟨r, hr⟩ := List.isPrefixOf_iff_prefix.1 hp
      simp only [Option.some.injEq, Prod.mk.injEq] at h
      rw [← h.1, ← h.2, ← hr]
      simp
    · obtain ⟨⟨b, a⟩, hb, he⟩ := Option.map_eq_some_iff.1 h
      simp only [Prod.mk.injEq] at he
      rw [ih hb, ← he.1, ← he.2]
      simp

/-- The texts before and after the first occurrence of `sep` in `s`. -/
def splitFirst (sep s : String) : Option (String × String) :=
  (cutFirst sep.toList s.toList).map fun (before, after) =>
    (String.ofList before, String.ofList after)

/-- Whether `needle` occurs in `s`. -/
def contains (needle s : String) : Bool := (cutFirst needle.toList s.toList).isSome

/-- The texts between the occurrences of `c`: one more than there are occurrences. -/
def pieces (c : Char) (s : String) : List String := (s.toList.splitOn c).map String.ofList

/-- The text before the first `c`, or all of it. -/
def before (c : Char) (s : String) : String := String.ofList (s.toList.takeWhile (· != c))

/-- A line without one carriage return at its end. -/
def dropReturn (cs : List Char) : List Char :=
  if cs.getLast? = some '\r' then cs.dropLast else cs

/-- Turns the pieces between line feeds into lines. A last piece ended by nothing is a line as it
stands, unless it is empty. -/
def linesOfPieces : List (List Char) → List (List Char)
  | [] => []
  | [last] => if last.isEmpty then [] else [last]
  | piece :: rest => dropReturn piece :: linesOfPieces rest

/-- The lines of a report. -/
def lines (s : String) : List String :=
  (linesOfPieces (s.toList.splitOn '\n')).map String.ofList

end RaidProvision.Text

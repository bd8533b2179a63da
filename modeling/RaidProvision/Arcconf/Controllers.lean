import RaidProvision.Report.Line

/-!
# The controller list of arcconf (raidmgr specification §4.1)

The list begins with `Controllers found: n` and two more banner lines; each line after them is
`Controller id:` with more behind it. The number and the ids are read apart from each other.

* `idOfLine_eq_ok`: which lines name a controller.
-/
namespace RaidProvision.Arcconf

open RaidProvision.Text RaidProvision.Report

/-- The lines before those of the controllers (§4.1). -/
def bannerLines : Nat := 3

/-- The number of controllers: the first word after the first colon, which ends at the second
(§4.1). -/
def controllerCount (report : String) : Except ReportError UInt32 :=
  match pieces ':' report with
  | _ :: after :: _ =>
    match words after with
    | [] => .error .emptyControllerCount
    | token :: _ => (readUInt32 token).mapError (.badControllerCount token)
  | _ => .error .noControllerCount

/-- The id that a line names, without the colons behind it (§4.1). -/
def idOfLine (line : String) : Except ReportError String :=
  match words line with
  | "Controller" :: id :: _ =>
    if id.toList.getLast? = some ':' then
      .ok (String.ofList (dropTrailing (· == ':') id.toList))
    else .error (.badControllerLine (trim line))
  | _ => .error (.badControllerLine (trim line))

/-- The ids of the controllers (§4.1). -/
def controllerIds (report : String) : Except ReportError (List String) :=
  (((pieces '\n' report).drop bannerLines).filter (!isBlankText ·)).mapM idOfLine

theorem idOfLine_eq_ok {line id : String} :
    idOfLine line = .ok id ↔
      ∃ token rest, words line = "Controller" :: token :: rest ∧ token.toList.getLast? = some ':' ∧
        id = String.ofList (dropTrailing (· == ':') token.toList) := by
  constructor
  · intro h
    unfold idOfLine at h
    split at h
    · rename_i token rest hw
      split at h
      · rename_i hl
        simp only [Except.ok.injEq] at h
        exact ⟨token, rest, hw, hl, h.symm⟩
      · cases h
    · cases h
  · rintro ⟨token, rest, hw, hl, rfl⟩
    simp [idOfLine, hw, hl]

end RaidProvision.Arcconf

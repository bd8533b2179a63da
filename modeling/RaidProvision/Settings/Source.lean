import RaidProvision.Session.Host
import RaidProvision.Settings.Toml

/-!
# Where settings come from (raidmgr specification §10)

Settings are read from a file that is named, which then has to be there and to be readable, or from
the standard place. If nothing can be read from there, the standard settings are written there, as
far as that is possible, and used.

* `run_fromPlace`: settings that can be read are used, and nothing is written.
-/
namespace RaidProvision.Settings

/-- A path one step longer. -/
def extendPath (path name : String) : String :=
  if path.endsWith "/" then path ++ name else path ++ "/" ++ name

/-- The standard place below the directory of a user's settings (§10). -/
def standardPlace (directory : String) : String :=
  extendPath (extendPath directory "raidmgr") "raidmgr.toml"

/-- What stands in front of settings that the program writes. -/
def fileHeader : String := "# raidmgr configuration\n# Generated on first run, edit freely\n\n"

/-- The file that is written if there is none. -/
def standardFile : String := fileHeader ++ standard.toText

/-- Why no settings could be read from a file. -/
inductive SourceError where
  | notRead (cause : OsError)
  | refused

/-- Reads the settings in a file (§10). -/
def fromFile (path : String) : Script (Except SourceError Settings) :=
  .ask (.readFile path) fun answer =>
    .done <| match answer with
      | .error cause => .error (.notRead cause)
      | .ok text =>
        match ofText text with
        | some settings => .ok settings
        | none => .error .refused

/-- Reads the settings in the standard place, or puts the standard settings there (§10). -/
def fromPlace (path : String) : Script Settings :=
  (fromFile path).bind fun result =>
    match result with
    | .ok settings => .done settings
    | .error _ => .ask (.replaceFile path standardFile) fun _ => .done standard

/-- The settings if no file is named. Without a place for them they are the standard ones (§10). -/
def load : Option String → Script Settings
  | some path => fromPlace path
  | none => .done standard

theorem run_fromPlace {path text : String} {settings : Settings} {host : Host}
    (hread : host.readText path = .ok text) (htext : ofText text = some settings) :
    (fromPlace path).run host = ⟨settings, [.readFile path], host⟩ := by
  simp [fromPlace, fromFile, Script.bind, Script.run, Host.answer, hread, htext]

end RaidProvision.Settings

import RaidProvision.Binary64.Places
import RaidProvision.Text.Blank
import RaidProvision.Utility.Passing

/-!
# Programs for files

Programs that list, make, copy, move and remove files and directories.

* `baseName_plain`: a name without a slash is its own base name.
-/
namespace RaidProvision.Utility

open RaidProvision.Text (pieces)

/-! ## Names -/

/-- A path without slashes at its end. -/
def dropSlashes (path : String) : String :=
  String.ofList (path.toList.reverse.dropWhile (· == '/')).reverse

/-- The last name of a path. -/
def baseName (path : String) : String :=
  if path.isEmpty then ""
  else if (dropSlashes path).isEmpty then "/"
  else (pieces '/' (dropSlashes path)).getLastD ""

theorem baseName_plain : baseName "name" = "name" := by decide +kernel

/-- A path without its last name. -/
def directoryName (path : String) : String :=
  let parts := pieces '/' (dropSlashes path)
  if path.toList.all (· == '/') && !path.isEmpty then "/"
  else if parts.length ≤ 1 then "."
  else
    let lead := dropSlashes ("/".intercalate parts.dropLast)
    if lead.isEmpty then "/" else lead

/-- A name without an ending, unless nothing else is left. -/
def dropEnding (ending name : String) : String :=
  if ending != "" && name.endsWith ending && name != ending then
    (name.dropEnd ending.length).toString
  else name

def basename : Utility := withOptions { flags := "az", valued := "s",
                                        long := [("suffix", 's'), ("multiple", 'a')],
                                        mixed := false } 1 fun options => do
  match options.operands, options.has 'a' || options.has 's' with
  | [], _ => Work.fail 1 "missing operand"
  | paths, true =>
    let ending := (options.value? 's').getD ""
    Work.print (joinLines (paths.map fun path => dropEnding ending (baseName path)))
    return 0
  | [path], _ =>
    Work.print (baseName path ++ "\n")
    return 0
  | [path, ending], _ =>
    Work.print (dropEnding ending (baseName path) ++ "\n")
    return 0
  | _ :: _ :: extra :: _, _ => Work.fail 1 s!"extra operand '{extra}'"

def dirname : Utility := fun args => do
  if args.isEmpty then return ← Work.fail 1 "missing operand"
  Work.print (joinLines (args.map directoryName))
  return 0

/-- The path of a way. -/
def absolutePath (way : Way) : String := "/" ++ "/".intercalate way

/-- Prints where paths lead. -/
def realpath : Utility := fun args => do
  let mut complete := true
  for path in args.filter fun arg => !arg.startsWith "-" do
    match (← Work.files).locate (← read).directory path with
    | .ok location => Work.print (absolutePath location.way ++ "\n")
    | .error cause =>
      Work.complainOf path cause
      complete := false
  return Work.statusOf complete

/-! ## Making and removing -/

/-- Does something for each path. -/
def forEach (task : String → Work Bool) (paths : List String) : Work Nat := do
  if paths.isEmpty then return ← Work.fail 1 "missing operand"
  let worked ← paths.mapM task
  return Work.statusOf (worked.all id)

/-- Complains that something cannot be done with a path. -/
def refuse (what path : String) (cause : OsError) : Work Bool := do
  Work.complain s!"cannot {what} '{path}': {cause.plainMessage}"
  return false

/-- Changes the files, or complains. -/
def changeFiles (what path : String) (change : FileTree → Way → String → Except OsError FileTree) :
    Work Bool := do
  match change (← Work.files) (← read).directory path with
  | .ok files =>
    Work.setFiles files
    return true
  | .error cause => refuse what path cause

def mkdirOptions : OptionTable :=
  { flags := "pv", valued := "m", long := [("parents", 'p'), ("mode", 'm'), ("verbose", 'v')],
    mixed := true }

def mkdir : Utility := withOptions mkdirOptions 1 fun options =>
  forEach (fun path =>
    if options.has 'p' then changeFiles "create directory" path FileTree.makeDirectories
    else changeFiles "create directory" path FileTree.makeDirectory) options.operands

def rmdir : Utility := withOptions { flags := "pv", valued := "", long := [], mixed := true } 1
    fun options =>
  forEach (fun path => do
    match (← Work.files).removeDirectory (← read).directory path with
    | .ok files =>
      Work.setFiles files
      return true
    | .error cause =>
      Work.complain s!"failed to remove '{path}': {cause.plainMessage}"
      return false) options.operands

def rmOptions : OptionTable :=
  { flags := "frRivd", valued := "",
    long := [("force", 'f'), ("recursive", 'r'), ("verbose", 'v'), ("dir", 'd')], mixed := true }

/-- Removes a file, or a directory with all that it holds. -/
def removePath (options : Options) (path : String) : Work Bool := do
  let files ← Work.files
  match files.find (← read).directory path with
  | .error cause =>
    if options.has 'f' && (cause = .notFound || cause = .notADirectory) then return true
    refuse "remove" path cause
  | .ok (way, .directory) =>
    if options.has 'r' || options.has 'R' then
      if way.isEmpty || ["", ".", ".."].contains (baseName path) then
        Work.complain s!"refusing to remove '.' or '..' directory: skipping '{path}'"
        return false
      Work.setFiles (files.eraseAll way)
      return true
    else if options.has 'd' then changeFiles "remove" path FileTree.removeDirectory
    else refuse "remove" path .isADirectory
  | .ok (way, _) =>
    Work.setFiles (files.erase way)
    if options.has 'v' then Work.print s!"removed '{path}'\n"
    return true

def rm : Utility := withOptions rmOptions 1 fun options => do
  if options.operands.isEmpty && options.has 'f' then return 0
  forEach (removePath options) options.operands

def touch : Utility := withOptions { flags := "acmfh", valued := "rtd", long := [],
                                     mixed := true } 1 fun options => do
  if options.operands.isEmpty then return ← Work.fail 1 "missing file operand"
  forEach (fun path => do
    let files ← Work.files
    let base := (← read).directory
    match files.find base path with
    | .ok _ => return true
    | .error _ =>
      if options.has 'c' then return true
      match files.touch base path with
      | .ok files =>
        Work.setFiles files
        return true
      | .error cause => do
        Work.complain s!"cannot touch '{path}': {cause.plainMessage}"
        return false) options.operands

/-- A path that ends in a number instead of a row of `X`. -/
def numberedPath (template : String) (n : Nat) : String :=
  let kept := Text.dropTrailing (· == 'X') template.toList
  String.ofList (kept ++ Binary64.leftZeros (template.length - kept.length) (Nat.toDigits 10 n))

/-- Makes a file or directory with a name that nothing else has, and prints it. -/
def mktemp : Utility := withOptions { flags := "dqut", valued := "p", long := [("directory", 'd')],
                                      mixed := true } 1 fun options => do
  let place := (options.value? 'p').getD "/tmp"
  let template :=
    match options.operands with
    | [] => place ++ "/tmp.XXXXXXXXXX"
    | path :: _ => if options.has 't' || options.has 'p' then place ++ "/" ++ path else path
  if !template.endsWith "XXX" then
    return ← Work.fail 1 s!"too few X's in template '{template}'"
  let files ← Work.files
  let base := (← read).directory
  let free (path : String) : Bool := (files.find base path).toOption.isNone
  let candidates := (List.range (files.entries.length + 1)).map (numberedPath template)
  let path := (candidates.find? free).getD template
  let made ←
    if options.has 'd' then changeFiles "create directory via template" path FileTree.makeDirectory
    else changeFiles "create file via template" path FileTree.touch
  if made then Work.print (path ++ "\n")
  return Work.statusOf made

/-! ## Copying and moving -/

/-- Where something goes that is copied or moved to a path. -/
def targetOf (source target : String) : Work String := do
  match (← Work.files).find (← read).directory target with
  | .ok (_, .directory) => return dropSlashes target ++ "/" ++ baseName source
  | _ => return target

/-- Copies one file or directory. -/
def copyPath (deep : Bool) (source target : String) : Work Bool := do
  let files ← Work.files
  let base := (← read).directory
  match files.find base source with
  | .error cause => do
    Work.complain s!"cannot stat '{source}': {cause.plainMessage}"
    return false
  | .ok (from?, .directory) =>
    if !deep then
      Work.complain s!"-r not specified; omitting directory '{source}'"
      return false
    match files.locate base target with
    | .ok location =>
      match files.lookup? location.way with
      | some .directory | none =>
        Work.setFiles (files.copyAll from? location.way)
        return true
      | some _ => do
        Work.complain s!"cannot overwrite non-directory '{target}' with directory '{source}'"
        return false
    | .error cause => refuse "create directory" target cause
  | .ok (from?, entry) =>
    match files.destination base target with
    | .error cause => refuse "create regular file" target cause
    | .ok way =>
      if way = from? then
        Work.complain s!"'{source}' and '{target}' are the same file"
        return false
      let written := files.write way entry.content
      Work.setFiles (if (files.lookup? way).isNone then written.setExecutable way entry.isExecutable
        else written)
      return true

/-- Moves one file or directory. -/
def movePath (source target : String) : Work Bool := do
  let files ← Work.files
  let base := (← read).directory
  match files.find base source, files.locate base target with
  | .error cause, _ => do
    Work.complain s!"cannot stat '{source}': {cause.plainMessage}"
    return false
  | _, .error cause => do
    Work.complain s!"cannot move '{source}' to '{target}': {cause.plainMessage}"
    return false
  | .ok (way, _), .ok location =>
    if way = location.way then
      Work.complain s!"'{source}' and '{target}' are the same file"
      return false
    let copied := (files.eraseAll location.way).copyAll way location.way
    Work.setFiles (copied.eraseAll way)
    return true

def copyOptions : OptionTable :=
  { flags := "rRapfnvuTdiL", valued := "t", long := [("recursive", 'r'), ("archive", 'a'),
      ("force", 'f'), ("no-clobber", 'n'), ("verbose", 'v')], mixed := true }

/-- Copies or moves to a target, which is a directory if there are several sources. -/
def transfer (options : Options) (task : String → String → Work Bool) : Work Nat := do
  match options.operands.getLast?, options.operands.dropLast with
  | none, _ => Work.fail 1 "missing file operand"
  | some only, [] => Work.fail 1 s!"missing destination file operand after '{only}'"
  | some target, sources =>
    let isDirectory :=
      match (← Work.files).find (← read).directory target with
      | .ok (_, .directory) => true
      | _ => false
    if 1 < sources.length && !isDirectory then
      return ← Work.fail 1 s!"target '{target}': No such file or directory"
    forEach (fun source => do
      let path ← targetOf source target
      let there := ((← Work.files).find (← read).directory path).toOption.isSome
      if options.has 'n' && there then return true
      let worked ← task source path
      if worked && options.has 'v' then Work.print s!"'{source}' -> '{path}'\n"
      return worked) sources

def cp : Utility := withOptions copyOptions 1 fun options =>
  transfer options (copyPath ("rRa".toList.any options.has))

def mv : Utility := withOptions copyOptions 1 fun options => transfer options movePath

/-- Whether a mode says that files can be run, if it says anything about that. -/
def executableBy (mode : String) : Option Bool :=
  if mode.toList.all Char.isDigit then
    some (mode.toList.any fun c => (c.toNat - '0'.toNat) % 2 = 1)
  else
    (pieces ',' mode).foldl (fun said clause =>
      let letters := clause.toList.dropWhile "ugoa".toList.contains
      match letters with
      | '-' :: bits => if bits.any "xX".toList.contains then some false else said
      | '+' :: bits => if bits.contains 'x' then some true else said
      | '=' :: bits => some (bits.contains 'x')
      | _ => said) none

def chmod : Utility := fun args => do
  let args := args.filter fun arg => arg ∉ ["-R", "-v", "-f", "-c"]
  match args with
  | mode :: paths =>
    forEach (fun path => do
      let files ← Work.files
      match files.find (← read).directory path with
      | .ok (way, _) =>
        (executableBy mode).forM fun executable =>
          Work.setFiles (files.setExecutable way executable)
        return true
      | .error cause => refuse "access" path cause) paths
  | [] => Work.fail 1 "missing operand"

/-! ## Listing -/

def lsOptions : OptionTable :=
  { flags := "1aAdRrFptSlhUC", valued := "I", long := [("all", 'a'), ("almost-all", 'A'),
      ("directory", 'd'), ("recursive", 'R'), ("reverse", 'r')], mixed := true }

/-- A name as it is listed. -/
def listedName (options : Options) (files : FileTree) (way : Way) (name : String) : String :=
  match files.lookup? way with
  | some .directory => if options.has 'F' || options.has 'p' then name ++ "/" else name
  | some entry => if options.has 'F' && entry.isExecutable then name ++ "*" else name
  | none => name

/-- The names in a directory that are listed. -/
def listedNames (options : Options) (files : FileTree) (way : Way) : List String :=
  let names := files.names way
  let names :=
    if options.has 'a' then ["." , ".."] ++ names
    else if options.has 'A' then names
    else names.filter fun name => !name.startsWith "."
  let names := names.mergeSort fun a b => !decide (b < a)
  (if options.has 'r' then names.reverse else names).map fun name =>
    listedName options files (way ++ [name]) name

/-- Directories below a directory, with their paths. -/
def directoriesBelow (files : FileTree) (way : Way) (path : String) : List (String × Way) :=
  let inside := (files.below way).filter fun (rest, entry) =>
    entry == .directory && !rest.isEmpty && !rest.any fun name => name.startsWith "."
  let named := inside.map fun (rest, _) => (path ++ "/" ++ "/".intercalate rest, way ++ rest)
  named.mergeSort fun a b => !decide (b.1 < a.1)

def ls : Utility := withOptions lsOptions 2 fun options => do
  let operands := if options.operands.isEmpty then ["."] else options.operands
  let operands := operands.mergeSort fun a b => !decide (b < a)
  let files ← Work.files
  let base := (← read).directory
  let mut plain := #[]
  let mut directories := #[]
  let mut complete := true
  for path in if options.has 'r' then operands.reverse else operands do
    match files.find base path with
    | .error cause =>
      complete := (← refuse "access" path cause)
    | .ok (way, .directory) =>
      if options.has 'd' then plain := plain.push (listedName options files way path)
      else directories := directories.push (path, way)
    | .ok (way, _) => plain := plain.push (listedName options files way path)
  let listed := if options.has 'R' then
      directories.toList.flatMap fun (path, way) => (path, way) :: directoriesBelow files way path
    else directories.toList
  Work.print (joinLines plain.toList)
  let headed := 1 < operands.length || options.has 'R'
  for ((path, way), i) in listed.zipIdx do
    let lead := if i = 0 && plain.isEmpty then "" else "\n"
    if headed then Work.print (lead ++ path ++ ":\n")
    Work.print (joinLines (listedNames options files way))
  return if complete then 0 else 2

end RaidProvision.Utility

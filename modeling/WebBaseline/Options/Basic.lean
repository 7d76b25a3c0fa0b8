import WebBaseline.Feature
import WebBaseline.FileSystem
import WebBaseline.Glob
import WebBaseline.Path
import WebBaseline.Yaml.Stream

/-!
# Options of a scan

Which files are scanned, what is reported, and with how many workers.  Options are checked when
they are made, setting by setting in a fixed order, so that options which exist can be used.
-/

namespace WebBaseline

inductive KindFault where
  /-- a setting that there is not -/
  | unknownSetting (name : String)
  /-- patterns that are no sequence -/
  | notSequence (value : Datum)
  /-- a path that is no text -/
  | notPath (value : Datum)

inductive OptionsError where
  | patternNotText (option : String) (pattern : Datum)
  | patternBlank (option : String) (pattern : String)
  | noInclude
  | unknownLevel (value : Datum)
  | workersNotInteger (value : Datum)
  | workersTooFew (count : Int)
  | notRecord
  | patternsNotList (option : String)
  | unreadable (path : Path) (cause : OsError)
  | notYaml (path : Path)
  | rootMissing (path : Path)
  /-- a setting, or the value of one, is of a wrong kind -/
  | wrongKind (fault : KindFault)
  /-- the text of a file is not to be had -/
  | undecodable
  | nulInPath
  /-- a file holds an entry without a value -/
  | badEntry (fault : Yaml.Fault)

namespace OptionsError

/-- The message for a user; faults that no user is meant to cause have none. -/
def message? : OptionsError → Option String
  | patternNotText option pattern =>
      some ("Invalid " ++ option ++ " pattern: " ++ pattern.quoted ++ " is not a string")
  | patternBlank option pattern =>
      some ("Invalid " ++ option ++ " pattern: " ++ Glob.blankMessage (.text pattern))
  | noInclude => some "At least one include pattern is required"
  | unknownLevel value => some (Level.unknownMessage value)
  | workersNotInteger value => some ("workers must be an integer, got " ++ value.quoted)
  | workersTooFew count => some ("workers must be at least 1, got " ++ toString count)
  | notRecord => some "Configuration must be a mapping"
  | patternsNotList option => some ("'" ++ option ++ "' must be a list of glob patterns")
  | unreadable path cause =>
      some ("Cannot read config file " ++ path.toText ++ ": " ++ cause.message path.toText)
  | notYaml path => some ("Invalid YAML in config file " ++ path.toText)
  | rootMissing path => some ("Scan root does not exist: " ++ path.toText)
  | wrongKind _ => none
  | undecodable => none
  | nulInPath => none
  | badEntry _ => none

end OptionsError

structure Options where
  includePatterns : List String
  excludePatterns : List String
  level : Level
  verbose : Bool
  workers : Nat
  /-- another table than the bundled one -/
  features : Option Path
  /-- whether to stop, asked before each file: the answers in their order -/
  cancel : Option (Nat → Bool)

namespace Options

def defaultInclude : List String :=
  ["**/*.css", "**/*.js", "**/*.jsx", "**/*.ts", "**/*.tsx", "**/*.html", "**/*.htm"]

def defaultExclude : List String :=
  ["**/node_modules/**", "**/dist/**", "**/build/**", "**/out/**"]

def default : Options :=
  { includePatterns := defaultInclude
    excludePatterns := defaultExclude
    level := .limited
    verbose := false
    workers := 1
    features := none
    cancel := none }

/-! ### Settings -/

def checkPatterns (option : String) : List Datum → Except OptionsError (List String)
  | [] => .ok []
  | .text s :: rest =>
      if Text.isBlankText s then .error (.patternBlank option s)
      else
        match checkPatterns option rest with
        | .ok more => .ok (s :: more)
        | .error e => .error e
  | other :: _ => .error (.patternNotText option other)

/-- The patterns of a setting; a text is one pattern. -/
def patternsOf (option : String) (value : Datum) : Except OptionsError (List String) :=
  match value with
  | .text s => checkPatterns option [.text s]
  | _ =>
      match Glob.elements? value with
      | some patterns => checkPatterns option patterns
      | none => .error (.wrongKind (.notSequence value))

def includeOf (value : Datum) : Except OptionsError (List String) :=
  match patternsOf "include" value with
  | .ok [] => .error .noInclude
  | result => result

def levelOf (value : Datum) : Except OptionsError Level :=
  match Level.ofDatum? value with
  | some l => .ok l
  | none => .error (.unknownLevel value)

def workersOf (value : Datum) : Except OptionsError Nat :=
  match value with
  | .int n => if n < 1 then .error (.workersTooFew n) else .ok n.toNat
  | _ => .error (.workersNotInteger value)

def featuresOf (value : Datum) : Except OptionsError (Option Path) :=
  match value with
  | .null => .ok none
  | .text s => .ok (some (Path.ofText s))
  | _ => .error (.wrongKind (.notPath value))

abbrev Settings : Type := List (String × Datum)

def settingNames : List String :=
  ["include_patterns", "exclude_patterns", "baseline_level", "verbose", "workers", "features_path"]

/-- A setting read by its rule, or the value it had before. -/
def settingOr {α : Type} (settings : Settings) (name : String) (before : α)
    (rule : Datum → Except OptionsError α) : Except OptionsError α :=
  match settings.lookup name with
  | some value => rule value
  | none => .ok before

def unknownName? (settings : Settings) : Option String :=
  (settings.map Prod.fst).find? fun name ↦ !settingNames.contains name

/-- Options with some settings changed.  Of the value for `verbose` only the truth is kept, which is
all that a scan asks of it. -/
def change (o : Options) (settings : Settings) : Except OptionsError Options :=
  match unknownName? settings with
  | some name => .error (.wrongKind (.unknownSetting name))
  | none => do
    let includePatterns ← settingOr settings "include_patterns" o.includePatterns includeOf
    let excludePatterns ← settingOr settings "exclude_patterns" o.excludePatterns
      (patternsOf "exclude")
    let level ← settingOr settings "baseline_level" o.level levelOf
    let workers ← settingOr settings "workers" o.workers workersOf
    let features ← settingOr settings "features_path" o.features featuresOf
    let verbose := match settings.lookup "verbose" with
      | some value => value.truthy
      | none => o.verbose
    return { o with includePatterns, excludePatterns, level, verbose, workers, features }

/-- Options made of settings, the others having their defaults. -/
def ofSettings (settings : Settings) : Except OptionsError Options :=
  default.change settings

def given (settings : Settings) : Settings :=
  settings.filter fun s ↦ match s.2 with
    | .null => false
    | _ => true

/-- Options with the settings that are given changed; without any they stay the same. -/
def override (o : Options) (settings : Settings) : Except OptionsError Options :=
  if (given settings).isEmpty then .ok o else o.change (given settings)

/-! ### Selection of files -/

def selects (o : Options) (relative : String) : Bool :=
  o.includePatterns.any (fun p ↦ Glob.accepts p relative) &&
    !o.excludePatterns.any fun p ↦ Glob.accepts p relative

def prunes (o : Options) (relative : String) : Bool :=
  o.excludePatterns.any fun p ↦ Glob.coversFolder p && Glob.accepts p (relative ++ "/")

end Options

/-! ### Overrides -/

/-- What options are overridden with.  Null settings and missing answers are not given. -/
structure Overrides where
  settings : Options.Settings := []
  cancel : Option (Nat → Bool) := none

namespace Options

def overrideWith (o : Options) (c : Overrides) : Except OptionsError Options :=
  if (given c.settings).isEmpty && c.cancel.isNone then .ok o
  else ({ o with cancel := c.cancel.or o.cancel } : Options).change (given c.settings)

/-- The entries of two maps, the second one winning where both have a name. -/
def union (a b : Settings) : Settings :=
  (a.map fun s ↦ (s.1, (b.lookup s.1).getD s.2)) ++
    b.filter fun s ↦ !(a.map Prod.fst).contains s.1

end Options

def Overrides.union (a b : Overrides) : Overrides where
  settings := Options.union (Options.given a.settings) (Options.given b.settings)
  cancel := b.cancel.or a.cancel

end WebBaseline

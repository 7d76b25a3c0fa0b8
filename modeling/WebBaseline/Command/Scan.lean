import WebBaseline.Command.Ending
import WebBaseline.Datum.Json
import WebBaseline.Options.Reading

/-!
# The command that scans

Options come from a configuration file, given or found in the folder that is scanned, and switches
win over it.  The exit code is zero when files were scanned and nothing was found, one when
something was found, and two when no file was scanned.
-/

namespace WebBaseline.Command.Scan

def usage : Usage :=
  { path := "baselinelint scan"
    operands := "[OPTIONS] PATH"
    switches :=
      [{ name := "--format", rule := some (.oneOf ["text", "json"]) },
       { name := "--baseline-level", rule := some (.oneOf ["limited", "newly", "widely"]) },
       { name := "--include", rule := some .anything },
       { name := "--exclude", rule := some .anything },
       { name := "--workers", rule := some .integer },
       { name := "--config", rule := some (.existing false) },
       { name := "--features", rule := some (.existing false) },
       { name := "--verbose", letter := some 'v' },
       { name := "--sort" },
       helpSwitch] }

structure Request where
  target : Path
  json : Bool
  sort : Bool
  verbose : Bool
  config : Option Path
  /-- settings that win over a configuration, those that are not given being null -/
  settings : Options.Settings

/-- Patterns as a setting, which is not given without any. -/
def patternsSetting : List String → Datum
  | [] => .null
  | patterns => .list (patterns.map .text)

def textSetting : Option String → Datum
  | some s => .text s
  | none => .null

def integerSetting (value : Option String) : Datum :=
  match value.bind Text.integer? with
  | some n => .int n
  | none => .null

def settingsOf (line : Line) : Options.Settings :=
  [("include_patterns", patternsSetting (line.values "--include")),
   ("exclude_patterns", patternsSetting (line.values "--exclude")),
   ("baseline_level", textSetting (line.value? "--baseline-level")),
   ("workers", integerSetting (line.value? "--workers")),
   ("features_path", textSetting (line.value? "--features")),
   ("verbose", if line.has "--verbose" then .bool true else .null)]

def requestOf (files : FileSystem) (line : Line) : Except Ending Request :=
  match line.operands with
  | [] => .error (.misused usage (.operandMissing "PATH"))
  | target :: more =>
      match (Rule.existing true).check files target with
      | .error (.reason reason) => .error (.misused usage (.badValue "PATH" reason))
      | .error .nulInPath => .error (.failed (.options .nulInPath))
      | .ok () =>
          if !more.isEmpty then .error (.misused usage (.operandsLeft more))
          else
            .ok
              { target := Path.ofText target
                json := line.value? "--format" = some "json"
                sort := line.has "--sort"
                verbose := line.has "--verbose"
                config := (line.value? "--config").map Path.ofText
                settings := settingsOf line }

/-- The options of a scan: those of the configuration with the settings of the request. -/
def optionsFor (files : Store) (r : Request) :
    Except OptionsError Options × List LogRecord :=
  let config := match r.config with
    | some path => some path
    | none => if files.isFolder r.target then Options.find files r.target else none
  match config with
  | none => (Options.default.override r.settings, [])
  | some path =>
      match Options.load files path with
      | (.error e, notes) => (.error e, notes)
      | (.ok options, notes) => (options.override r.settings, notes)

def endingOf (console : Display.Console) (r : Request) (result : ScanResult) : Ending :=
  let result := if r.sort then result.sorted else result
  let json := result.toDatum.toJson ++ "\n"
  if result.scanned = 0 then
    .finished 2 (if r.json then json else "No files scanned in the target path.\n")
  else
    let code := if result.hasIssues then 1 else 0
    if r.json then .finished code json
    else
      match Display.resultPage console result with
      | .ok page => .finished code page
      | .error fault => .garbled fault

/-- Whether a note is shown: warnings always are, the others when asked for. -/
def isShown (verbose : Bool) (note : LogRecord) : Bool :=
  verbose || note.level = .warning

def perform (host : Host) (r : Request) : Run :=
  let shownOf (notes : List LogRecord) : List LogRecord := notes.filter (isShown r.verbose)
  match optionsFor host.files r with
  | (.error e, notes) => { ending := .failed (.options e), notes := shownOf notes }
  | (.ok options, notes) =>
      match WebBaseline.Scan.scan host.files none Analyzer.all options r.target with
      | .error e => { ending := .failed e, notes := shownOf notes }
      | .ok (result, more) =>
          { ending := endingOf host.console r result, notes := shownOf (notes ++ more) }

def run (host : Host) (words : List String) : Run :=
  match host.readLine usage words with
  | .error ending => { ending }
  | .ok line =>
      match requestOf host.files line with
      | .error ending => { ending }
      | .ok request => perform host request

end WebBaseline.Command.Scan

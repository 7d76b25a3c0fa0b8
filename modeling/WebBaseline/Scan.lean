import WebBaseline.Analyzer
import WebBaseline.Options.Basic
import WebBaseline.Result
import WebBaseline.Search
import WebBaseline.Table.Bundled
import WebBaseline.Table.Reading

/-!
# Scans

The files below a root are listed, sorted by their paths from the root, and analyzed one by one.  A
file that cannot be read is noted and not counted; a file whose analysis fails is counted and has
no issues.  Only a path that no file can have stops a scan.
-/

namespace WebBaseline.Scan

/-! ### Listing files -/

def searchFor (files : FileSystem) (o : Options) (root : Path) : Search :=
  { files, root, prunes := o.prunes, selects := o.selects }

/-- The selected files below a folder, sorted by their paths from it. -/
def listFiles (files : FileSystem) (o : Options) (root : Path) : List Path :=
  (searchFor files o root).run

/-! ### Analyzing files -/

/-- What came of one file: the issues of a file that was scanned, and notes. -/
structure Outcome where
  issues : Option (List Issue)
  notes : List LogRecord

def warning (message : String) : LogRecord :=
  { level := .warning, origin := .scan, message }

inductive ScanError where
  | options (e : OptionsError)
  | table (e : TableFileError)
  | nulInPath

def scanFile (files : FileSystem) (analyzers : List Analyzer) (table : Table) (o : Options)
    (path : Path) : Except ScanError Outcome :=
  match Analyzer.forPath analyzers path with
  | none => .ok { issues := none, notes := [] }
  | some analyzer =>
      match files.readText path with
      | .error .nulInPath => .error .nulInPath
      | .error _ => .ok { issues := none, notes := [warning ("Failed to read: " ++ path.toText)] }
      | .ok content =>
          let note : List LogRecord :=
            if o.verbose then
              [{ level := .debug
                 origin := .scan
                 message := "Analyzing " ++ path.toText ++ " with " ++ analyzer.describe }]
            else []
          match analyzer.analyze content path.toText table o.level with
          | some (issues, notes) => .ok { issues := some issues, notes := note ++ notes }
          | none =>
              .ok
                { issues := some []
                  notes := note ++ [warning ("Failed to analyze: " ++ path.toText)] }

/-- Whether a scan is to stop, by the number of times it has asked. -/
def cancelled (o : Options) (polls : Nat) : Bool :=
  match o.cancel with
  | some answers => answers polls
  | none => false

/-- Analyzes files in their order until the scan is to stop. -/
def outcomesFrom (files : FileSystem) (analyzers : List Analyzer) (table : Table) (o : Options) :
    Nat → List Path → Except ScanError (List Outcome × List LogRecord)
  | _, [] => .ok ([], [])
  | polls, path :: rest =>
      if cancelled o polls then
        let skipped := toString (rest.length + 1)
        .ok ([], [{ level := .info
                    origin := .scan
                    message := "Scan cancelled, " ++ skipped ++ " file(s) skipped" }])
      else do
        let outcome ← scanFile files analyzers table o path
        let (more, notes) ← outcomesFrom files analyzers table o (polls + 1) rest
        return (outcome :: more, notes)

def resultOf (outcomes : List Outcome) : ScanResult :=
  { issues := (outcomes.filterMap (·.issues)).flatten
    scanned := (outcomes.filterMap (·.issues)).length }

/-- The table of a scan: a given one, the one that the options name, or the bundled one. -/
def tableFor (files : Store) (given : Option Table) (o : Options) :
    Except TableFileError (Table × List LogRecord) :=
  match given with
  | some t => .ok (t, [])
  | none =>
      match o.features with
      | some path => (Table.load files path).map fun (t, note) ↦ (t, [note])
      | none => .ok (Table.bundled, [])

def scanFiles (files : Store) (given : Option Table) (analyzers : List Analyzer) (o : Options)
    (paths : List Path) : Except ScanError (ScanResult × List LogRecord) :=
  match tableFor files given o with
  | .error e => .error (.table e)
  | .ok (table, loaded) => do
      let (outcomes, stopped) ← outcomesFrom files analyzers table o 0 paths
      let result := resultOf outcomes
      let note : LogRecord :=
        { level := .info
          origin := .scan
          message := "Scanned " ++ toString result.scanned ++ " file(s), found " ++
            toString result.issues.length ++ " issue(s)" }
      return (result, loaded ++ outcomes.flatMap (·.notes) ++ stopped ++ [note])

/-- Scans a folder, or a single file whatever the patterns say. -/
def scan (files : Store) (given : Option Table) (analyzers : List Analyzer) (o : Options)
    (root : Path) : Except ScanError (ScanResult × List LogRecord) :=
  if files.isFile root then scanFiles files given analyzers o [root]
  else if files.isFolder root then
    scanFiles files given analyzers o (listFiles files o root)
  else .error (.options (.rootMissing root))

/-- Analyzes a text as if it were the content of a file; a file that no analyzer handles has no
issues. -/
def analyzeText (files : Store) (given : Option Table) (analyzers : List Analyzer) (o : Options)
    (file content : String) : Except ScanError (Option (List Issue × List LogRecord)) :=
  match Analyzer.forPath analyzers (Path.ofText file) with
  | none => .ok (some ([], []))
  | some analyzer =>
      match tableFor files given o with
      | .error e => .error (.table e)
      | .ok (table, loaded) =>
          .ok ((analyzer.analyze content file table o.level).map fun (issues, notes) ↦
            (issues, loaded ++ notes))

end WebBaseline.Scan

import WebBaseline.Scan

/-!
# Scans under watch

A scan asks before each file whether it is to stop.  Under watch, each question takes the next one
of the answers that were prepared, and everything that is done about the files is put down in its
order, also where the scan fails.
-/

namespace WebBaseline.Scan

inductive Event where
  | asked (stop : Bool)
  | visited (path : Path)
  deriving DecidableEq

/-- How often a scan has asked whether it is to stop, and what was done so far. -/
structure Watch where
  polls : Nat := 0
  events : List Event := []
  deriving DecidableEq

/-- What goes on under watch; a fault does not undo what was done. -/
abbrev Watched : Type → Type := ExceptT ScanError (StateM Watch)

namespace Watched

/-- What comes of it, and what is put down then, after what was put down before. -/
def after {α : Type} (x : Watched α) (w : Watch) : Except ScanError α × Watch :=
  x.run.run w

/-- Asks whether to stop, provided that there is someone to ask. -/
def ask (o : Options) : Watched Bool :=
  match o.cancel with
  | none => return false
  | some answers => do
      let w ← get
      let stop := answers w.polls
      set { w with polls := w.polls + 1, events := w.events ++ [Event.asked stop] }
      return stop

def visit (files : FileSystem) (analyzers : List Analyzer) (table : Table) (o : Options)
    (path : Path) : Watched Outcome := do
  modify fun w ↦ { w with events := w.events ++ [Event.visited path] }
  match scanFile files analyzers table o path with
  | .ok outcome => return outcome
  | .error e => throw e

end Watched

def skippedNote (files : Nat) : LogRecord :=
  { level := .info
    origin := .scan
    message := "Scan cancelled, " ++ toString files ++ " file(s) skipped" }

def endNote (r : ScanResult) : LogRecord :=
  { level := .info
    origin := .scan
    message := "Scanned " ++ toString r.scanned ++ " file(s), found " ++
      toString r.issues.length ++ " issue(s)" }

def watchedOutcomes (files : FileSystem) (analyzers : List Analyzer) (table : Table) (o : Options) :
    List Path → Watched (List Outcome × List LogRecord)
  | [] => return ([], [])
  | path :: rest => do
      if ← Watched.ask o then return ([], [skippedNote (rest.length + 1)])
      else
        let outcome ← Watched.visit files analyzers table o path
        let (more, notes) ← watchedOutcomes files analyzers table o rest
        return (outcome :: more, notes)

def watchedFiles (files : Store) (given : Option Table) (analyzers : List Analyzer)
    (o : Options) (paths : List Path) : Watched (ScanResult × List LogRecord) :=
  match tableFor files given o with
  | .error e => throw (.table e)
  | .ok (table, loaded) => do
      let (outcomes, stopped) ← watchedOutcomes files analyzers table o paths
      let result := resultOf outcomes
      return (result, loaded ++ outcomes.flatMap (·.notes) ++ stopped ++ [endNote result])

end WebBaseline.Scan

import WebBaseline.Scan

/-!
# Scans with several workers

With more than one worker and more than one file, the files are shared.  One thread hands all of
them out and then goes through them in their order: it asks whether the scan is to stop, waits for
the outcome of the next file and collects it.  Meanwhile every idle worker takes a file that waits,
asks whether the scan is to stop, and analyzes the file.  A state holds what all threads can see,
and the steps of the threads come in any order.
-/

namespace WebBaseline.Scan

structure Pool where
  files : FileSystem
  analyzers : List Analyzer
  table : Table
  options : Options
  paths : List Path

namespace Pool

inductive Task (workers : Nat) where
  | waiting
  | running (worker : Fin workers)
  | done (outcome : Except ScanError Outcome)
  /-- called off before a worker took it -/
  | dropped

/-- What the collecting thread is about to do. -/
inductive Phase where
  | submitting
  | asking
  | awaiting
  | finished
  | failed (e : ScanError)

structure State (workers : Nat) where
  /-- the files that were handed out, in their order -/
  tasks : List (Task workers) := []
  collected : List Outcome := []
  phase : Phase := .submitting
  /-- how often it was asked whether to stop -/
  polls : Nat := 0

def Task.isSettled {workers : Nat} : Task workers → Bool
  | waiting => false
  | running _ => false
  | done _ => true
  | dropped => true

def Task.drop {workers : Nat} : Task workers → Task workers
  | waiting => dropped
  | t => t

/-- How the scan ends, once the collecting thread is through and the workers are. -/
def State.ending? {workers : Nat} (s : State workers) :
    Option (Except ScanError (List Outcome)) :=
  if s.tasks.all Task.isSettled then
    match s.phase with
    | .finished => some (.ok s.collected)
    | .failed e => some (.error e)
    | _ => none
  else none

inductive Step (p : Pool) : State p.options.workers → State p.options.workers → Prop where
  | submit {s : State p.options.workers} (phase : s.phase = .submitting)
      (left : s.tasks.length < p.paths.length) :
      Step p s { s with tasks := s.tasks ++ [.waiting] }
  | submitted {s : State p.options.workers} (phase : s.phase = .submitting)
      (all : s.tasks.length = p.paths.length) :
      Step p s { s with phase := .asking }
  /-- a worker that does nothing else takes any file that waits -/
  | take {s : State p.options.workers} {i : Nat} {worker : Fin p.options.workers}
      (task : s.tasks[i]? = some .waiting) (idle : .running worker ∉ s.tasks) :
      Step p s { s with tasks := s.tasks.set i (.running worker) }
  | analyze {s : State p.options.workers} {i : Nat} {worker : Fin p.options.workers} {path : Path}
      (task : s.tasks[i]? = some (.running worker)) (given : p.paths[i]? = some path)
      (poll : cancelled p.options s.polls = false) :
      Step p s
        { s with
          tasks := s.tasks.set i (.done (scanFile p.files p.analyzers p.table p.options path))
          polls := s.polls + 1 }
  | skip {s : State p.options.workers} {i : Nat} {worker : Fin p.options.workers}
      (task : s.tasks[i]? = some (.running worker)) (poll : cancelled p.options s.polls = true) :
      Step p s
        { s with
          tasks := s.tasks.set i (.done (.ok { issues := none, notes := [] }))
          polls := s.polls + 1 }
  | proceed {s : State p.options.workers} (phase : s.phase = .asking)
      (left : s.collected.length < p.paths.length) (poll : cancelled p.options s.polls = false) :
      Step p s { s with phase := .awaiting, polls := s.polls + 1 }
  /-- the files that are not collected and that no worker has taken are called off -/
  | stop {s : State p.options.workers} (phase : s.phase = .asking)
      (left : s.collected.length < p.paths.length) (poll : cancelled p.options s.polls = true) :
      Step p s
        { s with
          tasks := s.tasks.take s.collected.length ++
            (s.tasks.drop s.collected.length).map Task.drop
          phase := .finished
          polls := s.polls + 1 }
  | collect {s : State p.options.workers} {outcome : Outcome} (phase : s.phase = .awaiting)
      (task : s.tasks[s.collected.length]? = some (.done (.ok outcome))) :
      Step p s { s with collected := s.collected ++ [outcome], phase := .asking }
  | fail {s : State p.options.workers} {e : ScanError} (phase : s.phase = .awaiting)
      (task : s.tasks[s.collected.length]? = some (.done (.error e))) :
      Step p s { s with phase := .failed e }
  | conclude {s : State p.options.workers} (phase : s.phase = .asking)
      (all : s.collected.length = p.paths.length) :
      Step p s { s with phase := .finished }

inductive Reachable (p : Pool) : State p.options.workers → Prop where
  | start : Reachable p {}
  | step {s s' : State p.options.workers} (before : Reachable p s) (step : Step p s s') :
      Reachable p s'

end Pool

/-- What a scan of a list of files can end with.  A pool is made when there are several workers and
several files. -/
inductive Ends (files : Store) (given : Option Table) (analyzers : List Analyzer) (o : Options)
    (paths : List Path) : Except ScanError ScanResult → Prop where
  | noTable {e : TableFileError} (loads : tableFor files given o = .error e) :
      Ends files given analyzers o paths (.error (.table e))
  | alone {table : Table} {loaded : List LogRecord}
      (loads : tableFor files given o = .ok (table, loaded))
      (few : o.workers ≤ 1 ∨ paths.length ≤ 1) :
      Ends files given analyzers o paths
        ((outcomesFrom files analyzers table o 0 paths).map fun found ↦ resultOf found.1)
  | shared {table : Table} {loaded : List LogRecord} {s : Pool.State o.workers}
      {ending : Except ScanError (List Outcome)}
      (loads : tableFor files given o = .ok (table, loaded)) (workers : 1 < o.workers)
      (several : 1 < paths.length)
      (reachable : Pool.Reachable { files, analyzers, table, options := o, paths } s)
      (ended : s.ending? = some ending) :
      Ends files given analyzers o paths (ending.map resultOf)

/-- What a scan of a folder, or of a single file, can end with. -/
inductive EndsAt (files : Store) (given : Option Table) (analyzers : List Analyzer)
    (o : Options) (root : Path) : Except ScanError ScanResult → Prop where
  | file {r : Except ScanError ScanResult} (isFile : files.isFile root = true)
      (ends : Ends files given analyzers o [root] r) : EndsAt files given analyzers o root r
  | folder {r : Except ScanError ScanResult} (isFolder : files.isFolder root = true)
      (ends : Ends files given analyzers o (listFiles files o root) r) :
      EndsAt files given analyzers o root r
  | missing (notFile : files.isFile root = false) (notFolder : files.isFolder root = false) :
      EndsAt files given analyzers o root (.error (.options (.rootMissing root)))

end WebBaseline.Scan

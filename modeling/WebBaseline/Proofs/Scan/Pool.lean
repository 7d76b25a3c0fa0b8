import Mathlib.Algebra.GroupWithZero.Nat
import Mathlib.Data.Nat.Basic
import WebBaseline.Proofs.Scan.Isolation
import WebBaseline.Scan.Pool

/-!
# Sharing files among workers does not show

Whatever the order in which workers take files and finish them, the collecting thread takes the
outcomes in the order of the files.  At every moment the outcomes that it has, followed by a scan of
the files whose outcomes are still to come, make up the scan without a pool.  Every step leaves less
to do, and until the scan has ended some thread can take a step: so every schedule comes to an end,
and the end is that of the scan without a pool.
-/

namespace WebBaseline.Scan

namespace Pool

variable {p : Pool}

/-! ### The scan without a pool -/

/-- What a scan of the files that are left gives after the outcomes in hand. -/
def sequential (p : Pool) (collected : List Outcome) (rest : List Path) :
    Except ScanError (List Outcome) :=
  (outcomesFrom p.files p.analyzers p.table p.options 0 rest).map fun found ↦ collected ++ found.1

section Sequential

variable (hcancel : p.options.cancel = none)

include hcancel

theorem not_cancelled (polls : Nat) : cancelled p.options polls = false := by
  simp [cancelled, hcancel]

/-- If nobody stops the scan, it does not matter how often it has asked. -/
theorem outcomesFrom_polls (polls : Nat) (paths : List Path) :
    outcomesFrom p.files p.analyzers p.table p.options polls paths =
      outcomesFrom p.files p.analyzers p.table p.options 0 paths := by
  induction paths generalizing polls with
  | nil => rfl
  | cons path rest ih =>
      simp only [outcomesFrom, not_cancelled hcancel, Bool.false_eq_true, if_false]
      rw [ih (polls + 1), ih (0 + 1)]

theorem sequential_cons_ok (collected : List Outcome) {path : Path} (rest : List Path)
    {outcome : Outcome}
    (h : scanFile p.files p.analyzers p.table p.options path = .ok outcome) :
    p.sequential collected (path :: rest) = p.sequential (collected ++ [outcome]) rest := by
  simp only [sequential, outcomesFrom, not_cancelled hcancel, Bool.false_eq_true, if_false]
  rw [h, outcomesFrom_polls hcancel (0 + 1)]
  cases outcomesFrom p.files p.analyzers p.table p.options 0 rest with
  | error e => rfl
  | ok found => simp [bind, Except.bind, Except.map, pure, Except.pure]

theorem sequential_cons_error (collected : List Outcome) {path : Path} (rest : List Path)
    {e : ScanError} (h : scanFile p.files p.analyzers p.table p.options path = .error e) :
    p.sequential collected (path :: rest) = .error e := by
  simp only [sequential, outcomesFrom, not_cancelled hcancel, Bool.false_eq_true, if_false]
  rw [h]
  rfl

end Sequential

theorem sequential_nil (collected : List Outcome) : p.sequential collected [] = .ok collected := by
  simp [sequential, outcomesFrom, Except.map]

/-! ### What every schedule keeps -/

/-- What holds at every moment of a scan that nobody stops. -/
structure Sound (p : Pool) (s : State p.options.workers) : Prop where
  tasks_le : s.tasks.length ≤ p.paths.length
  collected_le : s.collected.length ≤ p.paths.length
  done : ∀ (i : Nat) (path : Path) (outcome : Except ScanError Outcome),
    p.paths[i]? = some path → s.tasks[i]? = some (.done outcome) →
      outcome = scanFile p.files p.analyzers p.table p.options path
  kept : .dropped ∉ s.tasks
  remaining : p.sequential s.collected (p.paths.drop s.collected.length) = p.sequential [] p.paths
  submitted : s.phase ≠ .submitting → s.tasks.length = p.paths.length
  awaiting : s.phase = .awaiting → s.collected.length < p.paths.length
  finished : s.phase = .finished → s.collected.length = p.paths.length
  failed : ∀ e, s.phase = .failed e → p.sequential [] p.paths = .error e

theorem sound_start : Sound p {} where
  tasks_le := Nat.zero_le _
  collected_le := Nat.zero_le _
  done := by simp
  kept := by simp
  remaining := rfl
  submitted := by simp
  awaiting := by simp
  finished := by simp
  failed := by simp

/-- Changing one task keeps the state sound if the new one is the outcome of its file, or none. -/
theorem Sound.set {s : State p.options.workers} (h : Sound p s) {i : Nat}
    {t : Task p.options.workers} (ht : t ≠ .dropped)
    (hdone : ∀ path outcome, p.paths[i]? = some path → t = .done outcome →
      outcome = scanFile p.files p.analyzers p.table p.options path) (polls : Nat) :
    Sound p { s with tasks := s.tasks.set i t, polls } where
  tasks_le := by simpa using h.tasks_le
  collected_le := h.collected_le
  done := by
    intro j path outcome hpath htask
    rw [List.getElem?_set] at htask
    split at htask
    · rename_i hij
      split at htask
      · exact hdone path outcome (hij ▸ hpath) (Option.some.inj htask)
      · simp at htask
    · exact h.done j path outcome hpath htask
  kept := by
    intro hmem
    rcases List.mem_or_eq_of_mem_set hmem with hmem | heq
    · exact h.kept hmem
    · exact ht heq.symm
  remaining := h.remaining
  submitted := by simpa using h.submitted
  awaiting := h.awaiting
  finished := h.finished
  failed := h.failed

section Steps

variable (hcancel : p.options.cancel = none) {s s' : State p.options.workers}

include hcancel

theorem sound_step (h : Sound p s) (hstep : Step p s s') : Sound p s' := by
  cases hstep with
  | submit hphase hleft =>
      refine { h with
        tasks_le := ?_, done := ?_, kept := ?_, submitted := fun hne ↦ absurd hphase hne }
      · rw [List.length_append]
        exact hleft
      · intro i path outcome hpath htask
        rw [List.getElem?_append] at htask
        split at htask
        · exact h.done i path outcome hpath htask
        · simp [List.getElem?_singleton] at htask
      · simpa using h.kept
  | submitted hphase hall =>
      exact { h with
        submitted := fun _ ↦ hall, awaiting := by simp, finished := by simp, failed := by simp }
  | take htask hidle => exact h.set (by simp) (by simp) s.polls
  | analyze htask hpath hpoll =>
      refine h.set (by simp) ?_ (s.polls + 1)
      intro path outcome hpath' hdone
      rw [hpath] at hpath'
      cases hpath'
      cases hdone
      rfl
  | skip htask hpoll => simp [not_cancelled hcancel] at hpoll
  | stop hphase hleft hpoll => simp [not_cancelled hcancel] at hpoll
  | proceed hphase hleft hpoll =>
      exact { h with
        submitted := fun _ ↦ h.submitted (by simp [hphase])
        awaiting := fun _ ↦ hleft, finished := by simp, failed := by simp }
  | collect hphase htask =>
      have hlt := h.awaiting hphase
      have hpath := List.getElem?_eq_getElem hlt
      have houtcome := h.done _ _ _ hpath htask
      refine { h with
        collected_le := ?_, remaining := ?_
        submitted := fun _ ↦ h.submitted (by simp [hphase])
        awaiting := by simp, finished := by simp, failed := by simp }
      · rw [List.length_append]
        exact hlt
      · rw [← h.remaining, List.drop_eq_getElem_cons hlt,
          sequential_cons_ok hcancel _ _ houtcome.symm, List.length_append]
        rfl
  | fail hphase htask =>
      have hlt := h.awaiting hphase
      have hpath := List.getElem?_eq_getElem hlt
      have houtcome := h.done _ _ _ hpath htask
      refine { h with
        submitted := fun _ ↦ h.submitted (by simp [hphase])
        awaiting := by simp, finished := by simp, failed := ?_ }
      rintro e' heq
      cases heq
      rw [← h.remaining, List.drop_eq_getElem_cons hlt]
      exact sequential_cons_error hcancel _ _ houtcome.symm
  | conclude hphase hall =>
      exact { h with
        submitted := fun _ ↦ h.submitted (by simp [hphase])
        awaiting := by simp, finished := fun _ ↦ hall, failed := by simp }

theorem sound_of_reachable (h : Reachable p s) : Sound p s := by
  induction h with
  | start => exact sound_start
  | step _ hstep ih => exact sound_step hcancel ih hstep

end Steps

/-- Where a scan has ended, it has ended as the scan without a pool does. -/
theorem Sound.ending_eq {s : State p.options.workers} (h : Sound p s)
    {ending : Except ScanError (List Outcome)} (hending : s.ending? = some ending) :
    ending = p.sequential [] p.paths := by
  unfold State.ending? at hending
  split at hending
  · split at hending
    · rename_i hphase
      cases hending
      have hremaining := h.remaining
      rw [h.finished hphase, List.drop_length, sequential_nil] at hremaining
      exact hremaining
    · rename_i e hphase
      cases hending
      exact (h.failed e hphase).symm
    · simp at hending
  · simp at hending

/-! ### Every schedule comes to an end -/

/-- How many steps of a worker a file still needs. -/
def Task.left {workers : Nat} : Task workers → Nat
  | waiting => 2
  | running _ => 1
  | done _ => 0
  | dropped => 0

/-- How many steps the collecting thread is away from its end, outcomes that are to be collected
and files that are to be handed out apart. -/
def Phase.left : Phase → Nat
  | submitting => 3
  | asking => 2
  | awaiting => 1
  | finished => 0
  | failed _ => 0

/-- How many steps are left at most. -/
def left (p : Pool) (s : State p.options.workers) : Nat :=
  3 * (p.paths.length - s.tasks.length) + (s.tasks.map Task.left).sum +
    2 * (p.paths.length - s.collected.length) + s.phase.left

theorem sum_left_set {workers : Nat} {tasks : List (Task workers)} {i : Nat} {t : Task workers}
    (h : tasks[i]? = some t) (t' : Task workers) :
    ((tasks.set i t').map Task.left).sum + t.left = (tasks.map Task.left).sum + t'.left := by
  induction tasks generalizing i with
  | nil => simp at h
  | cons u rest ih =>
      cases i with
      | zero =>
          cases h
          simp only [List.set_cons_zero, List.map_cons, List.sum_cons]
          omega
      | succ i =>
          have hrest := ih (i := i) (by simpa using h)
          simp only [List.set_cons_succ, List.map_cons, List.sum_cons]
          omega

section Progress

variable (hcancel : p.options.cancel = none) {s s' : State p.options.workers}

include hcancel

theorem left_lt_of_step (h : Sound p s) (hstep : Step p s s') : p.left s' < p.left s := by
  cases hstep with
  | submit hphase hleft =>
      simp only [left, List.length_append, List.length_singleton, List.map_append, List.map_cons,
        List.map_nil, List.sum_append, List.sum_cons, List.sum_nil, Task.left]
      omega
  | submitted hphase hall =>
      simp only [left, hphase, Phase.left]
      omega
  | @take i worker htask hidle =>
      have hsum := sum_left_set htask (.running worker)
      simp only [left, List.length_set, Task.left] at hsum ⊢
      omega
  | @analyze i worker path htask hpath hpoll =>
      have hsum := sum_left_set htask
        (.done (scanFile p.files p.analyzers p.table p.options path))
      simp only [left, List.length_set, Task.left] at hsum ⊢
      omega
  | skip htask hpoll => simp [not_cancelled hcancel] at hpoll
  | stop hphase hleft hpoll => simp [not_cancelled hcancel] at hpoll
  | proceed hphase hleft hpoll =>
      simp only [left, hphase, Phase.left]
      omega
  | collect hphase htask =>
      have hlt := h.awaiting hphase
      simp only [left, hphase, Phase.left, List.length_append, List.length_singleton]
      omega
  | fail hphase htask =>
      simp only [left, hphase, Phase.left]
      omega
  | conclude hphase hall =>
      simp only [left, hphase, Phase.left]
      omega

/-- A worker that has a file can finish it. -/
theorem exists_step_of_running (h : Sound p s) {worker : Fin p.options.workers}
    (hrunning : .running worker ∈ s.tasks) : ∃ s', Step p s s' := by
  obtain ⟨i, hi, htask⟩ := List.mem_iff_getElem.mp hrunning
  have hpath := List.getElem?_eq_getElem (Nat.lt_of_lt_of_le hi h.tasks_le)
  have htask' : s.tasks[i]? = some (.running worker) := by rw [List.getElem?_eq_getElem hi, htask]
  exact ⟨_, .analyze htask' hpath (not_cancelled hcancel s.polls)⟩

/-- The collecting thread can go on when it does not have to wait for a worker. -/
theorem exists_step_of_settled (h : Sound p s) (hsettled : s.tasks.all Task.isSettled = true)
    (hending : s.ending? = none) : ∃ s', Step p s s' := by
  cases hphase : s.phase with
  | submitting =>
      rcases Nat.lt_or_eq_of_le h.tasks_le with hlt | heq
      · exact ⟨_, .submit hphase hlt⟩
      · exact ⟨_, .submitted hphase heq⟩
  | asking =>
      rcases Nat.lt_or_eq_of_le h.collected_le with hlt | heq
      · exact ⟨_, .proceed hphase hlt (not_cancelled hcancel s.polls)⟩
      · exact ⟨_, .conclude hphase heq⟩
  | awaiting =>
      have hlt : s.collected.length < s.tasks.length := by
        rw [h.submitted (by simp [hphase])]
        exact h.awaiting hphase
      have htask := List.getElem?_eq_getElem hlt
      have hmem := List.getElem_mem hlt
      cases hcase : s.tasks[s.collected.length] with
      | waiting =>
          have hthis := List.all_eq_true.mp hsettled _ hmem
          simp [hcase, Task.isSettled] at hthis
      | running worker =>
          have hthis := List.all_eq_true.mp hsettled _ hmem
          simp [hcase, Task.isSettled] at hthis
      | dropped => exact absurd (hcase ▸ hmem) h.kept
      | done outcome =>
          rw [hcase] at htask
          cases outcome with
          | ok outcome => exact ⟨_, .collect hphase htask⟩
          | error e => exact ⟨_, .fail hphase htask⟩
  | finished => simp [State.ending?, hsettled, hphase] at hending
  | failed e => simp [State.ending?, hsettled, hphase] at hending

/-- As long as the scan has not ended, some thread can take a step. -/
theorem exists_step (hworkers : 1 ≤ p.options.workers) (h : Sound p s)
    (hending : s.ending? = none) : ∃ s', Step p s s' := by
  by_cases hsettled : s.tasks.all Task.isSettled = true
  · exact exists_step_of_settled hcancel h hsettled hending
  · obtain ⟨t, ht, hopen⟩ : ∃ t ∈ s.tasks, t.isSettled = false := by
      simpa using hsettled
    cases t with
    | running worker => exact exists_step_of_running hcancel h ht
    | done outcome => simp [Task.isSettled] at hopen
    | dropped => simp [Task.isSettled] at hopen
    | waiting =>
        -- the first worker is either idle and takes the file, or has another one to finish
        let worker : Fin p.options.workers := ⟨0, hworkers⟩
        by_cases hidle : .running worker ∈ s.tasks
        · exact exists_step_of_running hcancel h hidle
        · obtain ⟨i, hi, htask⟩ := List.mem_iff_getElem.mp ht
          have htask' : s.tasks[i]? = some .waiting := by rw [List.getElem?_eq_getElem hi, htask]
          exact ⟨_, .take htask' hidle⟩

/-- Some schedule comes to an end. -/
theorem exists_ending (hworkers : 1 ≤ p.options.workers) (h : Reachable p s) :
    ∃ s', Reachable p s' ∧ s'.ending? = some (p.sequential [] p.paths) := by
  have hsound := sound_of_reachable hcancel h
  induction hn : p.left s using Nat.strongRecOn generalizing s with
  | ind n ih =>
      cases hending : s.ending? with
      | some ending => exact ⟨s, h, by rw [hending, hsound.ending_eq hending]⟩
      | none =>
          obtain ⟨s', hstep⟩ := exists_step hcancel hworkers hsound hending
          have hlt := left_lt_of_step hcancel hsound hstep
          exact ih _ (hn ▸ hlt) (h.step hstep) (sound_step hcancel hsound hstep) rfl

/-- No schedule goes on for ever. -/
theorem exists_not_step {run : Nat → State p.options.workers} (hrun : run 0 = {}) :
    ∃ n, ¬ Step p (run n) (run (n + 1)) := by
  by_contra hall
  have hstep : ∀ n, Step p (run n) (run (n + 1)) := by simpa using hall
  have hreachable : ∀ n, Reachable p (run n) := by
    intro n
    induction n with
    | zero => exact hrun ▸ .start
    | succ n ih => exact ih.step (hstep n)
  have hbound : ∀ n, p.left (run n) + n ≤ p.left (run 0) := by
    intro n
    induction n with
    | zero => exact Nat.le_refl _
    | succ n ih =>
        have hlt := left_lt_of_step hcancel (sound_of_reachable hcancel (hreachable n)) (hstep n)
        omega
  have hlast := hbound (p.left (run 0) + 1)
  omega

end Progress

end Pool

/-! ### The result of a scan -/

/-- The end of a pool is that of the scan without one. -/
theorem map_resultOf_sequential {files : Store} {given : Option Table}
    {analyzers : List Analyzer} {o : Options} {table : Table} {loaded : List LogRecord}
    (htable : tableFor files given o = .ok (table, loaded)) (paths : List Path) :
    (Pool.sequential { files, analyzers, table, options := o, paths } [] paths).map resultOf =
      (scanFiles files given analyzers o paths).map Prod.fst := by
  rw [map_fst_scanFiles htable, Pool.sequential]
  cases outcomesFrom files analyzers table o 0 paths with
  | error e => rfl
  | ok found => simp [Except.map]

/-- Files that are shared among workers come to the end of the files that one worker scans. -/
theorem ends_iff (files : Store) (given : Option Table) (analyzers : List Analyzer)
    {o : Options} (hcancel : o.cancel = none) (hworkers : 1 ≤ o.workers) (paths : List Path)
    (r : Except ScanError ScanResult) :
    Ends files given analyzers o paths r ↔
      r = (scanFiles files given analyzers o paths).map Prod.fst := by
  constructor
  · intro hends
    cases hends with
    | noTable hload => simp only [scanFiles, hload, Except.map]
    | alone hload hfew => exact (map_fst_scanFiles hload paths).symm
    | @shared table loaded s ending hload hseveral hpaths hreachable hended =>
        have hsound := Pool.sound_of_reachable hcancel hreachable
        rw [hsound.ending_eq hended]
        exact map_resultOf_sequential hload paths
  · rintro rfl
    cases hload : tableFor files given o with
    | error e =>
        simp only [scanFiles, hload, Except.map]
        exact .noTable hload
    | ok found =>
        obtain ⟨table, loaded⟩ := found
        by_cases hfew : o.workers ≤ 1 ∨ paths.length ≤ 1
        · rw [map_fst_scanFiles hload]
          exact .alone hload hfew
        · obtain ⟨hseveral, hpaths⟩ := not_or.mp hfew
          let pool : Pool := { files, analyzers, table, options := o, paths }
          obtain ⟨s, hreachable, hended⟩ :=
            Pool.exists_ending (p := pool) hcancel hworkers .start
          rw [← map_resultOf_sequential hload]
          exact .shared hload (not_le.mp hseveral) (not_le.mp hpaths) hreachable hended

/-- A scan that is not stopped has one end only, whatever the number of workers, the order of their
steps and the notes that it is to keep: the end of the scan with one worker.  A schedule never gets
stuck before this end and never misses it by going on for ever. -/
theorem ends_iff_sequential (files : Store) (given : Option Table) (analyzers : List Analyzer)
    {o : Options} (hcancel : o.cancel = none) (hworkers : 1 ≤ o.workers) (paths : List Path)
    (verbose : Bool) :
    (∀ r, Ends files given analyzers o paths r ↔
      r = (scanFiles files given analyzers { o with workers := 1, verbose } paths).map Prod.fst) ∧
    ∀ table : Table,
      let pool : Pool := { files, analyzers, table, options := o, paths }
      (∀ s, pool.Reachable s → s.ending? = none → ∃ s', pool.Step s s') ∧
        ∀ run : Nat → Pool.State o.workers, run 0 = {} →
          ∃ n, ¬ pool.Step (run n) (run (n + 1)) := by
  have hcancel' : { o with workers := 1, verbose }.cancel = none := hcancel
  have hone := map_fst_scanFiles_congr files given analyzers hcancel' hcancel rfl rfl paths
  refine ⟨?_, ?_⟩
  · intro r
    rw [hone]
    exact ends_iff files given analyzers hcancel hworkers paths r
  · intro table pool
    refine ⟨?_, ?_⟩
    · intro s hreachable hending
      have hsound := Pool.sound_of_reachable hcancel hreachable
      exact Pool.exists_step hcancel hworkers hsound hending
    · intro run hrun
      exact Pool.exists_not_step hcancel hrun

/-- Three workers share an empty style sheet, a file that is no text and a file of another kind. -/
theorem ends_iff_sequential_three :
    let folder : FileTree :=
      .folder [("a.css", .file []), ("b.css", .file [0xFF]), ("c.txt", .file [])]
    let files : Store := { top := folder, document := Yaml.read }
    let paths : List Path := [.ofText "c.txt", .ofText "b.css", .ofText "a.css"]
    let o : Options := { Options.default with workers := 3 }
    ∀ r, Ends files none Analyzer.all o paths r ↔ r = .ok { issues := [], scanned := 1 } := by
  intro folder files paths o r
  have hopens : ∀ p ∈ paths, Opens Analyzer.all p := by
    have hnul : ∀ p ∈ paths, '\x00' ∉ p.toText.toList := by decide
    exact fun p hp ↦ Or.inr (hnul p hp)
  have hempty : files.readBytes (.ofText "a.css") = .ok [] := by cbv
  have hbroken : files.readBytes (.ofText "b.css") = .ok [0xFF] := by cbv
  have hother : files.readBytes (.ofText "c.txt") = .ok [] := by cbv
  have hresult : resultFrom Analyzer.all Table.bundled .limited files.readBytes paths =
      { issues := [], scanned := 1 } := by
    simp only [resultFrom, paths, List.flatMap_cons, List.flatMap_nil, List.countP_cons,
      List.countP_nil, hempty, hbroken, hother]
    decide +kernel
  have hcancel : { o with workers := 1, verbose := true }.cancel = none := rfl
  have htable : tableFor files none { o with workers := 1, verbose := true } =
      .ok (Table.bundled, []) := rfl
  obtain ⟨notes, hscan⟩ := scanFiles_of_opens files Table.bundled hcancel htable hopens
  have hworkers : 1 ≤ o.workers := by decide
  have hends := (ends_iff_sequential files none Analyzer.all rfl hworkers paths true).1 r
  rw [hends, hscan, ← hresult]
  rfl

end WebBaseline.Scan

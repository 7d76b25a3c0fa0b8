import Mathlib.Data.Nat.Find
import WebBaseline.Proofs.Scan.Isolation
import WebBaseline.Scan.Pool
import WebBaseline.Scan.Watched

/-!
# A scan that is stopped is a scan of a front

Under watch a scan does what it does otherwise, and puts down what it asks and which files it turns
to.  As long as the answer is no, the watched scan of a list goes along the scan of the list that
nobody stops: it has the outcomes of the files of the list in hand, has asked once before each of
them, and goes on with the files behind the list.  At the first yes the files behind the list are
skipped, so the scan is the one of the files before it.
-/

namespace WebBaseline.Scan

/-- What is done about files that are all visited. -/
def visits (paths : List Path) : List Event :=
  paths.flatMap fun p ↦ [.asked false, .visited p]

/-- What is put down once files are visited. -/
def Watch.visiting (w : Watch) (paths : List Path) : Watch :=
  { polls := w.polls + paths.length, events := w.events ++ visits paths }

@[simp] theorem Watch.visiting_polls (w : Watch) (paths : List Path) :
    (w.visiting paths).polls = w.polls + paths.length := rfl

@[simp] theorem Watch.visiting_nil (w : Watch) : w.visiting [] = w := by
  simp [Watch.visiting, visits]

theorem Watch.visiting_cons (w : Watch) (path : Path) (rest : List Path) :
    w.visiting (path :: rest) = (w.visiting [path]).visiting rest := by
  simp [Watch.visiting, visits, Nat.add_assoc, Nat.add_comm 1]

/-! ### Single steps -/

namespace Watched

variable {α β : Type}

theorem after_bind (x : Watched α) (f : α → Watched β) (w : Watch) :
    (x >>= f).after w =
      match x.after w with
      | (.ok a, w') => (f a).after w'
      | (.error e, w') => (.error e, w') := by
  simp only [after, ExceptT.run_bind, StateT.run_bind]
  obtain ⟨r, w'⟩ := x.run.run w
  cases r <;> rfl

theorem after_ask {o : Options} {answers : Nat → Bool} (hcancel : o.cancel = some answers)
    (w : Watch) :
    (ask o).after w =
      (.ok (answers w.polls),
        { polls := w.polls + 1, events := w.events ++ [.asked (answers w.polls)] }) := by
  rw [ask, hcancel]
  rfl

theorem after_visit (files : Store) (analyzers : List Analyzer) (table : Table) (o : Options)
    (path : Path) (w : Watch) :
    (visit files analyzers table o path).after w =
      (scanFile files analyzers table o path,
        { w with events := w.events ++ [.visited path] }) := by
  rw [visit, after_bind]
  cases scanFile files analyzers table o path <;> rfl

end Watched

section Stopping

theorem outcomesFrom_cons_no (files : Store) (analyzers : List Analyzer) (table : Table)
    {o : Options} {polls : Nat} (hno : cancelled o polls = false) (path : Path)
    (rest : List Path) :
    outcomesFrom files analyzers table o polls (path :: rest) =
      (scanFile files analyzers table o path).bind fun outcome ↦
        (outcomesFrom files analyzers table o (polls + 1) rest).map
          fun more ↦ (outcome :: more.1, more.2) := by
  rw [outcomesFrom, hno]
  rfl

variable {files : Store} {analyzers : List Analyzer} {table : Table} {o : Options}
  {answers : Nat → Bool} (hcancel : o.cancel = some answers)

include hcancel

theorem after_watchedOutcomes_cons_yes (path : Path) (rest : List Path) {w : Watch}
    (hyes : answers w.polls = true) :
    (watchedOutcomes files analyzers table o (path :: rest)).after w =
      (.ok ([], [skippedNote (rest.length + 1)]),
        { polls := w.polls + 1, events := w.events ++ [.asked true] }) := by
  rw [watchedOutcomes, Watched.after_bind, Watched.after_ask hcancel, hyes]
  rfl

theorem after_watchedOutcomes_cons_no (path : Path) (rest : List Path) {w : Watch}
    (hno : answers w.polls = false) :
    (watchedOutcomes files analyzers table o (path :: rest)).after w =
      match scanFile files analyzers table o path with
      | .error e => (.error e, w.visiting [path])
      | .ok outcome =>
          let later := (watchedOutcomes files analyzers table o rest).after (w.visiting [path])
          (later.1.map fun more ↦ (outcome :: more.1, more.2), later.2) := by
  have hvisiting : w.visiting [path] =
      { polls := w.polls + 1, events := w.events ++ [.asked false] ++ [.visited path] } := by
    simp [Watch.visiting, visits]
  rw [watchedOutcomes, Watched.after_bind, Watched.after_ask hcancel, hno, hvisiting]
  simp only [Bool.false_eq_true, if_false, Watched.after_bind, Watched.after_visit]
  cases scanFile files analyzers table o path with
  | error e => rfl
  | ok outcome =>
      simp only
      obtain ⟨more, w'⟩ := (watchedOutcomes files analyzers table o rest).after
        { polls := w.polls + 1, events := w.events ++ [.asked false] ++ [.visited path] }
      cases more <;> rfl

/-- Watching a scan does not change it. -/
theorem after_watchedOutcomes_fst (paths : List Path) (w : Watch) :
    ((watchedOutcomes files analyzers table o paths).after w).1 =
      outcomesFrom files analyzers table o w.polls paths := by
  induction paths generalizing w with
  | nil => rfl
  | cons path rest ih =>
      cases hanswer : answers w.polls with
      | true =>
          rw [after_watchedOutcomes_cons_yes hcancel path rest hanswer]
          simp only [outcomesFrom, cancelled, hcancel, hanswer, if_true]
          rfl
      | false =>
          have hno : cancelled o w.polls = false := by simp only [cancelled, hcancel, hanswer]
          rw [after_watchedOutcomes_cons_no hcancel path rest hanswer,
            outcomesFrom_cons_no files analyzers table hno]
          cases scanFile files analyzers table o path with
          | error e => rfl
          | ok outcome =>
              simp only [ih]
              rfl

/-! ### Going along the scan that nobody stops -/

omit hcancel in
theorem scanFile_free (path : Path) :
    scanFile files analyzers table { o with cancel := none } path =
      scanFile files analyzers table o path := rfl

omit hcancel in
theorem no_tail {path : Path} {front : List Path} {w : Watch}
    (hno : ∀ m < (path :: front).length, answers (w.polls + m) = false) :
    ∀ m < front.length, answers ((w.visiting [path]).polls + m) = false := by
  intro m hm
  rw [Watch.visiting_polls, List.length_singleton, Nat.add_assoc, Nat.add_comm 1]
  exact hno (m + 1) (Nat.succ_lt_succ hm)

/-- As long as the answer is no, the outcomes are those of the scan that nobody stops. -/
theorem after_watchedOutcomes_append_ok {front : List Path} {w : Watch}
    (hno : ∀ m < front.length, answers (w.polls + m) = false) {polls : Nat}
    {found : List Outcome × List LogRecord}
    (hfront : outcomesFrom files analyzers table { o with cancel := none } polls front = .ok found)
    (rest : List Path) :
    (watchedOutcomes files analyzers table o (front ++ rest)).after w =
      let later := (watchedOutcomes files analyzers table o rest).after (w.visiting front)
      (later.1.map fun more ↦ (found.1 ++ more.1, more.2), later.2) := by
  induction front generalizing w polls found with
  | nil =>
      cases hfront
      rw [List.nil_append, Watch.visiting_nil]
      obtain ⟨more, w'⟩ := (watchedOutcomes files analyzers table o rest).after w
      cases more <;> rfl
  | cons path front ih =>
      have hfree : cancelled { o with cancel := none } polls = false := rfl
      rw [outcomesFrom_cons_no files analyzers table hfree, scanFile_free] at hfront
      rw [List.cons_append, after_watchedOutcomes_cons_no hcancel path _ (hno 0 (Nat.succ_pos _)),
        w.visiting_cons path front]
      cases hfile : scanFile files analyzers table o path with
      | error e => simp [hfile, Except.bind] at hfront
      | ok outcome =>
          cases hmore : outcomesFrom files analyzers table { o with cancel := none } (polls + 1)
              front with
          | error e => simp [hfile, hmore, Except.bind, Except.map] at hfront
          | ok more =>
              rw [hfile, hmore] at hfront
              cases hfront
              simp only [ih (no_tail hno) hmore]
              cases ((watchedOutcomes files analyzers table o rest).after _).1 <;> rfl

/-- As long as the answer is no, a path that fails the scan that nobody stops is come upon. -/
theorem after_watchedOutcomes_append_error {front : List Path} {w : Watch}
    (hno : ∀ m < front.length, answers (w.polls + m) = false) {polls : Nat} {e : ScanError}
    (hfront : outcomesFrom files analyzers table { o with cancel := none } polls front = .error e)
    (rest : List Path) :
    ∃ k ≤ front.length, (watchedOutcomes files analyzers table o (front ++ rest)).after w =
      (.error e, w.visiting (front.take k)) := by
  induction front generalizing w polls with
  | nil => simp [outcomesFrom] at hfront
  | cons path front ih =>
      have hfree : cancelled { o with cancel := none } polls = false := rfl
      rw [outcomesFrom_cons_no files analyzers table hfree, scanFile_free] at hfront
      rw [List.cons_append, after_watchedOutcomes_cons_no hcancel path _ (hno 0 (Nat.succ_pos _))]
      cases hfile : scanFile files analyzers table o path with
      | error e' =>
          rw [hfile] at hfront
          cases hfront
          exact ⟨1, Nat.succ_pos _, rfl⟩
      | ok outcome =>
          cases hmore : outcomesFrom files analyzers table { o with cancel := none } (polls + 1)
              front with
          | ok more => simp [hfile, hmore, Except.bind, Except.map] at hfront
          | error e' =>
              rw [hfile, hmore] at hfront
              cases hfront
              obtain ⟨k, hk, hrest⟩ := ih (no_tail hno) hmore
              refine ⟨k + 1, Nat.succ_le_succ hk, ?_⟩
              simp only [hrest]
              rw [List.take_succ_cons, w.visiting_cons path (front.take k)]
              rfl

/-! ### The whole scan -/

omit hcancel in
/-- The result of outcomes, with all that is noted before and along the way. -/
def conclusion (loaded : List LogRecord) (found : List Outcome × List LogRecord) :
    ScanResult × List LogRecord :=
  (resultOf found.1,
    loaded ++ found.1.flatMap (·.notes) ++ found.2 ++ [endNote (resultOf found.1)])

variable {given : Option Table} {loaded : List LogRecord}

omit hcancel in
theorem tableFor_free :
    tableFor files given { o with cancel := none } = tableFor files given o := rfl

omit hcancel in
theorem scanFiles_eq_map_conclusion (loads : tableFor files given o = .ok (table, loaded))
    (paths : List Path) :
    scanFiles files given analyzers o paths =
      (outcomesFrom files analyzers table o 0 paths).map (conclusion loaded) := by
  rw [scanFiles, loads]
  rfl

omit hcancel in
theorem after_watchedFiles (loads : tableFor files given o = .ok (table, loaded))
    (paths : List Path) (w : Watch) :
    (watchedFiles files given analyzers o paths).after w =
      let found := (watchedOutcomes files analyzers table o paths).after w
      (found.1.map (conclusion loaded), found.2) := by
  rw [watchedFiles, loads]
  simp only [Watched.after_bind]
  obtain ⟨found, w'⟩ := (watchedOutcomes files analyzers table o paths).after w
  cases found <;> rfl

omit hcancel in
theorem after_watchedFiles_noTable {e : TableFileError}
    (loads : tableFor files given o = .error e) (paths : List Path) (w : Watch) :
    (watchedFiles files given analyzers o paths).after w = (.error (.table e), w) := by
  rw [watchedFiles, loads]
  rfl

theorem after_watchedFiles_fst (paths : List Path) :
    ((watchedFiles files given analyzers o paths).after {}).1 =
      scanFiles files given analyzers o paths := by
  cases hload : tableFor files given o with
  | error e =>
      rw [after_watchedFiles_noTable hload, scanFiles, hload]
  | ok found =>
      rw [after_watchedFiles hload, scanFiles_eq_map_conclusion hload]
      simp only [after_watchedOutcomes_fst hcancel]

omit hcancel in
/-- A scan that nobody stops has nothing to say of files that are skipped. -/
theorem outcomesFrom_free_notes {paths : List Path} {found : List Outcome × List LogRecord}
    (h : outcomesFrom files analyzers table { o with cancel := none } 0 paths = .ok found) :
    found.2 = [] := by
  by_cases hopens : ∀ p ∈ paths, Opens analyzers p
  · obtain ⟨outcomes, houtcomes, -⟩ :=
      outcomesFrom_of_opens files table (o := { o with cancel := none }) rfl hopens 0
    rw [h] at houtcomes
    cases houtcomes
    rfl
  · rw [outcomesFrom_of_not_opens files table (o := { o with cancel := none }) rfl hopens 0] at h
    cases h

/-- If the files behind a front are skipped, what remains is the scan of the front. -/
theorem after_watchedFiles_append_ok {front : List Path}
    (hno : ∀ m < front.length, answers m = false) {rest : List Path} {skipped : List LogRecord}
    {w : Watch}
    (hrest : ∀ table, (watchedOutcomes files analyzers table o rest).after
      (Watch.visiting {} front) = (.ok ([], skipped), w))
    {r : ScanResult} {notes : List LogRecord}
    (hfront : scanFiles files given analyzers { o with cancel := none } front = .ok (r, notes)) :
    ∃ before, notes = before ++ [endNote r] ∧
      (watchedFiles files given analyzers o (front ++ rest)).after {} =
        (.ok (r, before ++ skipped ++ [endNote r]), w) := by
  cases hload : tableFor files given o with
  | error e =>
      rw [scanFiles, tableFor_free, hload] at hfront
      cases hfront
  | ok loading =>
      obtain ⟨table, loaded⟩ := loading
      rw [scanFiles_eq_map_conclusion (o := { o with cancel := none }) hload] at hfront
      cases hfound : outcomesFrom files analyzers table { o with cancel := none } 0 front with
      | error e => simp [hfound, Except.map] at hfront
      | ok found =>
          have hnotes := outcomesFrom_free_notes hfound
          have hno' : ∀ m < front.length, answers (({} : Watch).polls + m) = false := by
            simpa using hno
          rw [hfound] at hfront
          cases hfront
          refine ⟨loaded ++ found.1.flatMap (·.notes), by simp [hnotes], ?_⟩
          rw [after_watchedFiles hload]
          simp only [after_watchedOutcomes_append_ok hcancel hno' hfound, hrest]
          simp [Except.map, conclusion]

/-- A front whose scan fails makes the whole scan fail. -/
theorem after_watchedFiles_append_error {front : List Path}
    (hno : ∀ m < front.length, answers m = false) (rest : List Path) {e : ScanError}
    (hfront : scanFiles files given analyzers { o with cancel := none } front = .error e) :
    ∃ k ≤ front.length, (watchedFiles files given analyzers o (front ++ rest)).after {} =
      (.error e, Watch.visiting {} (front.take k)) := by
  cases hload : tableFor files given o with
  | error e' =>
      rw [scanFiles, tableFor_free, hload] at hfront
      obtain rfl := Except.error.inj hfront
      refine ⟨0, Nat.zero_le _, ?_⟩
      rw [after_watchedFiles_noTable hload, List.take_zero, Watch.visiting_nil]
  | ok loading =>
      obtain ⟨table, loaded⟩ := loading
      rw [scanFiles_eq_map_conclusion (o := { o with cancel := none }) hload] at hfront
      cases hfound : outcomesFrom files analyzers table { o with cancel := none } 0 front with
      | ok found => simp [hfound, Except.map] at hfront
      | error e' =>
          have hno' : ∀ m < front.length, answers (({} : Watch).polls + m) = false := by
            simpa using hno
          rw [hfound] at hfront
          cases hfront
          obtain ⟨k, hk, hwatched⟩ := after_watchedOutcomes_append_error hcancel hno' hfound rest
          refine ⟨k, hk, ?_⟩
          rw [after_watchedFiles hload]
          simp only [hwatched]
          rfl

variable (files analyzers given) in
/-- The scan is told to stop when it asks before the file at place `n`. -/
theorem watchedFiles_stopped {paths : List Path} {n : Nat} (hn : n < paths.length)
    (hyes : answers n = true) (hno : ∀ m < n, answers m = false) :
    let free : Options := { o with cancel := none }
    let run := (watchedFiles files given analyzers o paths).after {}
    (∀ r notes, scanFiles files given analyzers free (paths.take n) = .ok (r, notes) →
      ∃ before, notes = before ++ [endNote r] ∧
        run = (.ok (r, before ++ [skippedNote (paths.length - n), endNote r]),
          { polls := n + 1, events := visits (paths.take n) ++ [.asked true] })) ∧
    ∀ e, scanFiles files given analyzers free (paths.take n) = .error e →
      ∃ k ≤ n, run = (.error e, { polls := k, events := visits (paths.take k) }) := by
  intro free run
  have hlength : (paths.take n).length = n := List.length_take_of_le (Nat.le_of_lt hn)
  have hfront : ∀ m < (paths.take n).length, answers m = false := hlength.symm ▸ hno
  have hpolls : (Watch.visiting {} (paths.take n)).polls = n := by simp [hlength]
  refine ⟨?_, ?_⟩
  · intro r notes hfree
    have hskip : ∀ table, (watchedOutcomes files analyzers table o (paths.drop n)).after
        (Watch.visiting {} (paths.take n)) =
          (.ok ([], [skippedNote (paths.length - n)]),
            { polls := n + 1, events := visits (paths.take n) ++ [.asked true] }) := by
      intro table
      rw [List.drop_eq_getElem_cons hn,
        after_watchedOutcomes_cons_yes hcancel _ _ (hpolls.symm ▸ hyes), hpolls, List.length_drop]
      have hleft : paths.length - (n + 1) + 1 = paths.length - n := by omega
      rw [hleft]
      rfl
    obtain ⟨before, hnotes, hrun⟩ := after_watchedFiles_append_ok hcancel hfront hskip hfree
    rw [List.take_append_drop, List.append_assoc] at hrun
    exact ⟨before, hnotes, hrun⟩
  · intro e hfree
    obtain ⟨k, hk, hrun⟩ := after_watchedFiles_append_error hcancel hfront (paths.drop n) hfree
    rw [hlength] at hk
    rw [List.take_append_drop, List.take_take, Nat.min_eq_left hk] at hrun
    refine ⟨k, hk, hrun.trans ?_⟩
    simp [Watch.visiting, Nat.min_eq_left (Nat.le_trans hk (Nat.le_of_lt hn))]

variable (files analyzers given) in
/-- The scan is never told to stop. -/
theorem watchedFiles_not_stopped {paths : List Path}
    (hno : ∀ m < paths.length, answers m = false) :
    let free : Options := { o with cancel := none }
    let run := (watchedFiles files given analyzers o paths).after {}
    (∀ found, scanFiles files given analyzers free paths = .ok found →
      run = (.ok found, { polls := paths.length, events := visits paths })) ∧
    ∀ e, scanFiles files given analyzers free paths = .error e →
      ∃ k ≤ paths.length, run = (.error e, { polls := k, events := visits (paths.take k) }) := by
  intro free run
  have hnil : ∀ table, (watchedOutcomes files analyzers table o []).after
      (Watch.visiting {} paths) =
        (.ok ([], []), { polls := paths.length, events := visits paths }) := by
    intro table
    have hvisiting : Watch.visiting {} paths =
        { polls := paths.length, events := visits paths } := by
      simp [Watch.visiting]
    rw [watchedOutcomes, hvisiting]
    rfl
  refine ⟨?_, ?_⟩
  · intro found hfree
    obtain ⟨before, hnotes, hrun⟩ := after_watchedFiles_append_ok hcancel hno hnil hfree
    rw [List.append_nil, List.append_nil, ← hnotes] at hrun
    exact hrun
  · intro e hfree
    obtain ⟨k, hk, hrun⟩ := after_watchedFiles_append_error hcancel hno [] hfree
    rw [List.append_nil] at hrun
    refine ⟨k, hk, hrun.trans ?_⟩
    simp [Watch.visiting, hk]

/-- A scan has a result however it is stopped, if the system can be asked for all paths. -/
theorem watchedFiles_returns (loads : tableFor files given o = .ok (table, loaded))
    {paths : List Path} (hopens : ∀ p ∈ paths, Opens analyzers p) :
    ∃ found, ((watchedFiles files given analyzers o paths).after {}).1 = .ok found := by
  by_cases hsome : ∃ n, n < paths.length ∧ answers n = true
  · -- the first time that the answer is yes
    obtain ⟨hn, hyes⟩ := Nat.find_spec hsome
    have hno : ∀ m < Nat.find hsome, answers m = false := by
      intro m hm
      have hthis := Nat.find_min hsome hm
      simpa [Nat.lt_trans hm hn] using hthis
    obtain ⟨notes, hfree⟩ := scanFiles_of_opens (o := { o with cancel := none }) files table rfl
      loads fun p hp ↦ hopens p (List.mem_of_mem_take hp)
    obtain ⟨hok, -⟩ := watchedFiles_stopped files analyzers hcancel given hn hyes hno
    obtain ⟨before, -, hrun⟩ := hok _ notes hfree
    exact ⟨_, congrArg Prod.fst hrun⟩
  · have hno : ∀ m < paths.length, answers m = false := by simpa using hsome
    obtain ⟨notes, hfree⟩ :=
      scanFiles_of_opens (o := { o with cancel := none }) files table rfl loads hopens
    obtain ⟨hok, -⟩ := watchedFiles_not_stopped files analyzers hcancel given hno
    exact ⟨_, congrArg Prod.fst (hok _ hfree)⟩

end Stopping

/-- With one worker, or for one file, a scan ends as it does without a pool. -/
theorem ends_iff_of_few (files : Store) (given : Option Table) (analyzers : List Analyzer)
    {o : Options} {paths : List Path} (hfew : o.workers ≤ 1 ∨ paths.length ≤ 1)
    (r : Except ScanError ScanResult) :
    Ends files given analyzers o paths r ↔
      r = (scanFiles files given analyzers o paths).map Prod.fst := by
  constructor
  · intro hends
    cases hends with
    | noTable hload => simp only [scanFiles, hload, Except.map]
    | alone hload _ => exact (map_fst_scanFiles hload paths).symm
    | shared _ hworkers hseveral _ _ => omega
  · rintro rfl
    cases hload : tableFor files given o with
    | error e =>
        simp only [scanFiles, hload, Except.map]
        exact .noTable hload
    | ok loading =>
        rw [map_fst_scanFiles hload]
        exact .alone hload hfew

/-- Two scans without a pool end alike if the one gives what the other one gives. -/
theorem ends_iff_ends_of_few {files : Store} {given : Option Table} {analyzers : List Analyzer}
    {o o' : Options} {paths paths' : List Path} (hfew : o.workers ≤ 1 ∨ paths.length ≤ 1)
    (hfew' : o'.workers ≤ 1 ∨ paths'.length ≤ 1)
    (hok : ∀ r notes, scanFiles files given analyzers o' paths' = .ok (r, notes) →
      ∃ notes', scanFiles files given analyzers o paths = .ok (r, notes'))
    (herror : ∀ e, scanFiles files given analyzers o' paths' = .error e →
      scanFiles files given analyzers o paths = .error e)
    (r : Except ScanError ScanResult) :
    Ends files given analyzers o paths r ↔ Ends files given analyzers o' paths' r := by
  have hfst : (scanFiles files given analyzers o paths).map Prod.fst =
      (scanFiles files given analyzers o' paths').map Prod.fst := by
    cases hother : scanFiles files given analyzers o' paths' with
    | error e => rw [herror e hother]
    | ok found =>
        obtain ⟨notes', hthis⟩ := hok found.1 found.2 hother
        rw [hthis]
        rfl
  rw [ends_iff_of_few files given analyzers hfew, ends_iff_of_few files given analyzers hfew', hfst]

/-- A scan without a pool that is told to stop when it asks before the file at place `n`, and not
before, is the scan of the `n` files before that nobody stops, and notes that the others are
skipped; if it is never told to stop, it is the scan of all files that nobody stops.  It asks once
before each file that it turns to, whatever comes of the file, and is told to stop at most once.  A
path that no file can have, and a table that cannot be had, fail both scans alike; otherwise both
have a result. -/
theorem watchedFiles_of_cancel (files : Store) (given : Option Table)
    (analyzers : List Analyzer) {o : Options} {answers : Nat → Bool}
    (hcancel : o.cancel = some answers) {paths : List Path}
    (hfew : o.workers ≤ 1 ∨ paths.length ≤ 1) :
    let free : Options := { o with cancel := none }
    let run := (watchedFiles files given analyzers o paths).after {}
    run.1 = scanFiles files given analyzers o paths ∧
    (∀ n < paths.length, answers n = true → (∀ m < n, answers m = false) →
      (∀ r, Ends files given analyzers o paths r ↔
        Ends files given analyzers free (paths.take n) r) ∧
      (∀ r notes, scanFiles files given analyzers free (paths.take n) = .ok (r, notes) →
        ∃ before, notes = before ++ [endNote r] ∧
          run = (.ok (r, before ++ [skippedNote (paths.length - n), endNote r]),
            { polls := n + 1, events := visits (paths.take n) ++ [.asked true] })) ∧
      ∀ e, scanFiles files given analyzers free (paths.take n) = .error e →
        ∃ k ≤ n, run = (.error e, { polls := k, events := visits (paths.take k) })) ∧
    ((∀ m < paths.length, answers m = false) →
      (∀ r, Ends files given analyzers o paths r ↔ Ends files given analyzers free paths r) ∧
      (∀ found, scanFiles files given analyzers free paths = .ok found →
        run = (.ok found, { polls := paths.length, events := visits paths })) ∧
      ∀ e, scanFiles files given analyzers free paths = .error e →
        ∃ k ≤ paths.length, run = (.error e, { polls := k, events := visits (paths.take k) })) ∧
    ∀ table loaded, tableFor files given o = .ok (table, loaded) →
      (∀ p ∈ paths, '\x00' ∉ p.toText.toList) → ∃ found, run.1 = .ok found := by
  intro free run
  have hrun : run.1 = scanFiles files given analyzers o paths :=
    after_watchedFiles_fst hcancel paths
  refine ⟨hrun, ?_, ?_, ?_⟩
  · intro n hn hyes hno
    obtain ⟨hok, herror⟩ := watchedFiles_stopped files analyzers hcancel given hn hyes hno
    have hfew' : free.workers ≤ 1 ∨ (paths.take n).length ≤ 1 :=
      hfew.imp_right (Nat.le_trans (List.length_take_le' n paths))
    refine ⟨ends_iff_ends_of_few hfew hfew' ?_ ?_, hok, herror⟩
    · intro r notes hfree
      obtain ⟨before, -, hthis⟩ := hok r notes hfree
      exact ⟨_, hrun.symm.trans (congrArg Prod.fst hthis)⟩
    · intro e hfree
      obtain ⟨k, -, hthis⟩ := herror e hfree
      exact hrun.symm.trans (congrArg Prod.fst hthis)
  · intro hno
    obtain ⟨hok, herror⟩ := watchedFiles_not_stopped files analyzers hcancel given hno
    refine ⟨ends_iff_ends_of_few hfew hfew ?_ ?_, hok, herror⟩
    · intro r notes hfree
      exact ⟨notes, hrun.symm.trans (congrArg Prod.fst (hok _ hfree))⟩
    · intro e hfree
      obtain ⟨k, -, hthis⟩ := herror e hfree
      exact hrun.symm.trans (congrArg Prod.fst hthis)
  · intro table loaded hload hnul
    exact watchedFiles_returns hcancel hload fun p hp ↦ Or.inr (hnul p hp)

/-- The scan is told to stop after a style sheet, a file of another kind and a file that is no
text. -/
theorem watchedFiles_of_cancel_three :
    let folder : FileTree :=
      .folder [("a.css", .file []), ("b.css", .file [0xFF]), ("c.txt", .file [])]
    let files : Store := { top := folder, document := Yaml.read }
    let front : List Path := [.ofText "a.css", .ofText "c.txt", .ofText "b.css"]
    let o : Options := { Options.default with cancel := some fun polls ↦ 3 ≤ polls }
    let r : ScanResult := { issues := [], scanned := 1 }
    ∃ before,
      (watchedFiles files none Analyzer.all o (front ++ [.ofText "a.css"])).after {} =
        (.ok (r, before ++ [skippedNote 1, endNote r]),
          { polls := 4, events := visits front ++ [.asked true] }) := by
  intro folder files front o r
  have hopens : ∀ p ∈ front, Opens Analyzer.all p := by
    have hnul : ∀ p ∈ front, '\x00' ∉ p.toText.toList := by decide
    exact fun p hp ↦ Or.inr (hnul p hp)
  have hempty : files.readBytes (.ofText "a.css") = .ok [] := by cbv
  have hbroken : files.readBytes (.ofText "b.css") = .ok [0xFF] := by cbv
  have hother : files.readBytes (.ofText "c.txt") = .ok [] := by cbv
  have hresult : resultFrom Analyzer.all Table.bundled .limited files.readBytes front = r := by
    simp only [resultFrom, front, r, List.flatMap_cons, List.flatMap_nil, List.countP_cons,
      List.countP_nil, hempty, hbroken, hother]
    decide +kernel
  have htable : tableFor files none { o with cancel := none } = .ok (Table.bundled, []) := rfl
  obtain ⟨notes, hfree⟩ := scanFiles_of_opens files Table.bundled rfl htable hopens
  have hfew : o.workers ≤ 1 ∨ (front ++ [Path.ofText "a.css"]).length ≤ 1 := by decide
  have hno : ∀ m < 3, decide (3 ≤ m) = false := by decide
  obtain ⟨-, hok, -⟩ :=
    (watchedFiles_of_cancel files none Analyzer.all rfl hfew).2.1 3 (by decide) rfl hno
  obtain ⟨before, -, hrun⟩ := hok r notes (hresult ▸ hfree)
  exact ⟨before, hrun⟩

end WebBaseline.Scan

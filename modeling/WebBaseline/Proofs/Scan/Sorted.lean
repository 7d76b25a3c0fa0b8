import Mathlib.Data.List.Permutation
import WebBaseline.Proofs.DocumentOrder
import WebBaseline.Proofs.Lists
import WebBaseline.Proofs.Result
import WebBaseline.Proofs.Scan.Root

/-!
# Results in report order

Sorting a result rearranges its issues by file, line and column and leaves issues at one place in
the order they had.  What is counted does not depend on the order.

A scan of a folder opens the files in the order of their paths from the root, and the texts of the
paths are in the same order, since all of them start with the text of the root.  So the issues come
in one block for each file, the blocks stand in the order of the files, and sorting turns to each
block on its own.  This holds for every way in which a scan can end, also for one that is stopped
while several workers are busy.
-/

namespace WebBaseline

/-! ### Report order -/

/-- What issues are sorted by. -/
def Issue.sortKey (i : Issue) : String ×ₗ ℤ ×ₗ ℤ := toLex (i.file, i.place)

theorem Issue.sortKey_lt_of_file_lt {i j : Issue} (h : i.file < j.file) :
    i.sortKey < j.sortKey :=
  Prod.Lex.toLex_lt_toLex.mpr (Or.inl h)

theorem Issue.le_iff (i j : Issue) : i.le j = true ↔ i.sortKey ≤ j.sortKey := by
  rw [Issue.sortKey, Issue.sortKey, Prod.Lex.toLex_le_toLex, Issue.place, Issue.place,
    Prod.Lex.toLex_le_toLex]
  simp [Issue.le]

section Sorting

variable (issues : List Issue)

theorem le_trans_issue (a b c : Issue) (hab : a.le b = true) (hbc : b.le c = true) :
    a.le c = true :=
  (Issue.le_iff a c).mpr (((Issue.le_iff a b).mp hab).trans ((Issue.le_iff b c).mp hbc))

theorem le_total_issue (a b : Issue) : (a.le b || b.le a) = true := by
  rw [Bool.or_eq_true, Issue.le_iff, Issue.le_iff]
  exact le_total a.sortKey b.sortKey

theorem pairwise_sortKey_mergeSort :
    (issues.mergeSort Issue.le).Pairwise fun i j ↦ i.sortKey ≤ j.sortKey := by
  have hsorted := List.pairwise_mergeSort le_trans_issue le_total_issue issues
  exact hsorted.imp fun {i j} h ↦ (Issue.le_iff i j).mp h

/-- Issues at one place keep their order. -/
theorem filter_sortKey_mergeSort (k : String ×ₗ ℤ ×ₗ ℤ) :
    ((issues.mergeSort Issue.le).filter fun i ↦ i.sortKey = k) =
      issues.filter fun i ↦ i.sortKey = k := by
  have hties : (issues.filter fun i ↦ i.sortKey = k).Pairwise fun i j ↦ i.le j = true := by
    apply List.pairwise_of_forall_mem_list
    intro i hi j hj
    have hi : i.sortKey = k := of_decide_eq_true (List.mem_filter.mp hi).2
    have hj : j.sortKey = k := of_decide_eq_true (List.mem_filter.mp hj).2
    exact (Issue.le_iff i j).mpr (le_of_eq (hi.trans hj.symm))
  have hsub := List.sublist_mergeSort le_trans_issue le_total_issue hties List.filter_sublist
  have hfilter := hsub.filter fun i ↦ i.sortKey = k
  rw [List.filter_filter] at hfilter
  simp only [Bool.and_self] at hfilter
  have hlength := ((List.mergeSort_perm issues Issue.le).filter fun i ↦ i.sortKey = k).length_eq
  exact (hfilter.eq_of_length hlength.symm).symm

/-- Issues that stand before others in any case are sorted on their own. -/
theorem mergeSort_append_of_file_lt {xs ys : List Issue}
    (h : ∀ i ∈ xs, ∀ j ∈ ys, i.file < j.file) :
    (xs ++ ys).mergeSort Issue.le = xs.mergeSort Issue.le ++ ys.mergeSort Issue.le := by
  have hsorted : (xs.mergeSort Issue.le ++ ys.mergeSort Issue.le).Pairwise
      fun i j ↦ i.sortKey ≤ j.sortKey := by
    apply List.pairwise_append.mpr
    refine ⟨pairwise_sortKey_mergeSort xs, pairwise_sortKey_mergeSort ys, ?_⟩
    intro i hi j hj
    have hfile := h i (List.mem_mergeSort.mp hi) j (List.mem_mergeSort.mp hj)
    exact le_of_lt (Issue.sortKey_lt_of_file_lt hfile)
  apply eq_of_pairwise_of_filter_eq (pairwise_sortKey_mergeSort (xs ++ ys)) hsorted
  intro k
  rw [List.filter_append, filter_sortKey_mergeSort, filter_sortKey_mergeSort,
    filter_sortKey_mergeSort, List.filter_append]

end Sorting

/-! ### Blocks of files -/

/-- Issues in blocks, one for each of some files, in the order of the files. -/
structure InBlocks (blocks : List (String × List Issue)) : Prop where
  files : (blocks.map Prod.fst).Pairwise (· < ·)
  issues : ∀ b ∈ blocks, ∀ i ∈ b.2, i.file = b.1

namespace InBlocks

variable {block : String × List Issue} {blocks : List (String × List Issue)}

theorem tail (h : InBlocks (block :: blocks)) : InBlocks blocks where
  files := (List.pairwise_cons.mp h.files).2
  issues b hb := h.issues b (List.mem_cons_of_mem block hb)

theorem file_lt (h : InBlocks (block :: blocks)) :
    ∀ i ∈ block.2, ∀ j ∈ blocks.flatMap Prod.snd, i.file < j.file := by
  intro i hi j hj
  obtain ⟨b, hb, hj⟩ := List.mem_flatMap.mp hj
  rw [h.issues block List.mem_cons_self i hi, h.issues b (List.mem_cons_of_mem block hb) j hj]
  exact (List.pairwise_cons.mp h.files).1 b.1 (List.mem_map.mpr ⟨b, hb, rfl⟩)

theorem pairwise_file (h : InBlocks blocks) :
    (blocks.flatMap Prod.snd).Pairwise fun i j ↦ i.file ≤ j.file := by
  induction blocks with
  | nil => exact List.Pairwise.nil
  | cons block blocks ih =>
      rw [List.flatMap_cons]
      apply List.pairwise_append.mpr
      refine ⟨?_, ih h.tail, fun i hi j hj ↦ le_of_lt (h.file_lt i hi j hj)⟩
      apply List.pairwise_of_forall_mem_list
      intro i hi j hj
      have hfile := h.issues block List.mem_cons_self
      exact le_of_eq ((hfile i hi).trans (hfile j hj).symm)

/-- Sorting turns to each block on its own. -/
theorem mergeSort_flatMap (h : InBlocks blocks) :
    (blocks.flatMap Prod.snd).mergeSort Issue.le =
      blocks.flatMap fun b ↦ b.2.mergeSort Issue.le := by
  induction blocks with
  | nil => simp
  | cons block blocks ih =>
      rw [List.flatMap_cons, mergeSort_append_of_file_lt h.file_lt, ih h.tail, List.flatMap_cons]

end InBlocks

namespace ScanResult

variable (r : ScanResult)

theorem sorted_perm : r.sorted.issues.Perm r.issues := List.mergeSort_perm r.issues Issue.le

theorem sorted_sorted : r.sorted.sorted = r.sorted := by
  have hsorted := (pairwise_sortKey_mergeSort r.issues).imp fun {i j} h ↦ (Issue.le_iff i j).mpr h
  rw [sorted, sorted, List.mergeSort_of_pairwise hsorted]

/-- The order of issues does not show in a summary. -/
theorem summary_eq_of_perm {r r' : ScanResult} (h : r.issues.Perm r'.issues) :
    r.summary = r'.summary := by
  simp only [summary, Summary.ofIssues, h.length_eq, h.countP_eq]

theorem withIssues_eq_of_perm {r r' : ScanResult} (h : r.issues.Perm r'.issues) :
    r.withIssues = r'.withIssues := by
  rw [withIssues_eq_card, withIssues_eq_card, List.toFinset_eq_of_perm _ _ (h.map _)]

end ScanResult

/-! ### The texts of the paths below a root -/

/-- What stands before the path from the root in the text of a path below the root. -/
def Path.lead (root : Path) : String :=
  if root.parts = [] then root.root else root.root ++ Search.relative root.parts ++ "/"

theorem Path.toText_below (root : Path) {names : List String} (hnames : names ≠ []) :
    (root.below names).toText = root.lead ++ Search.relative names := by
  have hparts : root.parts ++ names ≠ [] := List.append_ne_nil_of_right_ne_nil _ hnames
  have htext : (root.below names).toText = root.root ++ Search.relative (root.parts ++ names) := by
    simp [Path.toText, Path.below, hparts, Search.relative]
  rw [htext, Path.lead]
  by_cases hroot : root.parts = []
  · rw [hroot, List.nil_append, if_pos rfl]
  · rw [if_neg hroot, Search.relative_append hroot hnames]
    simp only [String.append_assoc]

theorem append_lt_append_left (lead : String) {a b : String} (h : a < b) :
    lead ++ a < lead ++ b := by
  rw [String.lt_iff_toList_lt, String.toList_append, String.toList_append]
  exact List.append_left_lt (String.lt_iff_toList_lt.mp h)

namespace Scan

/-- The texts of the listed paths are in the order of the paths from the root. -/
theorem pairwise_toText_listFiles {files : Store} (hwf : files.WellFormed) (o : Options)
    {root : Path} {entries : List (String × FileTree)}
    (hroot : files.stat root = .ok (.folder entries)) :
    ((listFiles files o root).map Path.toText).Pairwise (· < ·) := by
  obtain ⟨⟨found, hlist, hsorted, hfound⟩, -⟩ := listFiles_exact hwf o hroot
  have hne : ∀ names ∈ found, names ≠ [] := by
    rintro names hnames rfl
    rcases ((hfound []).mp hnames).1 with ⟨bytes, hleads⟩ | ⟨⟨target, hleads⟩, -⟩ <;> cases hleads
  rw [hlist, List.map_map]
  apply List.pairwise_map.mpr
  refine (List.pairwise_map.mp hsorted).imp_of_mem ?_
  intro names names' hnames hnames' hlt
  rw [Function.comp_apply, Function.comp_apply, Path.toText_below root (hne names hnames),
    Path.toText_below root (hne names' hnames')]
  exact append_lt_append_left root.lead hlt

/-! ### Outcomes and their files -/

/-- The issues of an outcome are those of one file. -/
def Outcome.IsOf (outcome : Outcome) (path : Path) : Prop :=
  ∀ issues, outcome.issues = some issues → ∀ i ∈ issues, i.file = path.toText

/-- Outcomes of the files at the front of a list, in order. -/
def Gathered (paths : List Path) (outcomes : List Outcome) : Prop :=
  ∃ front, front <+: paths ∧ List.Forall₂ Outcome.IsOf outcomes front

section Outcomes

variable {files : FileSystem} {analyzers : List Analyzer} {table : Table} {o : Options}

theorem file_of_analyze {a : Analyzer} {content file : String} {level : Level}
    {issues : List Issue} {notes : List LogRecord}
    (h : a.analyze content file table level = some (issues, notes)) :
    ∀ i ∈ issues, i.file = file := by
  rw [Analyzer.analyze] at h
  split at h
  · cases h
    intro i hi
    exact Report.file_of_mem_issues hi
  · cases h
    simp
  · cases h

theorem isOf_of_scanFile {path : Path} {outcome : Outcome}
    (h : scanFile files analyzers table o path = .ok outcome) : outcome.IsOf path := by
  intro issues hissues
  rw [scanFile] at h
  split at h
  · cases h
    cases hissues
  · split at h
    · cases h
    · cases h
      cases hissues
    · simp only at h
      split at h
      · rename_i hanalyze
        cases h
        cases hissues
        exact file_of_analyze hanalyze
      · cases h
        cases hissues
        simp

theorem gathered_of_outcomesFrom {polls : Nat} {paths : List Path}
    {found : List Outcome × List LogRecord}
    (h : outcomesFrom files analyzers table o polls paths = .ok found) :
    Gathered paths found.1 := by
  induction paths generalizing polls found with
  | nil =>
      rw [outcomesFrom] at h
      cases h
      exact ⟨[], List.prefix_rfl, .nil⟩
  | cons path rest ih =>
      rw [outcomesFrom] at h
      split at h
      · cases h
        exact ⟨[], List.nil_prefix, .nil⟩
      · cases hfile : scanFile files analyzers table o path with
        | error e =>
            rw [hfile] at h
            cases h
        | ok outcome =>
            cases hrest : outcomesFrom files analyzers table o (polls + 1) rest with
            | error e =>
                rw [hfile, hrest] at h
                cases h
            | ok more =>
                rw [hfile, hrest] at h
                cases h
                obtain ⟨front, hfront, hmore⟩ := ih hrest
                refine ⟨path :: front, ?_, .cons (isOf_of_scanFile hfile) hmore⟩
                exact List.cons_prefix_cons.mpr ⟨rfl, hfront⟩

end Outcomes

/-! ### Outcomes of a pool -/

namespace Pool

variable {p : Pool}

/-- Whatever is done is an outcome of its file, and what is collected are outcomes of the files at
the front, whether the scan is to be stopped or not. -/
structure Filed (p : Pool) (s : State p.options.workers) : Prop where
  tasks_le : s.tasks.length ≤ p.paths.length
  done : ∀ (i : Nat) (path : Path) (outcome : Outcome),
    p.paths[i]? = some path → s.tasks[i]? = some (.done (.ok outcome)) → outcome.IsOf path
  collected_le : s.collected.length ≤ p.paths.length
  collected : List.Forall₂ Outcome.IsOf s.collected (p.paths.take s.collected.length)

theorem filed_start : Filed p {} where
  tasks_le := Nat.zero_le _
  done := by simp
  collected_le := Nat.zero_le _
  collected := .nil

/-- Changing one task keeps what is filed if the new one is an outcome of its file, or none. -/
theorem Filed.set {s : State p.options.workers} (h : Filed p s) {i : Nat}
    {t : Task p.options.workers}
    (hdone : ∀ path outcome, p.paths[i]? = some path → t = .done (.ok outcome) →
      outcome.IsOf path) (polls : Nat) :
    Filed p { s with tasks := s.tasks.set i t, polls } where
  tasks_le := by simpa using h.tasks_le
  done := by
    intro j path outcome hpath htask
    rw [List.getElem?_set] at htask
    split at htask
    · rename_i hij
      split at htask
      · exact hdone path outcome (hij ▸ hpath) (Option.some.inj htask)
      · cases htask
    · exact h.done j path outcome hpath htask
  collected_le := h.collected_le
  collected := h.collected

/-- Calling tasks off leaves those that are done. -/
theorem getElem?_of_called_off {workers : Nat} {tasks : List (Task workers)} {n i : Nat}
    {outcome : Except ScanError Outcome}
    (h : (tasks.take n ++ (tasks.drop n).map Task.drop)[i]? = some (.done outcome)) :
    tasks[i]? = some (.done outcome) := by
  rw [List.getElem?_append, List.length_take] at h
  split at h
  · rwa [List.getElem?_take_of_lt (by omega)] at h
  · rw [List.getElem?_map, List.getElem?_drop, Option.map_eq_some_iff] at h
    obtain ⟨t, ht, hdrop⟩ := h
    have hlt := (List.getElem?_eq_some_iff.mp ht).1
    have hi : n + (i - min n tasks.length) = i := by omega
    rw [hi] at ht
    cases t with
    | done outcome' =>
        rw [ht]
        exact congrArg some hdrop
    | _ => cases hdrop

theorem filed_step {s s' : State p.options.workers} (h : Filed p s) (hstep : Step p s s') :
    Filed p s' := by
  cases hstep with
  | submit hphase hleft =>
      refine { h with tasks_le := ?_, done := ?_ }
      · rw [List.length_append]
        exact hleft
      · intro i path outcome hpath htask
        rw [List.getElem?_append] at htask
        split at htask
        · exact h.done i path outcome hpath htask
        · simp [List.getElem?_singleton] at htask
  | submitted hphase hall => exact { h with }
  | take htask hidle => exact h.set (by simp) s.polls
  | analyze htask hpath hpoll =>
      refine h.set ?_ (s.polls + 1)
      intro path outcome hpath' hdone
      rw [hpath] at hpath'
      cases hpath'
      exact isOf_of_scanFile (Task.done.inj hdone)
  | skip htask hpoll =>
      refine h.set ?_ (s.polls + 1)
      intro path outcome hpath hdone
      cases hdone
      intro issues hissues
      cases hissues
  | proceed hphase hleft hpoll => exact { h with }
  | stop hphase hleft hpoll =>
      refine { h with tasks_le := ?_, done := ?_ }
      · have hle := h.tasks_le
        simp only [List.length_append, List.length_take, List.length_map, List.length_drop]
        omega
      · intro i path outcome hpath htask
        exact h.done i path outcome hpath (getElem?_of_called_off htask)
  | @collect outcome hphase htask =>
      have hlt : s.collected.length < p.paths.length :=
        lt_of_lt_of_le (List.getElem?_eq_some_iff.mp htask).1 h.tasks_le
      have hpath := List.getElem?_eq_getElem hlt
      have houtcome := h.done _ _ _ hpath htask
      refine { h with collected_le := ?_, collected := ?_ }
      · rw [List.length_append]
        exact hlt
      · rw [List.length_append, List.length_singleton, List.take_add_one, hpath]
        exact List.rel_append h.collected (.cons houtcome .nil)
  | fail hphase htask => exact { h with }
  | conclude hphase hall => exact { h with }

theorem filed_of_reachable {s : State p.options.workers} (h : Reachable p s) : Filed p s := by
  induction h with
  | start => exact filed_start
  | step _ hstep ih => exact filed_step ih hstep

/-- The outcomes that a scan ends with are those of the files at the front. -/
theorem Filed.gathered {s : State p.options.workers} (h : Filed p s) {outcomes : List Outcome}
    (hending : s.ending? = some (.ok outcomes)) : Gathered p.paths outcomes := by
  have hcollected : outcomes = s.collected := by
    unfold State.ending? at hending
    split at hending
    · split at hending <;> cases hending
      rfl
    · cases hending
  rw [hcollected]
  exact ⟨_, List.take_prefix _ _, h.collected⟩

end Pool

/-! ### Results in blocks -/

section Ends

variable {files : Store} {given : Option Table} {analyzers : List Analyzer} {o : Options}
  {r : ScanResult}

theorem gathered_of_map_outcomesFrom {table : Table} {paths : List Path}
    (h : ((outcomesFrom files analyzers table o 0 paths).map fun found ↦ resultOf found.1) =
      .ok r) :
    ∃ outcomes, Gathered paths outcomes ∧ r = resultOf outcomes := by
  cases hfound : outcomesFrom files analyzers table o 0 paths with
  | error e =>
      rw [hfound] at h
      cases h
  | ok found =>
      rw [hfound] at h
      cases h
      exact ⟨found.1, gathered_of_outcomesFrom hfound, rfl⟩

theorem gathered_of_scanFiles {paths : List Path} {notes : List LogRecord}
    (h : scanFiles files given analyzers o paths = .ok (r, notes)) :
    ∃ outcomes, Gathered paths outcomes ∧ r = resultOf outcomes := by
  cases htable : tableFor files given o with
  | error e =>
      rw [scanFiles, htable] at h
      cases h
  | ok loaded =>
      obtain ⟨table, notes⟩ := loaded
      have hfst : (scanFiles files given analyzers o paths).map Prod.fst = _ :=
        map_fst_scanFiles htable paths
      rw [h] at hfst
      exact gathered_of_map_outcomesFrom hfst.symm

theorem gathered_of_ends {paths : List Path}
    (h : Ends files given analyzers o paths (.ok r)) :
    ∃ outcomes, Gathered paths outcomes ∧ r = resultOf outcomes := by
  generalize hr : Except.ok r = ending at h
  cases h with
  | noTable hloads => cases hr
  | alone hloads hfew => exact gathered_of_map_outcomesFrom hr.symm
  | @shared table loaded s ending hloads hworkers hseveral hreachable hended =>
      cases ending with
      | error e => cases hr
      | ok outcomes =>
          cases hr
          exact ⟨outcomes, (Pool.filed_of_reachable hreachable).gathered hended, rfl⟩

theorem exists_blocks {outcomes : List Outcome} {front : List Path}
    (h : List.Forall₂ Outcome.IsOf outcomes front) :
    ∃ blocks : List (String × List Issue), blocks.map Prod.fst = front.map Path.toText ∧
      (∀ b ∈ blocks, ∀ i ∈ b.2, i.file = b.1) ∧
      (resultOf outcomes).issues = blocks.flatMap Prod.snd := by
  induction h with
  | nil => exact ⟨[], rfl, by simp, rfl⟩
  | @cons outcome path outcomes front hof _ ih =>
      obtain ⟨blocks, hfiles, hblocks, hissues⟩ := ih
      refine ⟨(path.toText, outcome.issues.getD []) :: blocks, by simp [hfiles], ?_, ?_⟩
      · intro b hb i hi
        rcases List.mem_cons.mp hb with rfl | hb
        · cases houtcome : outcome.issues with
          | none => simp [houtcome] at hi
          | some issues =>
              rw [houtcome] at hi
              exact hof issues houtcome i hi
        · exact hblocks b hb i hi
      · rw [List.flatMap_cons, ← hissues]
        cases houtcome : outcome.issues <;> simp [resultOf, houtcome]

/-- What a scan of a folder can end with, its files being scanned by one worker or by several. -/
theorem gathered_of_scan {root : Path} {entries : List (String × FileTree)}
    (hroot : files.stat root = .ok (.folder entries))
    (h : (∃ notes, scan files given analyzers o root = .ok (r, notes)) ∨
      EndsAt files given analyzers o root (.ok r)) :
    ∃ outcomes, Gathered (listFiles files o root) outcomes ∧ r = resultOf outcomes := by
  have hfile : files.isFile root = false := by rw [FileSystem.isFile, hroot]
  have hfolder : files.isFolder root = true := by rw [FileSystem.isFolder, hroot]
  rcases h with ⟨notes, hscan⟩ | hends
  · rw [scan, hfile, hfolder, if_neg Bool.false_ne_true, if_pos rfl] at hscan
    exact gathered_of_scanFiles hscan
  · cases hends with
    | file hisFile _ => simp [hfile] at hisFile
    | folder _ hends => exact gathered_of_ends hends

end Ends

/-- A sorted result holds the same issues by file, line and column, those at one place in the order
they had, and counts the same; sorting it again changes nothing.  The issues of a scan of a folder
stand in blocks already, one for each file at the front of the listing and in the order of the
files, and sorting turns to each block on its own. -/
theorem sorted_within_files :
    (∀ r : ScanResult,
      r.sorted.issues.Perm r.issues ∧
      (r.sorted.issues.Pairwise fun i j ↦ i.sortKey ≤ j.sortKey) ∧
      (∀ file line column,
        (r.sorted.issues.filter fun i ↦ i.file = file ∧ i.line = line ∧ i.column = column) =
          r.issues.filter fun i ↦ i.file = file ∧ i.line = line ∧ i.column = column) ∧
      r.sorted.sorted = r.sorted ∧ r.sorted.scanned = r.scanned ∧ r.sorted.summary = r.summary ∧
      r.sorted.withIssues = r.withIssues) ∧
    ∀ (files : Store) (given : Option Table) (analyzers : List Analyzer) (o : Options)
      (root : Path) (entries : List (String × FileTree)) (r : ScanResult),
      files.WellFormed → files.stat root = .ok (.folder entries) →
      (∃ notes, scan files given analyzers o root = .ok (r, notes)) ∨
        EndsAt files given analyzers o root (.ok r) →
      (r.issues.Pairwise fun i j ↦ i.file ≤ j.file) ∧
      ∃ blocks : List (String × List Issue),
        blocks.map Prod.fst <+: (listFiles files o root).map Path.toText ∧
        (blocks.map Prod.fst).Pairwise (· < ·) ∧
        (∀ b ∈ blocks, ∀ i ∈ b.2, i.file = b.1) ∧
        r.issues = blocks.flatMap Prod.snd ∧
        r.sorted.issues = blocks.flatMap fun b ↦ b.2.mergeSort Issue.le := by
  constructor
  · intro r
    have hperm := r.sorted_perm
    refine ⟨hperm, pairwise_sortKey_mergeSort r.issues, ?_, r.sorted_sorted, rfl,
      ScanResult.summary_eq_of_perm hperm, ScanResult.withIssues_eq_of_perm hperm⟩
    intro file line column
    have hkey : ∀ i : Issue, (i.file = file ∧ i.line = line ∧ i.column = column) ↔
        i.sortKey = toLex (file, toLex (line, column)) := by
      intro i
      rw [Issue.sortKey, Issue.place, toLex_inj, Prod.mk.injEq, toLex_inj, Prod.mk.injEq]
    simp only [hkey]
    exact filter_sortKey_mergeSort r.issues _
  · intro files given analyzers o root entries r hwf hroot hscan
    obtain ⟨outcomes, ⟨front, hfront, houtcomes⟩, rfl⟩ := gathered_of_scan hroot hscan
    obtain ⟨blocks, hfiles, hblocks, hissues⟩ := exists_blocks houtcomes
    have hprefix : blocks.map Prod.fst <+: (listFiles files o root).map Path.toText := by
      rw [hfiles]
      exact hfront.map Path.toText
    have hsorted := (pairwise_toText_listFiles hwf o hroot).sublist hprefix.sublist
    have hin : InBlocks blocks := ⟨hsorted, hblocks⟩
    refine ⟨?_, blocks, hprefix, hsorted, hblocks, hissues, ?_⟩
    · rw [hissues]
      exact hin.pairwise_file
    · rw [ScanResult.sorted, hissues]
      exact hin.mergeSort_flatMap

/-- In each of the two files two chained pseudo-classes are found from right to left.  A hyphen
stands before a slash. -/
theorem sorted_within_files_chained :
    let web (sheet : List UInt8) : FileTree :=
      .folder [("a", .folder [("c.css", .file sheet)]), ("a-b.css", .file sheet)]
    let folder (sheet : List UInt8) : Store :=
      { top := .folder [("web", web sheet)], document := Yaml.read }
    let files := folder "a:has(b):focus-visible{}".toUTF8.toList
    let o : Options := { Options.default with excludePatterns := [], level := .widely }
    ∃ r notes, scan files none Analyzer.all o (.ofText "web") = .ok (r, notes) ∧
      r.issues.map (fun i ↦ (i.file, i.column)) =
        [("web/a-b.css", 9), ("web/a-b.css", 2), ("web/a/c.css", 9), ("web/a/c.css", 2)] ∧
      (r.issues.Pairwise fun i j ↦ i.file ≤ j.file) ∧ r.sorted.withIssues = r.withIssues ∧
      r.sorted.sorted = r.sorted := by
  intro web folder files o
  have hlist : ∀ sheet, listFiles (folder sheet) o (.ofText "web") =
      [.ofText "web/a-b.css", .ofText "web/a/c.css"] := by
    intro sheet
    cbv
  have hfirst : ∀ sheet, (folder sheet).readBytes (.ofText "web/a-b.css") = .ok sheet := by
    intro sheet
    cbv
  have hsecond : ∀ sheet, (folder sheet).readBytes (.ofText "web/a/c.css") = .ok sheet := by
    intro sheet
    cbv
  have hroot : ∀ sheet, (folder sheet).stat (.ofText "web") = .ok (web sheet) := by
    intro sheet
    cbv
  have hwf : files.WellFormed := by
    refine .folder (by decide) (by simp [FileTree.ValidName]) ?_
    simp only [List.mem_singleton, forall_eq]
    refine .folder (by decide) (by simp [FileTree.ValidName]) ?_
    simp only [List.mem_cons, List.not_mem_nil, or_false, forall_eq_or_imp, forall_eq]
    exact ⟨.folder (by decide) (by simp [FileTree.ValidName]) (by simpa using .file _), .file _⟩
  have hopens : ∀ p ∈ listFiles files o (.ofText "web"), Opens Analyzer.all p := by
    rw [hlist]
    have hnul : ∀ p ∈ [Path.ofText "web/a-b.css", Path.ofText "web/a/c.css"],
        '\x00' ∉ p.toText.toList := by decide
    exact fun p hp ↦ Or.inr (hnul p hp)
  have htable : tableFor files none o = .ok (Table.bundled, []) := rfl
  obtain ⟨notes, hfiles⟩ := scanFiles_of_opens files Table.bundled rfl htable hopens
  generalize hr : resultFrom Analyzer.all Table.bundled o.level files.readBytes
    (listFiles files o (.ofText "web")) = r at hfiles
  have hscan : scan files none Analyzer.all o (.ofText "web") = .ok (r, notes) := by
    rw [scan, FileSystem.isFile, FileSystem.isFolder, hroot]
    exact hfiles
  obtain ⟨hall, hfolder⟩ := sorted_within_files
  obtain ⟨hsorted, -⟩ := hfolder files none Analyzer.all o _ _ r hwf (hroot _) (.inl ⟨notes, hscan⟩)
  obtain ⟨-, -, -, hagain, -, -, hcount⟩ := hall r
  refine ⟨r, notes, hscan, ?_, hsorted, hcount, hagain⟩
  simp only [← hr, resultFrom, hlist, List.flatMap_cons, List.flatMap_nil, List.append_nil, files,
    hfirst, hsecond]
  decide +kernel

end Scan

end WebBaseline

import WebBaseline.Proofs.Lists
import WebBaseline.Proofs.Options
import WebBaseline.Proofs.Scan.Listing
import WebBaseline.Proofs.Scan.Pool

/-!
# Scans of a root

A scan of a list of files stops short only at a path with a NUL in it.  No entry of a folder has
such a name, so a scan of a root without one opens all its files and fails only for want of a table
or of the root itself.  What it finds depends neither on the number of workers nor on the notes it
is to keep, and where it finds an issue it has scanned a file.
-/

namespace WebBaseline

namespace Path

/-- No name of the path holds a NUL. -/
structure NulFree (p : Path) : Prop where
  root : '\x00' ∉ p.root.toList
  parts : ∀ n ∈ p.parts, '\x00' ∉ n.toList

theorem NulFree.below {p : Path} (h : p.NulFree) {names : List String}
    (hnames : ∀ n ∈ names, '\x00' ∉ n.toList) : (p.below names).NulFree where
  root := h.root
  parts n hn := (List.mem_append.mp hn).elim (h.parts n) (hnames n)

theorem NulFree.toText {p : Path} (h : p.NulFree) : '\x00' ∉ p.toText.toList := by
  rw [Path.toText]
  split
  · decide
  · rw [String.toList_append, String.toList_intercalate, List.mem_append, not_or]
    refine ⟨h.root, not_mem_intercalate (by decide) fun l hl ↦ ?_⟩
    obtain ⟨n, hn, rfl⟩ := List.mem_map.mp hl
    exact h.parts n hn

/-- The pieces of a text are made of its characters. -/
theorem mem_of_mem_splitSlash {cs current piece : List Char} (h : piece ∈ splitSlash cs current)
    {c : Char} (hc : c ∈ piece) : c ∈ cs ∨ c ∈ current := by
  fun_induction splitSlash cs current with
  | case1 current =>
      rw [List.mem_singleton.mp h] at hc
      exact Or.inr (List.mem_reverse.mp hc)
  | case2 current rest ih =>
      rcases List.mem_cons.mp h with rfl | h
      · exact Or.inr (List.mem_reverse.mp hc)
      · exact Or.inl (List.mem_cons_of_mem _ ((ih h).resolve_right List.not_mem_nil))
  | case3 current d rest hslash ih =>
      rcases ih h with hrest | hcurrent
      · exact Or.inl (List.mem_cons_of_mem _ hrest)
      · rcases List.mem_cons.mp hcurrent with rfl | hcurrent
        · exact Or.inl List.mem_cons_self
        · exact Or.inr hcurrent

theorem nulFree_ofText {s : String} (h : '\x00' ∉ s.toList) : (ofText s).NulFree where
  root := by
    simp only [ofText]
    unfold rootOf
    split <;> decide
  parts n hn hnul := by
    obtain ⟨piece, hpiece, rfl⟩ := List.mem_map.mp (List.mem_of_mem_filter hn)
    rw [String.toList_ofList] at hnul
    exact h ((mem_of_mem_splitSlash hpiece hnul).resolve_right List.not_mem_nil)

end Path

namespace FileTree

/-- No entry at or below the tree has a NUL in its name. -/
def NulFree (t : FileTree) : Prop :=
  ∀ names u, t.Leads names u → ∀ n ∈ names, '\x00' ∉ n.toList

theorem NulFree.of_mem {entries : List (String × FileTree)} (h : NulFree (.folder entries)) :
    ∀ e ∈ entries, e.2.NulFree :=
  fun e he names u hleads n hn ↦
    h (e.1 :: names) u (.inside he hleads) n (List.mem_cons_of_mem _ hn)

theorem nulFree_file (bytes : List UInt8) : NulFree (.file bytes) := by
  intro names u h n hn
  cases h
  simp at hn

theorem nulFree_folder {entries : List (String × FileTree)}
    (hnames : ∀ e ∈ entries, '\x00' ∉ e.1.toList) (hbelow : ∀ e ∈ entries, e.2.NulFree) :
    NulFree (.folder entries) := by
  intro names u h n hn
  cases h with
  | here => simp at hn
  | inside mem rest =>
      rcases List.mem_cons.mp hn with rfl | hn
      · exact hnames _ mem
      · exact hbelow _ mem _ u rest n hn

end FileTree

namespace FileSystem

def NulFree (files : FileSystem) : Prop := files.top.NulFree

theorem nulFree_of_stat {files : FileSystem} {p : Path} {t : FileTree} (hfiles : files.NulFree)
    (h : files.stat p = .ok t) : t.NulFree :=
  FileTree.inherited_of_walk hfiles FileTree.NulFree.of_mem h (by simp)

end FileSystem

namespace Scan

theorem exists_names_of_mem_listFiles {files : FileSystem} {o : Options} {root path : Path}
    (h : path ∈ listFiles files o root) :
    ∃ entries names u, files.stat root = .ok (.folder entries) ∧
      (FileTree.folder entries).Leads names u ∧ path = root.below names := by
  simp only [listFiles, Search.run, searchFor] at h
  split at h
  · rename_i entries hroot
    obtain ⟨found, hfound, rfl⟩ := List.mem_map.mp h
    rw [List.mem_mergeSort, (Search.gather_perm _ _ _).mem_iff] at hfound
    simp only [List.nil_append, List.flatMap_cons, List.flatMap_nil, List.append_nil,
      List.mem_map] at hfound
    obtain ⟨names, hnames, rfl⟩ := hfound
    obtain ⟨u, hleads, -⟩ := (Search.mem_wantedIn (searchFor_sound files o root) entries names).mp
      hnames
    exact ⟨entries, names, u, hroot, hleads, rfl⟩
  · simp at h

theorem nulFree_of_mem_listFiles {files : FileSystem} (hfiles : files.NulFree) {o : Options}
    {root path : Path} (hroot : root.NulFree) (h : path ∈ listFiles files o root) :
    path.NulFree := by
  obtain ⟨entries, names, u, hstat, hleads, rfl⟩ := exists_names_of_mem_listFiles h
  exact hroot.below (FileSystem.nulFree_of_stat hfiles hstat names u hleads)

variable {files : Store} {given : Option Table} {analyzers : List Analyzer} {o : Options}
  {root : Path}

theorem error_of_scanFiles (hcancel : o.cancel = none) {paths : List Path}
    (hopens : ∀ p ∈ paths, Opens analyzers p) {e : ScanError}
    (h : scanFiles files given analyzers o paths = .error e) :
    ∃ cause, tableFor files given o = .error cause ∧ e = .table cause := by
  cases htable : tableFor files given o with
  | error cause =>
      rw [scanFiles, htable] at h
      cases h
      exact ⟨cause, rfl, rfl⟩
  | ok loaded =>
      obtain ⟨table, notes⟩ := loaded
      obtain ⟨more, hscan⟩ := scanFiles_of_opens files table hcancel htable hopens
      simp [hscan] at h

/-- A scan that is not stopped fails only for want of a table or of a root. -/
theorem error_of_scan (hfiles : files.NulFree) (hroot : root.NulFree) (hcancel : o.cancel = none)
    {e : ScanError} (h : scan files given analyzers o root = .error e) :
    (∃ cause, tableFor files given o = .error cause ∧ e = .table cause) ∨
      e = .options (.rootMissing root) := by
  rw [scan] at h
  split at h
  · refine Or.inl (error_of_scanFiles hcancel (fun p hp ↦ ?_) h)
    obtain rfl := List.mem_singleton.mp hp
    exact Or.inr hroot.toText
  · split at h
    · refine Or.inl (error_of_scanFiles hcancel (fun p hp ↦ ?_) h)
      exact Or.inr (nulFree_of_mem_listFiles hfiles hroot hp).toText
    · cases h
      exact Or.inr rfl

/-! ### The result of a scan -/

theorem issues_resultOf_of_scanned_eq_zero {outcomes : List Outcome}
    (h : (resultOf outcomes).scanned = 0) : (resultOf outcomes).issues = [] := by
  have hnil : outcomes.filterMap (·.issues) = [] := List.length_eq_zero_iff.mp h
  simp [resultOf, hnil]

theorem exists_outcomes_of_scanFiles {paths : List Path} {r : ScanResult} {notes : List LogRecord}
    (h : scanFiles files given analyzers o paths = .ok (r, notes)) :
    ∃ outcomes, r = resultOf outcomes := by
  have hfst := congrArg (Except.map Prod.fst) h
  cases htable : tableFor files given o with
  | error e =>
      rw [scanFiles, htable] at h
      simp at h
  | ok loaded =>
      obtain ⟨table, notes⟩ := loaded
      rw [map_fst_scanFiles htable] at hfst
      cases houtcomes : outcomesFrom files analyzers table o 0 paths with
      | error e => simp [houtcomes, Except.map] at hfst
      | ok found =>
          simp only [houtcomes, Except.map, Except.ok.injEq] at hfst
          exact ⟨found.1, hfst.symm⟩

/-- Where an issue was found, a file was scanned. -/
theorem issues_eq_nil_of_scan {r : ScanResult} {notes : List LogRecord}
    (h : scan files given analyzers o root = .ok (r, notes)) (hzero : r.scanned = 0) :
    r.issues = [] := by
  have houtcomes : ∃ outcomes, r = resultOf outcomes := by
    rw [scan] at h
    split at h
    · exact exists_outcomes_of_scanFiles h
    · split at h
      · exact exists_outcomes_of_scanFiles h
      · simp at h
  obtain ⟨outcomes, rfl⟩ := houtcomes
  exact issues_resultOf_of_scanned_eq_zero hzero

/-- Neither the number of workers nor the wish for notes changes what a scan finds. -/
theorem map_fst_scan_of_core {o' : Options} (hcore : o.core = o'.core) (hcancel : o.cancel = none)
    (files : Store) (given : Option Table) (analyzers : List Analyzer) (root : Path) :
    (scan files given analyzers o root).map Prod.fst =
      (scan files given analyzers o' root).map Prod.fst := by
  simp only [Options.core, Options.mk.injEq, true_and] at hcore
  obtain ⟨hincluding, hexcluding, hlevel, hfeatures, hcancels⟩ := hcore
  have hcancel' : o'.cancel = none := hcancels ▸ hcancel
  have hprunes : o.prunes = o'.prunes := by
    funext relative
    simp only [Options.prunes, hexcluding]
  have hselects : o.selects = o'.selects := by
    funext relative
    simp only [Options.selects, hincluding, hexcluding]
  have hlist : listFiles files o root = listFiles files o' root := by
    simp only [listFiles, searchFor, hprunes, hselects]
  have hfiles := map_fst_scanFiles_congr files given analyzers hcancel hcancel' hlevel hfeatures
  simp only [scan, hlist]
  split
  · exact hfiles _
  · split
    · exact hfiles _
    · rfl

/-! ### Scans with several workers -/

theorem not_isFolder_of_isFile (h : files.isFile root = true) : files.isFolder root = false := by
  unfold FileSystem.isFile at h
  unfold FileSystem.isFolder
  split at h
  · rename_i bytes hstat
    rw [hstat]
  · simp at h

theorem endsAt_iff (hcancel : o.cancel = none) (hworkers : 1 ≤ o.workers)
    (r : Except ScanError ScanResult) :
    EndsAt files given analyzers o root r ↔
      r = (scan files given analyzers o root).map Prod.fst := by
  have hends := ends_iff files given analyzers hcancel hworkers
  rw [scan]
  split
  · rename_i hfile
    rw [← hends]
    constructor
    · rintro (⟨-, hr⟩ | ⟨hfolder, -⟩ | ⟨hnot, -⟩)
      · exact hr
      · simp [not_isFolder_of_isFile hfile] at hfolder
      · simp [hfile] at hnot
    · exact .file hfile
  · rename_i hfile
    split
    · rename_i hfolder
      rw [← hends]
      constructor
      · rintro (⟨htrue, -⟩ | ⟨-, hr⟩ | ⟨-, hnot⟩)
        · exact absurd htrue hfile
        · exact hr
        · simp [hfolder] at hnot
      · exact .folder hfolder
    · rename_i hfolder
      constructor
      · rintro (⟨htrue, -⟩ | ⟨htrue, -⟩ | -)
        · exact absurd htrue hfile
        · exact absurd htrue hfolder
        · rfl
      · rintro rfl
        exact .missing (by simpa using hfile) (by simpa using hfolder)

end Scan

end WebBaseline

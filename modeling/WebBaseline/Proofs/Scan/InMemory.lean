import WebBaseline.Proofs.Path
import WebBaseline.Proofs.Scan.Root
import WebBaseline.Proofs.Text.Utf8

/-!
# Files and texts in memory

A text that is analyzed as the content of a file and the file that holds this text go through
different functions.  They come to the same: a file that holds the encoding of a text has the
issues of the text with its line ends unified.
-/

namespace WebBaseline

namespace FileTree

variable {top : FileTree} (htop : top.NulFree)

include htop

theorem nulFree_headD {above : List FileTree} (h : ∀ u ∈ above, u.NulFree) :
    (above.headD top).NulFree := by
  cases above with
  | nil => exact htop
  | cons u above => exact h u List.mem_cons_self

/-- A walk that comes to its end has found each of its names in a folder. -/
theorem nulFree_of_walk {links : Nat} {above : List FileTree} {names : List String}
    {t : FileTree} (h : walk top links above names = .ok t) (habove : ∀ u ∈ above, u.NulFree) :
    ∀ n ∈ names, '\x00' ∉ n.toList := by
  fun_induction walk top links above names with
  | case1 links above => simp
  | case2 links above name rest entries hfolder hdot ih =>
      intro n hn
      rcases List.mem_cons.mp hn with rfl | hn
      · simp only [Bool.or_eq_true, decide_eq_true_eq] at hdot
        rcases hdot with rfl | rfl <;> decide
      · exact ih h habove n hn
  | case3 links above rest entries hfolder hdot ih =>
      intro n hn
      rcases List.mem_cons.mp hn with rfl | hn
      · decide
      · exact ih h (fun u hu ↦ habove u (List.mem_of_mem_tail hu)) n hn
  | case6 above name rest entries hfolder hdot hup target hfind left start ih =>
      intro n hn
      have hentries := hfolder ▸ nulFree_headD htop habove
      rcases List.mem_cons.mp hn with rfl | hn
      · exact hentries [n] _ (.inside (mem_of_find? hfind) (.here _)) n List.mem_cons_self
      · refine ih h (fun u hu ↦ ?_) n (List.mem_append_right _ hn)
        by_cases habs : (Path.ofText target).isAbsolute
        · simp [start, habs] at hu
        · exact habove u (by simpa [start, habs] using hu)
  | case7 links above name rest entries hfolder hdot hup t hlink hfind ih =>
      intro n hn
      have hentries := hfolder ▸ nulFree_headD htop habove
      have hmem := mem_of_find? hfind
      rcases List.mem_cons.mp hn with rfl | hn
      · exact hentries [n] _ (.inside hmem (.here _)) n List.mem_cons_self
      · refine ih h (fun u hu ↦ ?_) n hn
        rcases List.mem_cons.mp hu with rfl | hu
        · exact hentries.of_mem _ hmem
        · exact habove u hu
  | _ => simp at h

end FileTree

/-- No file has a path with a NUL in it. -/
theorem FileSystem.nul_not_mem_of_readBytes {files : FileSystem} (hfiles : files.NulFree)
    {path : Path} (hpath : path.Canonical) {bytes : List UInt8}
    (h : files.readBytes path = .ok bytes) : '\x00' ∉ path.toText.toList := by
  have hstat : ∃ t, files.stat path = .ok t := by
    rw [readBytes] at h
    split at h
    · exact ⟨_, by assumption⟩
    · simp at h
    · simp at h
  obtain ⟨t, hstat⟩ := hstat
  have hnames := FileTree.nulFree_of_walk hfiles hstat (by simp)
  refine Path.NulFree.toText ⟨?_, fun n hn ↦ hnames n ?_⟩
  · obtain hroot | hroot | hroot := hpath.root <;>
      · rw [hroot]
        decide
  · unfold namesOf
    split
    · exact hn
    · exact List.mem_append_right _ hn

namespace Scan

theorem textOf?_toUTF8 (c : String) : textOf? (.ok c.toUTF8.toList) = some (Text.unified c) := by
  rw [textOf?, Text.decode?_toUTF8]
  rfl

/-- A scan of one file that can be read gives what its analyzer makes of its text. -/
theorem scanFiles_singleton {files : Store} {given : Option Table} {analyzers : List Analyzer}
    {o : Options} (hcancel : o.cancel = none) {table : Table} {loaded : List LogRecord}
    (htable : tableFor files given o = .ok (table, loaded)) {path : Path}
    (hnul : '\x00' ∉ path.toText.toList) {analyzer : Analyzer}
    (hanalyzer : Analyzer.forPath analyzers path = some analyzer) {text : String}
    (htext : textOf? (files.readBytes path) = some text) :
    ∃ notes, scanFiles files given analyzers o [path] =
      .ok ({ issues := ((analyzer.analyze text path.toText table o.level).map Prod.fst).getD []
             scanned := 1 }, notes) := by
  have hopens : ∀ q ∈ [path], Opens analyzers q := by
    intro q hq
    rw [List.mem_singleton.mp hq]
    exact Or.inr hnul
  obtain ⟨notes, hscan⟩ := scanFiles_of_opens files table hcancel htable hopens
  have hscanned : isScanned analyzers path (files.readBytes path) = true := by
    rw [isScanned, hanalyzer, htext]
    rfl
  refine ⟨notes, hscan.trans ?_⟩
  simp [resultFrom, hscanned, blockOf_eq_analyze hanalyzer htext]

/-- A text in memory is analyzed by the analyzer of its path, with the table of the options. -/
theorem analyzeText_toText {files : Store} {given : Option Table} {analyzers : List Analyzer}
    {o : Options} {table : Table} {loaded : List LogRecord}
    (htable : tableFor files given o = .ok (table, loaded)) {path : Path} (hpath : path.Canonical)
    {analyzer : Analyzer} (hanalyzer : Analyzer.forPath analyzers path = some analyzer)
    (text : String) :
    analyzeText files given analyzers o path.toText text =
      .ok ((analyzer.analyze text path.toText table o.level).map fun found ↦
        (found.1, loaded ++ found.2)) := by
  rw [analyzeText, Path.ofText_toText hpath, hanalyzer, htable]

/-- A file that holds the encoding of a text is scanned, and its issues are those of the text with
its line ends unified, analyzed in memory under the path of the file; there are none where that
analysis fails.  A text without carriage returns can be analyzed as it is. -/
theorem scanFiles_eq_analyzeText {files : Store} (hfiles : files.NulFree)
    {given : Option Table} {analyzers : List Analyzer} {o : Options} (hcancel : o.cancel = none)
    {table : Table} {loaded : List LogRecord}
    (htable : tableFor files given o = .ok (table, loaded)) {p : String}
    (hhandled : (Analyzer.forPath analyzers (.ofText p)).isSome = true) {c : String}
    (hbytes : files.readBytes (.ofText p) = .ok c.toUTF8.toList) :
    ∃ answer notes,
      analyzeText files given analyzers o (Path.ofText p).toText (Text.unified c) = .ok answer ∧
      scanFiles files given analyzers o [.ofText p] =
        .ok ({ issues := (answer.map Prod.fst).getD [], scanned := 1 }, notes) ∧
      ('\r' ∉ c.toList →
        analyzeText files given analyzers o (Path.ofText p).toText c = .ok answer) := by
  obtain ⟨analyzer, hanalyzer⟩ := Option.isSome_iff_exists.mp hhandled
  have hnul := FileSystem.nul_not_mem_of_readBytes hfiles (Path.canonical_ofText p) hbytes
  have htext : textOf? (files.readBytes (.ofText p)) = some (Text.unified c) := by
    rw [hbytes, textOf?_toUTF8]
  obtain ⟨notes, hscan⟩ := scanFiles_singleton hcancel htable hnul hanalyzer htext
  have hmemory := analyzeText_toText htable (Path.canonical_ofText p) hanalyzer
  refine ⟨_, notes, hmemory (Text.unified c), ?_, ?_⟩
  · rw [hscan, Option.map_map]
    rfl
  · intro hreturn
    rw [hmemory, Text.unified_of_not_mem hreturn]

/-- The file is named by a roundabout path, and its lines end in carriage returns. -/
theorem scanFiles_eq_analyzeText_returned :
    let text : String := "<p>\r\n\r<fencedframe>"
    let folder (bytes : List UInt8) : Store :=
      { top := .folder [("a.html", .file bytes)], document := Yaml.read }
    let files := folder text.toUTF8.toList
    files.NulFree ∧ (Analyzer.forPath Analyzer.all (.ofText ".//a.html")).isSome = true ∧
      files.readBytes (.ofText ".//a.html") = .ok text.toUTF8.toList ∧
      ∃ answer notes,
        analyzeText files none Analyzer.all .default "a.html" "<p>\n\n<fencedframe>" =
          .ok answer ∧
        scanFiles files none Analyzer.all .default [.ofText ".//a.html"] =
          .ok ({ issues := (answer.map Prod.fst).getD [], scanned := 1 }, notes) := by
  intro text folder files
  have hfiles : files.NulFree := FileTree.nulFree_folder (by decide) (by
    intro e he
    rw [List.mem_singleton.mp he]
    exact FileTree.nulFree_file _)
  have hread : ∀ bytes, (folder bytes).readBytes (.ofText ".//a.html") = .ok bytes := by
    intro bytes
    cbv
  have hhandled : (Analyzer.forPath Analyzer.all (.ofText ".//a.html")).isSome = true := by
    decide +kernel
  have hcancel : Options.default.cancel = none := rfl
  have htable : tableFor files none .default = .ok (Table.bundled, []) := rfl
  refine ⟨hfiles, hhandled, hread _, ?_⟩
  obtain ⟨answer, notes, hmemory, hscan, -⟩ :=
    scanFiles_eq_analyzeText hfiles hcancel htable hhandled (hread _)
  have htext : Text.unified text = "<p>\n\n<fencedframe>" := by decide +kernel
  rw [htext] at hmemory
  exact ⟨answer, notes, hmemory, hscan⟩

end Scan

end WebBaseline

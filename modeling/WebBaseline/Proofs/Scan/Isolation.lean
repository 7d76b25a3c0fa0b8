import WebBaseline.Proofs.FileSystem
import WebBaseline.Scan
import WebBaseline.Yaml.Document

/-!
# Files of a scan do not disturb each other

What a scan finds is put together from one block of issues for each path.  `blockOf` makes the
block of a path from its bytes, the table and the level alone, whatever goes wrong with the file,
and `resultFrom` puts the blocks together.  A scan that nobody stops gives just that, unless it
comes upon a path that no file can have.
-/

namespace WebBaseline.Scan

/-! ### The block of a path -/

/-- The text of a file, if its bytes are to be had and encode one. -/
def textOf? : Except OsError (List UInt8) → Option String
  | .ok bytes => (Text.decode? bytes).map fun s ↦ String.ofList (Text.unifyNewlines s.toList)
  | .error _ => none

/-- Whether a path counts as scanned: an analyzer handles it, and its bytes are a text. -/
def isScanned (analyzers : List Analyzer) (path : Path) (bytes : Except OsError (List UInt8)) :
    Bool :=
  (Analyzer.forPath analyzers path).isSome && (textOf? bytes).isSome

/-- The issues of a path.  There are none without an analyzer or a text, and none if the analyzer
does not come to its end, whatever uses it has found before. -/
def blockOf (analyzers : List Analyzer) (table : Table) (level : Level) (path : Path)
    (bytes : Except OsError (List UInt8)) : List Issue :=
  match Analyzer.forPath analyzers path, textOf? bytes with
  | some analyzer, some text =>
      match analyzer.detect text path.toText with
      | { uses, ending := .complete } =>
          Report.issues analyzer.language path.toText table level uses
      | { ending := .malformed _, .. } => []
      | { ending := .failed, .. } => []
  | _, _ => []

/-- The blocks of a list of paths one after the other, and the number of paths that are scanned. -/
def resultFrom (analyzers : List Analyzer) (table : Table) (level : Level)
    (bytesOf : Path → Except OsError (List UInt8)) (paths : List Path) : ScanResult :=
  { issues := paths.flatMap fun p ↦ blockOf analyzers table level p (bytesOf p)
    scanned := paths.countP fun p ↦ isScanned analyzers p (bytesOf p) }

theorem resultFrom_append (analyzers : List Analyzer) (table : Table) (level : Level)
    (bytesOf : Path → Except OsError (List UInt8)) (xs ys : List Path) :
    resultFrom analyzers table level bytesOf (xs ++ ys) =
      { issues := (resultFrom analyzers table level bytesOf xs).issues ++
          (resultFrom analyzers table level bytesOf ys).issues
        scanned := (resultFrom analyzers table level bytesOf xs).scanned +
          (resultFrom analyzers table level bytesOf ys).scanned } := by
  simp [resultFrom, List.countP_append]

theorem blockOf_of_not_scanned {analyzers : List Analyzer} {path : Path}
    {bytes : Except OsError (List UInt8)} (h : isScanned analyzers path bytes = false)
    (table : Table) (level : Level) : blockOf analyzers table level path bytes = [] := by
  simp only [isScanned, Bool.and_eq_false_iff, Option.isSome_eq_false_iff,
    Option.isNone_iff_eq_none] at h
  rcases h with h | h <;> simp [blockOf, h]

/-- A block holds what the analyzer makes of the text, and nothing if the analyzer failed. -/
theorem blockOf_eq_analyze {analyzers : List Analyzer} {path : Path} {analyzer : Analyzer}
    (hanalyzer : Analyzer.forPath analyzers path = some analyzer)
    {bytes : Except OsError (List UInt8)} {text : String} (htext : textOf? bytes = some text)
    (table : Table) (level : Level) :
    blockOf analyzers table level path bytes =
      ((analyzer.analyze text path.toText table level).map Prod.fst).getD [] := by
  simp only [blockOf, hanalyzer, htext, Analyzer.analyze]
  obtain ⟨uses, ending⟩ := analyzer.detect text path.toText
  cases ending <;> rfl

/-! ### Scanning one file -/

section Reading

variable {files : FileSystem} {path : Path} (hnul : '\x00' ∉ path.toText.toList)

include hnul

theorem readText_of_text {text : String} (h : textOf? (files.readBytes path) = some text) :
    files.readText path = .ok text := by
  rw [FileSystem.readText, if_neg (by simpa using hnul)]
  cases hbytes : files.readBytes path with
  | error e => simp [hbytes, textOf?] at h
  | ok bytes =>
      simp only [hbytes, textOf?, Option.map_eq_some_iff] at h
      obtain ⟨s, hdecode, rfl⟩ := h
      simp [hdecode]

theorem readText_of_no_text (h : textOf? (files.readBytes path) = none) :
    ∃ e, e ≠ .nulInPath ∧ files.readText path = .error e := by
  rw [FileSystem.readText, if_neg (by simpa using hnul)]
  cases hbytes : files.readBytes path with
  | error e => exact ⟨.os e, by simp, rfl⟩
  | ok bytes =>
      simp only [hbytes, textOf?, Option.map_eq_none_iff] at h
      exact ⟨.undecodable, by simp, by simp [h]⟩

end Reading

/-- A path that the system can be asked for, or that is not asked for. -/
def Opens (analyzers : List Analyzer) (path : Path) : Prop :=
  Analyzer.forPath analyzers path = none ∨ '\x00' ∉ path.toText.toList

section Scanning

variable (files : Store) {analyzers : List Analyzer} (table : Table) {o : Options}

/-- What a scan notes of a path in its outcome. -/
def issues? (files : FileSystem) (analyzers : List Analyzer) (table : Table) (level : Level)
    (path : Path) : Option (List Issue) :=
  if isScanned analyzers path (files.readBytes path) then
    some (blockOf analyzers table level path (files.readBytes path))
  else none

theorem scanFile_of_opens (o : Options) {path : Path} (h : Opens analyzers path) :
    ∃ notes, scanFile files analyzers table o path =
      .ok { issues := issues? files analyzers table o.level path, notes } := by
  unfold scanFile
  cases hanalyzer : Analyzer.forPath analyzers path with
  | none => exact ⟨[], by simp [issues?, isScanned, hanalyzer]⟩
  | some analyzer =>
      have hnul : '\x00' ∉ path.toText.toList := h.resolve_left (by simp [hanalyzer])
      cases htext : textOf? (files.readBytes path) with
      | none =>
          obtain ⟨e, he, hread⟩ := readText_of_no_text hnul htext
          cases e with
          | nulInPath => exact absurd rfl he
          | os e => exact ⟨_, by rw [hread, issues?, isScanned, htext]; simp; rfl⟩
          | undecodable => exact ⟨_, by rw [hread, issues?, isScanned, htext]; simp; rfl⟩
      | some text =>
          have hissues : issues? files analyzers table o.level path =
              some (((analyzer.analyze text path.toText table o.level).map Prod.fst).getD []) := by
            simp [issues?, isScanned, hanalyzer, htext, blockOf_eq_analyze hanalyzer htext]
          rw [readText_of_text hnul htext, hissues]
          cases hfound : analyzer.analyze text path.toText table o.level with
          | none =>
              simp only [hfound]
              exact ⟨_, rfl⟩
          | some found =>
              simp only [hfound]
              exact ⟨_, rfl⟩

theorem scanFile_of_not_opens (o : Options) {path : Path} (h : ¬ Opens analyzers path) :
    scanFile files analyzers table o path = .error .nulInPath := by
  obtain ⟨hhandled, hnul⟩ := not_or.mp h
  obtain ⟨analyzer, hanalyzer⟩ := Option.ne_none_iff_exists'.mp hhandled
  have hcontains : path.toText.toList.contains '\x00' = true := by
    simpa using Decidable.of_not_not hnul
  simp only [scanFile, hanalyzer, FileSystem.readText, hcontains, if_true]

/-! ### Scanning a list of files -/

variable (hcancel : o.cancel = none)

include hcancel

theorem outcomesFrom_of_opens {paths : List Path} (h : ∀ p ∈ paths, Opens analyzers p)
    (polls : Nat) :
    ∃ outcomes, outcomesFrom files analyzers table o polls paths = .ok (outcomes, []) ∧
      outcomes.map (·.issues) = paths.map (issues? files analyzers table o.level) := by
  induction paths generalizing polls with
  | nil => exact ⟨[], rfl, rfl⟩
  | cons path rest ih =>
      obtain ⟨notes, hfile⟩ := scanFile_of_opens files table o (h path (by simp))
      obtain ⟨more, hrest, hmore⟩ := ih (fun p hp ↦ h p (by simp [hp])) (polls + 1)
      refine ⟨{ issues := issues? files analyzers table o.level path, notes } :: more, ?_,
        by simp [hmore]⟩
      simp only [outcomesFrom, cancelled, hcancel, Bool.false_eq_true, if_false]
      rw [hfile, hrest]
      rfl

theorem outcomesFrom_of_not_opens {paths : List Path} (h : ¬ ∀ p ∈ paths, Opens analyzers p)
    (polls : Nat) : outcomesFrom files analyzers table o polls paths = .error .nulInPath := by
  induction paths generalizing polls with
  | nil => simp at h
  | cons path rest ih =>
      simp only [outcomesFrom, cancelled, hcancel, Bool.false_eq_true, if_false]
      by_cases hpath : Opens analyzers path
      · have hrest : ¬ ∀ p ∈ rest, Opens analyzers p := by
          intro hall
          refine h fun p hp ↦ ?_
          rcases List.mem_cons.mp hp with rfl | hp
          · exact hpath
          · exact hall p hp
        obtain ⟨notes, hfile⟩ := scanFile_of_opens files table o hpath
        rw [hfile, ih hrest]
        rfl
      · rw [scanFile_of_not_opens files table o hpath]
        rfl

omit hcancel in
/-- The outcomes of all paths give the blocks of all paths. -/
theorem resultOf_of_issues {outcomes : List Outcome} {level : Level} {paths : List Path}
    (h : outcomes.map (·.issues) = paths.map (issues? files analyzers table level)) :
    resultOf outcomes = resultFrom analyzers table level files.readBytes paths := by
  have hissues : outcomes.filterMap (·.issues) =
      paths.filterMap (issues? files analyzers table level) := by
    have hid := congrArg (List.filterMap id) h
    simpa [List.filterMap_map] using hid
  have hblocks : (paths.filterMap (issues? files analyzers table level)).flatten =
      paths.flatMap (fun p ↦ blockOf analyzers table level p (files.readBytes p)) ∧
      (paths.filterMap (issues? files analyzers table level)).length =
        paths.countP fun p ↦ isScanned analyzers p (files.readBytes p) := by
    clear h hissues
    induction paths with
    | nil => exact ⟨rfl, rfl⟩
    | cons path rest ih =>
        cases hscanned : isScanned analyzers path (files.readBytes path) with
        | false => simp [issues?, hscanned, blockOf_of_not_scanned hscanned] at ih ⊢; exact ih
        | true => simp [issues?, hscanned] at ih ⊢; exact ih
  rw [resultOf, resultFrom, hissues, hblocks.1, hblocks.2]

/-- A scan that is not stopped, of paths that the system can be asked for, gives the blocks of the
paths. -/
theorem scanFiles_of_opens {given : Option Table} {loaded : List LogRecord}
    (htable : tableFor files given o = .ok (table, loaded)) {paths : List Path}
    (h : ∀ p ∈ paths, Opens analyzers p) :
    ∃ notes, scanFiles files given analyzers o paths =
      .ok (resultFrom analyzers table o.level files.readBytes paths, notes) := by
  obtain ⟨outcomes, houtcomes, hissues⟩ := outcomesFrom_of_opens files table hcancel h 0
  rw [scanFiles, htable, ← resultOf_of_issues files table hissues]
  simp only [houtcomes]
  exact ⟨_, rfl⟩

theorem scanFiles_of_not_opens {given : Option Table} {loaded : List LogRecord}
    (htable : tableFor files given o = .ok (table, loaded)) {paths : List Path}
    (h : ¬ ∀ p ∈ paths, Opens analyzers p) :
    scanFiles files given analyzers o paths = .error .nulInPath := by
  rw [scanFiles, htable]
  simp only [outcomesFrom_of_not_opens files table hcancel h 0]
  rfl

end Scanning

theorem map_fst_scanFiles {files : Store} {given : Option Table} {analyzers : List Analyzer}
    {o : Options} {table : Table} {loaded : List LogRecord}
    (htable : tableFor files given o = .ok (table, loaded)) (paths : List Path) :
    (scanFiles files given analyzers o paths).map Prod.fst =
      (outcomesFrom files analyzers table o 0 paths).map fun found ↦ resultOf found.1 := by
  rw [scanFiles, htable]
  cases houtcomes : outcomesFrom files analyzers table o 0 paths with
  | error e => simp [houtcomes, bind, Except.bind, Except.map]
  | ok found => simp [houtcomes, bind, Except.bind, Except.map, pure, Except.pure]

/-- Of the options, a scan that is not stopped heeds the level and the table that they name. -/
theorem map_fst_scanFiles_congr (files : Store) (given : Option Table)
    (analyzers : List Analyzer) {o o' : Options} (hcancel : o.cancel = none)
    (hcancel' : o'.cancel = none) (hlevel : o.level = o'.level)
    (hfeatures : o.features = o'.features) (paths : List Path) :
    (scanFiles files given analyzers o paths).map Prod.fst =
      (scanFiles files given analyzers o' paths).map Prod.fst := by
  have htables : tableFor files given o = tableFor files given o' := by
    simp only [tableFor, hfeatures]
  cases htable : tableFor files given o' with
  | error e =>
      rw [htable] at htables
      simp only [scanFiles, htables, htable]
  | ok loaded =>
      obtain ⟨table, notes⟩ := loaded
      rw [htable] at htables
      by_cases hopens : ∀ p ∈ paths, Opens analyzers p
      · obtain ⟨_, h⟩ := scanFiles_of_opens files table hcancel htables hopens
        obtain ⟨_, h'⟩ := scanFiles_of_opens files table hcancel' htable hopens
        rw [h, h', hlevel]
        rfl
      · rw [scanFiles_of_not_opens files table hcancel htables hopens,
          scanFiles_of_not_opens files table hcancel' htable hopens]

/-- A scan that is not stopped always gives a result, and the result is made of blocks: each path
has a block of its own, which is what its analyzer makes of its text and follows from its bytes,
the table and the level, so the parts of a list of paths can be scanned apart.  Replacing the bytes
of a file changes the blocks of the paths that lead to this file and no other block. -/
theorem scanFiles_isolated {files : Store} {given : Option Table} {analyzers : List Analyzer}
    {o : Options} (hcancel : o.cancel = none) {table : Table} {loaded : List LogRecord}
    (htable : tableFor files given o = .ok (table, loaded)) {paths : List Path}
    (hpaths : ∀ p ∈ paths, '\x00' ∉ p.toText.toList) :
    (∃ notes, scanFiles files given analyzers o paths =
      .ok (resultFrom analyzers table o.level files.readBytes paths, notes)) ∧
    (∀ p analyzer text, Analyzer.forPath analyzers p = some analyzer →
      textOf? (files.readBytes p) = some text →
      blockOf analyzers table o.level p (files.readBytes p) =
        ((analyzer.analyze text p.toText table o.level).map Prod.fst).getD []) ∧
    (∀ xs ys, paths = xs ++ ys →
      ∃ r r' notes notes' notes'', scanFiles files given analyzers o xs = .ok (r, notes) ∧
        scanFiles files given analyzers o ys = .ok (r', notes') ∧
        scanFiles files given analyzers o paths =
          .ok ({ issues := r.issues ++ r'.issues, scanned := r.scanned + r'.scanned }, notes'')) ∧
    ∀ (place : List String) (bytes : List UInt8) (loaded' : List LogRecord),
      tableFor (files.overwrite bytes place) given o = .ok (table, loaded') →
      ∃ notes, scanFiles (files.overwrite bytes place) given analyzers o paths =
        .ok (resultFrom analyzers table o.level
          (fun p ↦ if files.filePlace? p = some place then .ok bytes else files.readBytes p)
          paths, notes) := by
  have hopens : ∀ p ∈ paths, Opens analyzers p := fun p hp ↦ Or.inr (hpaths p hp)
  have hall := scanFiles_of_opens files table hcancel htable hopens
  refine ⟨hall, ?_, ?_, ?_⟩
  · intro p analyzer text hanalyzer htext
    exact blockOf_eq_analyze hanalyzer htext table o.level
  · rintro xs ys rfl
    obtain ⟨notes, hx⟩ := scanFiles_of_opens files table hcancel htable
      fun p hp ↦ hopens p (List.mem_append_left ys hp)
    obtain ⟨notes', hy⟩ := scanFiles_of_opens files table hcancel htable
      fun p hp ↦ hopens p (List.mem_append_right xs hp)
    obtain ⟨notes'', hxy⟩ := hall
    rw [resultFrom_append] at hxy
    exact ⟨_, _, notes, notes', notes'', hx, hy, hxy⟩
  · intro place bytes loaded' htable'
    have hread : (files.overwrite bytes place).readBytes =
        fun p ↦ if files.filePlace? p = some place then .ok bytes else files.readBytes p :=
      funext (files.readBytes_overwrite bytes place)
    rw [← hread]
    exact scanFiles_of_opens _ table hcancel htable' hopens

/-- A file is replaced by bytes that are no text and is scanned through a link and beside another
file. -/
theorem scanFiles_isolated_linked :
    let web : FileTree := .folder
      [("a.css", .file []), ("b.css", .file []), ("c.css", .link "../web/a.css")]
    let files : Store :=
      { top := .folder [("web", web)], here := ["web"], document := Yaml.read }
    ∃ notes, scanFiles (files.overwrite [0xFF] ["web", "a.css"]) none Analyzer.all .default
        [.ofText "c.css", .ofText "b.css"] =
      .ok (resultFrom Analyzer.all Table.bundled .limited
        (fun p ↦
          if files.filePlace? p = some ["web", "a.css"] then .ok [0xFF] else files.readBytes p)
        [.ofText "c.css", .ofText "b.css"], notes) :=
  (scanFiles_isolated rfl rfl (by decide)).2.2.2 ["web", "a.css"] [0xFF] [] rfl

end WebBaseline.Scan

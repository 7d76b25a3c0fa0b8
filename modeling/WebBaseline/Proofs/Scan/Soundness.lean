import WebBaseline.Proofs.Report
import WebBaseline.Proofs.Result
import WebBaseline.Proofs.Scan.Isolation

/-!
# What a scan reports

Every issue of a scan has a ground: a path that was scanned, the analyzer of this path, and a
feature of the table that the level reports.  The counts of the result follow from the grounds of
its issues.  Two scans that differ in their levels differ in the issues that the lower level does
not report and in nothing else.
-/

namespace WebBaseline.Scan

variable {analyzers : List Analyzer} {table : Table} {level : Level} {paths : List Path}
  {bytesOf : Path → Except OsError (List UInt8)}

/-! ### The ground of an issue -/

/-- What a scan found when it reported an issue: the file and the language come from a path, the
feature comes from the table, and the severity from the tier. -/
structure Grounded (analyzers : List Analyzer) (table : Table) (level : Level)
    (bytesOf : Path → Except OsError (List UInt8)) (paths : List Path) (i : Issue) : Prop where
  path : ∃ p ∈ paths, isScanned analyzers p (bytesOf p) = true ∧ i.file = p.toText ∧
    ∃ a, Analyzer.forPath analyzers p = some a ∧ i.language = a.language
  feature : ∃ f, table.lookup i.key = some f ∧ i.featureId = f.id ∧ i.feature = f.name ∧
    i.tier = f.tier
  reported : level.reports i.tier = true
  severity : i.severity = i.tier.severity

/-- An issue of a block comes from a use that the analyzer of the path has found. -/
theorem exists_use_of_mem_blockOf {path : Path} {bytes : Except OsError (List UInt8)} {i : Issue}
    (h : i ∈ blockOf analyzers table level path bytes) :
    isScanned analyzers path bytes = true ∧
      ∃ a, Analyzer.forPath analyzers path = some a ∧
        ∃ u f, table.lookup u.key = some f ∧ level.reports f.tier = true ∧
          i = Report.issueOf a.language path.toText f u := by
  cases hanalyzer : Analyzer.forPath analyzers path with
  | none => simp [blockOf, hanalyzer] at h
  | some analyzer =>
      cases htext : textOf? bytes with
      | none => simp [blockOf, hanalyzer, htext] at h
      | some text =>
          refine ⟨by simp [isScanned, hanalyzer, htext], analyzer, rfl, ?_⟩
          simp only [blockOf, hanalyzer, htext] at h
          rcases hdetect : analyzer.detect text path.toText with ⟨uses, ending⟩
          rw [hdetect] at h
          cases ending with
          | malformed reason => simp at h
          | failed => simp at h
          | complete =>
              obtain ⟨u, -, f, hlookup, hreports, hi⟩ := Report.exists_use_of_mem_issues h
              exact ⟨u, f, hlookup, hreports, hi⟩

theorem grounded_of_mem_resultFrom {i : Issue}
    (h : i ∈ (resultFrom analyzers table level bytesOf paths).issues) :
    Grounded analyzers table level bytesOf paths i := by
  obtain ⟨path, hpath, hblock⟩ := List.mem_flatMap.mp h
  obtain ⟨hscanned, a, hanalyzer, u, f, hlookup, hreports, rfl⟩ := exists_use_of_mem_blockOf hblock
  exact
    { path := ⟨path, hpath, hscanned, rfl, a, hanalyzer, rfl⟩
      feature := ⟨f, hlookup, rfl, rfl, rfl⟩
      reported := hreports
      severity := rfl }

/-! ### Counts -/

/-- The counts of a result agree: with each other, with the level, and with the number of paths
that the scan was given. -/
structure Balanced (level : Level) (paths : List Path) (r : ScanResult) : Prop where
  total : r.summary.total = r.issues.length
  severities : r.summary.total = r.summary.errors + r.summary.warnings + r.summary.info
  tiers : r.summary.total = r.summary.limited + r.summary.newly + r.summary.widely
  errors : r.summary.errors = r.summary.limited
  warnings : r.summary.warnings = r.summary.newly
  info : r.summary.info = r.summary.widely
  limited : level = .limited → r.summary.warnings = 0 ∧ r.summary.info = 0
  newly : level = .newly → r.summary.info = 0
  withIssues_le : r.withIssues ≤ r.scanned
  scanned_le : r.scanned ≤ paths.length
  withIssues_eq_zero : r.withIssues = 0 ↔ r.summary.total = 0

theorem withIssues_le_scanned (analyzers : List Analyzer) (table : Table) (level : Level)
    (bytesOf : Path → Except OsError (List UInt8)) (paths : List Path) :
    (resultFrom analyzers table level bytesOf paths).withIssues ≤
      (resultFrom analyzers table level bytesOf paths).scanned := by
  have hnames : ∀ i ∈ (resultFrom analyzers table level bytesOf paths).issues,
      i.file ∈ (paths.filter fun p ↦ isScanned analyzers p (bytesOf p)).map Path.toText := by
    intro i hi
    obtain ⟨p, hp, hscanned, hfile, -⟩ := (grounded_of_mem_resultFrom hi).path
    exact List.mem_map.mpr ⟨p, List.mem_filter.mpr ⟨hp, hscanned⟩, hfile.symm⟩
  have hle := ScanResult.withIssues_le_length hnames
  rwa [List.length_map, ← List.countP_eq_length_filter] at hle

theorem balanced_resultFrom (analyzers : List Analyzer) (table : Table) (level : Level)
    (bytesOf : Path → Except OsError (List UInt8)) (paths : List Path) :
    Balanced level paths (resultFrom analyzers table level bytesOf paths) := by
  have hseverity : ∀ i ∈ (resultFrom analyzers table level bytesOf paths).issues,
      i.severity = i.tier.severity := fun i hi ↦ (grounded_of_mem_resultFrom hi).severity
  have hreported : ∀ i ∈ (resultFrom analyzers table level bytesOf paths).issues,
      level.reports i.tier = true := fun i hi ↦ (grounded_of_mem_resultFrom hi).reported
  have htiers := Summary.total_eq_tiers (resultFrom analyzers table level bytesOf paths).issues
  have herrors := Summary.countP_severity hseverity .limited
  have hwarnings := Summary.countP_severity hseverity .newly
  have hinfo := Summary.countP_severity hseverity .widely
  refine
    { total := rfl
      severities := ?_
      tiers := htiers
      errors := herrors
      warnings := hwarnings
      info := hinfo
      limited := ?_
      newly := ?_
      withIssues_le := withIssues_le_scanned analyzers table level bytesOf paths
      scanned_le := List.countP_le_length
      withIssues_eq_zero := ?_ }
  · refine htiers.trans ?_
    exact congrArg₂ (· + ·) (congrArg₂ (· + ·) herrors.symm hwarnings.symm) hinfo.symm
  · rintro rfl
    exact ⟨hwarnings.trans (Summary.countP_tier_eq_zero hreported rfl),
      hinfo.trans (Summary.countP_tier_eq_zero hreported rfl)⟩
  · rintro rfl
    exact hinfo.trans (Summary.countP_tier_eq_zero hreported rfl)
  · rw [ScanResult.withIssues_eq_zero_iff]
    exact List.length_eq_zero_iff.symm

/-- A scan that is not stopped gives a result unless it is to open a path that no file can have.
Each issue of the result has its ground, and the counts of the result agree. -/
theorem scanFiles_sound {files : Store} {given : Option Table} {o : Options}
    (hcancel : o.cancel = none) {loaded : List LogRecord}
    (htable : tableFor files given o = .ok (table, loaded)) (paths : List Path) :
    ((∃ r notes, scanFiles files given analyzers o paths = .ok (r, notes)) ↔
      ∀ p ∈ paths, Opens analyzers p) ∧
    ∀ r notes, scanFiles files given analyzers o paths = .ok (r, notes) →
      (∀ i ∈ r.issues, Grounded analyzers table o.level files.readBytes paths i) ∧
        Balanced o.level paths r := by
  by_cases hopens : ∀ p ∈ paths, Opens analyzers p
  · obtain ⟨notes, hscan⟩ := scanFiles_of_opens files table hcancel htable hopens
    refine ⟨⟨fun _ ↦ hopens, fun _ ↦ ⟨_, notes, hscan⟩⟩, fun r notes' hr ↦ ?_⟩
    obtain ⟨rfl, -⟩ := Prod.mk.inj (Except.ok.inj (hscan.symm.trans hr))
    exact ⟨fun i hi ↦ grounded_of_mem_resultFrom hi, balanced_resultFrom ..⟩
  · have hscan := scanFiles_of_not_opens files table hcancel htable hopens
    refine ⟨⟨?_, fun h ↦ absurd h hopens⟩, ?_⟩
    · rintro ⟨r, notes, hr⟩
      exact absurd (hscan.symm.trans hr) (by simp)
    · intro r notes hr
      exact absurd (hscan.symm.trans hr) (by simp)

/-- The style sheet uses a feature that the bundled table knows as limited. -/
theorem scanFiles_sound_styled :
    let folder (bytes : List UInt8) : Store :=
      { top := .folder [("a.css", .file bytes)], document := Yaml.read }
    let files := folder "p{field-sizing:content}".toUTF8.toList
    let paths : List Path := [.ofText "a.css"]
    ∃ r notes, scanFiles files none Analyzer.all .default paths = .ok (r, notes) ∧ r.issues ≠ [] ∧
      (∀ i ∈ r.issues, Grounded Analyzer.all Table.bundled .limited files.readBytes paths i) ∧
        Balanced .limited paths r := by
  intro folder files paths
  have hopens : ∀ p ∈ paths, Opens Analyzer.all p := by
    intro p hp
    obtain rfl := List.mem_singleton.mp hp
    exact Or.inr (by decide)
  have hbytes : ∀ bytes, (folder bytes).readBytes (.ofText "a.css") = .ok bytes := by
    intro bytes
    cbv
  have hcancel : Options.default.cancel = none := rfl
  have htable : tableFor files none .default = .ok (Table.bundled, []) := rfl
  obtain ⟨notes, hscan⟩ := scanFiles_of_opens files Table.bundled hcancel htable hopens
  refine ⟨_, notes, hscan, ?_, (scanFiles_sound hcancel htable paths).2 _ _ hscan⟩
  simp only [resultFrom, files, paths, List.flatMap_cons, List.flatMap_nil, List.append_nil, hbytes]
  decide +kernel

/-! ### Levels -/

theorem blockOf_of_le {l l' : Level} (h : l ≤ l') (path : Path)
    (bytes : Except OsError (List UInt8)) :
    blockOf analyzers table l path bytes =
      (blockOf analyzers table l' path bytes).filter fun i ↦ l.reports i.tier := by
  unfold blockOf
  cases Analyzer.forPath analyzers path with
  | none => rfl
  | some analyzer =>
      cases textOf? bytes with
      | none => rfl
      | some text =>
          simp only
          rcases analyzer.detect text path.toText with ⟨uses, ending⟩
          cases ending with
          | complete => exact Report.issues_of_le h uses
          | malformed reason => rfl
          | failed => rfl

theorem resultFrom_of_le {l l' : Level} (h : l ≤ l') :
    resultFrom analyzers table l bytesOf paths =
      { resultFrom analyzers table l' bytesOf paths with
        issues := (resultFrom analyzers table l' bytesOf paths).issues.filter
          fun i ↦ l.reports i.tier } := by
  simp only [resultFrom, List.filter_flatMap, blockOf_of_le h]

/-- A scan at a lower level gives the result of the scan at a higher one without the issues that
the lower level does not report, and fails where that scan fails. -/
theorem scanFiles_filter_of_le {l l' : Level} (h : l ≤ l') (files : Store)
    (given : Option Table) (analyzers : List Analyzer) {o : Options} (hcancel : o.cancel = none)
    (paths : List Path) :
    (scanFiles files given analyzers { o with level := l } paths).map Prod.fst =
      (scanFiles files given analyzers { o with level := l' } paths).map fun found ↦
        { found.1 with issues := found.1.issues.filter fun i ↦ l.reports i.tier } := by
  cases htable : tableFor files given o with
  | error e =>
      have herror : ∀ level, scanFiles files given analyzers { o with level } paths =
          .error (.table e) := by
        intro level
        have htable' : tableFor files given { o with level } = .error e := htable
        rw [scanFiles, htable']
      rw [herror, herror]
      rfl
  | ok loaded =>
      obtain ⟨table, notes⟩ := loaded
      have hcancel' : ∀ level, { o with level }.cancel = none := fun _ ↦ hcancel
      have htable' : ∀ level, tableFor files given { o with level } = .ok (table, notes) :=
        fun _ ↦ htable
      by_cases hopens : ∀ p ∈ paths, Opens analyzers p
      · obtain ⟨_, hl⟩ := scanFiles_of_opens files table (hcancel' l) (htable' l) hopens
        obtain ⟨_, hl'⟩ := scanFiles_of_opens files table (hcancel' l') (htable' l') hopens
        rw [hl, hl']
        exact congrArg Except.ok (resultFrom_of_le h)
      · rw [scanFiles_of_not_opens files table (hcancel' l) (htable' l) hopens,
          scanFiles_of_not_opens files table (hcancel' l') (htable' l') hopens]
        rfl

/-- The style sheet uses a limited feature and a widely available one. -/
theorem scanFiles_filter_of_le_styled :
    let files : Store :=
      { top := .folder [("a.css", .file "p{field-sizing:content;display:grid}".toUTF8.toList)]
        document := Yaml.read }
    let scanAt : Level → Except ScanError (ScanResult × List LogRecord) := fun level ↦
      scanFiles files none Analyzer.all { Options.default with level } [.ofText "a.css"]
    (scanAt .limited).map Prod.fst = (scanAt .widely).map fun found ↦
      { found.1 with issues := found.1.issues.filter fun i ↦ Level.limited.reports i.tier } :=
  scanFiles_filter_of_le (by decide) _ none Analyzer.all rfl _

end WebBaseline.Scan

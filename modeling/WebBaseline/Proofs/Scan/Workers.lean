import WebBaseline.Proofs.Scan.Pool
import WebBaseline.Proofs.Scan.Soundness

/-!
# What a scan reports, whoever scans the files

Whether one worker goes through the files or several share them, a scan that nobody stops can end
with the blocks of its paths and with nothing else.  What holds of the blocks therefore holds of
every end of every schedule: parts of a list can be scanned apart, a file that changes touches its
own blocks only, every issue has its ground, and a lower level leaves issues out and changes none.
-/

namespace WebBaseline.Scan

variable {files : Store} {given : Option Table} {analyzers : List Analyzer} {o : Options}
  {paths : List Path} (hcancel : o.cancel = none) (hworkers : 1 ≤ o.workers)

include hcancel hworkers

theorem ends_iff_of_no_table {e : TableFileError} (htable : tableFor files given o = .error e)
    {r : Except ScanError ScanResult} :
    Ends files given analyzers o paths r ↔ r = .error (.table e) := by
  rw [ends_iff files given analyzers hcancel hworkers, scanFiles, htable]
  rfl

section Loaded

variable {table : Table} {loaded : List LogRecord}
  (htable : tableFor files given o = .ok (table, loaded))

include htable

theorem ends_iff_of_opens (h : ∀ p ∈ paths, Opens analyzers p)
    {r : Except ScanError ScanResult} :
    Ends files given analyzers o paths r ↔
      r = .ok (resultFrom analyzers table o.level files.readBytes paths) := by
  obtain ⟨notes, hscan⟩ := scanFiles_of_opens files table hcancel htable h
  rw [ends_iff files given analyzers hcancel hworkers, hscan]
  rfl

theorem ends_iff_of_not_opens (h : ¬ ∀ p ∈ paths, Opens analyzers p)
    {r : Except ScanError ScanResult} :
    Ends files given analyzers o paths r ↔ r = .error .nulInPath := by
  rw [ends_iff files given analyzers hcancel hworkers,
    scanFiles_of_not_opens files table hcancel htable h]
  rfl

/-- Every schedule ends with the blocks of the paths.  The ends of two parts of a list make up the
end of the whole, each part being shared among the workers in its own way, and replacing the bytes
of a file changes the blocks of the paths that lead to this file. -/
theorem ends_isolated (h : ∀ p ∈ paths, Opens analyzers p) :
    (∀ r, Ends files given analyzers o paths r ↔
      r = .ok (resultFrom analyzers table o.level files.readBytes paths)) ∧
    (∀ xs ys r r', paths = xs ++ ys →
      Ends files given analyzers o xs (.ok r) → Ends files given analyzers o ys (.ok r') →
      ∀ ending, Ends files given analyzers o paths ending ↔
        ending = .ok { issues := r.issues ++ r'.issues, scanned := r.scanned + r'.scanned }) ∧
    ∀ (place : List String) (bytes : List UInt8) (loaded' : List LogRecord),
      tableFor (files.overwrite bytes place) given o = .ok (table, loaded') →
      ∀ r, Ends (files.overwrite bytes place) given analyzers o paths r ↔
        r = .ok (resultFrom analyzers table o.level
          (fun p ↦ if files.filePlace? p = some place then .ok bytes else files.readBytes p)
          paths) := by
  have hall : ∀ r, Ends files given analyzers o paths r ↔ _ :=
    fun r ↦ ends_iff_of_opens hcancel hworkers htable h
  refine ⟨hall, ?_, ?_⟩
  · rintro xs ys r r' rfl hx hy ending
    have hxs : ∀ p ∈ xs, Opens analyzers p := fun p hp ↦ h p (List.mem_append_left ys hp)
    have hys : ∀ p ∈ ys, Opens analyzers p := fun p hp ↦ h p (List.mem_append_right xs hp)
    obtain rfl := Except.ok.inj ((ends_iff_of_opens hcancel hworkers htable hxs).mp hx)
    obtain rfl := Except.ok.inj ((ends_iff_of_opens hcancel hworkers htable hys).mp hy)
    rw [hall, resultFrom_append]
  · intro place bytes loaded' htable' r
    have hread : (files.overwrite bytes place).readBytes =
        fun p ↦ if files.filePlace? p = some place then .ok bytes else files.readBytes p :=
      funext (files.readBytes_overwrite bytes place)
    rw [← hread]
    exact ends_iff_of_opens hcancel hworkers htable' h

/-- Some schedule ends with a result unless a path is to be opened that no file can have, and each
issue of each result has its ground. -/
theorem ends_sound :
    ((∃ r, Ends files given analyzers o paths (.ok r)) ↔ ∀ p ∈ paths, Opens analyzers p) ∧
    ∀ r, Ends files given analyzers o paths (.ok r) →
      (∀ i ∈ r.issues, Grounded analyzers table o.level files.readBytes paths i) ∧
        Balanced o.level paths r := by
  by_cases hopens : ∀ p ∈ paths, Opens analyzers p
  · have hends : ∀ r, Ends files given analyzers o paths r ↔ _ :=
      fun r ↦ ends_iff_of_opens hcancel hworkers htable hopens
    refine ⟨⟨fun _ ↦ hopens, fun _ ↦ ⟨_, (hends _).mpr rfl⟩⟩, ?_⟩
    intro r hr
    obtain rfl := Except.ok.inj ((hends _).mp hr)
    exact ⟨fun i hi ↦ grounded_of_mem_resultFrom hi, balanced_resultFrom ..⟩
  · have hnone : ∀ r, ¬ Ends files given analyzers o paths (.ok r) := by
      intro r hr
      cases (ends_iff_of_not_opens hcancel hworkers htable hopens).mp hr
    refine ⟨⟨?_, fun h ↦ absurd h hopens⟩, fun r hr ↦ absurd hr (hnone r)⟩
    rintro ⟨r, hr⟩
    exact absurd hr (hnone r)

end Loaded

/-- The ends at a lower level are the ends at a higher one without the issues that the lower level
does not report. -/
theorem ends_filter_of_le {l l' : Level} (h : l ≤ l') (r : Except ScanError ScanResult) :
    Ends files given analyzers { o with level := l } paths r ↔
      ∃ r', Ends files given analyzers { o with level := l' } paths r' ∧
        r = r'.map fun found ↦
          { found with issues := found.issues.filter fun i ↦ l.reports i.tier } := by
  have hcancel' : ∀ level, { o with level }.cancel = none := fun _ ↦ hcancel
  have hworkers' : ∀ level, 1 ≤ { o with level }.workers := fun _ ↦ hworkers
  cases htable : tableFor files given o with
  | error e =>
      have htable' : ∀ level, tableFor files given { o with level } = .error e := fun _ ↦ htable
      have hends : ∀ level r, Ends files given analyzers { o with level } paths r ↔
          r = .error (.table e) :=
        fun level r ↦ ends_iff_of_no_table (hcancel' level) (hworkers' level) (htable' level)
      simp only [hends, exists_eq_left, Except.map]
  | ok found =>
      obtain ⟨table, loaded⟩ := found
      have htable' : ∀ level, tableFor files given { o with level } = .ok (table, loaded) :=
        fun _ ↦ htable
      by_cases hopens : ∀ p ∈ paths, Opens analyzers p
      · have hends := fun level r ↦ ends_iff_of_opens (hcancel' level) (hworkers' level)
          (htable' level) hopens (r := r)
        simp only [hends, exists_eq_left, Except.map, resultFrom_of_le h]
      · have hends := fun level r ↦ ends_iff_of_not_opens (hcancel' level) (hworkers' level)
          (htable' level) hopens (r := r)
        simp only [hends, exists_eq_left, Except.map]

end WebBaseline.Scan

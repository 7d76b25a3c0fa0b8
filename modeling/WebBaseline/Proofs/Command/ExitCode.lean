import WebBaseline.Command
import WebBaseline.Proofs.Display.Page
import WebBaseline.Proofs.Scan.Root

/-!
# The exit code of a scan

The code is decided by how the scan ends: two for a fault that a user is told of and for a scan of
no file, one where an issue was found, and zero otherwise.  The number of scanned files is looked at
first, which is right because an issue needs a scanned file.  The format, the order of the issues,
the notes and the number of workers have no say.
-/

namespace WebBaseline.Command.Scan

open WebBaseline.Scan

/-! ### How a scan ends -/

/-- The configuration file of a request. -/
def configFor (files : Store) (r : Request) : Option Path :=
  match r.config with
  | some path => some path
  | none => if files.isFolder r.target then Options.find files r.target else none

/-- The options before the settings of a request are applied. -/
def baseFor (files : Store) (r : Request) : Except OptionsError Options :=
  match configFor files r with
  | none => .ok .default
  | some path => (Options.load files path).1

/-- What the scan that is requested can end with, its workers taking their steps in any order. -/
inductive Ends (files : Store) (r : Request) : Except ScanError ScanResult → Prop where
  | refused {e : OptionsError} (options : (optionsFor files r).1 = .error e) :
      Ends files r (.error (.options e))
  | scanned {o : Options} {x : Except ScanError ScanResult}
      (options : (optionsFor files r).1 = .ok o)
      (ends : EndsAt files none Analyzer.all o r.target x) : Ends files r x

/-- Loading the configuration and the table of a request succeeds, or fails in a way that a user is
told of. -/
structure Loads (files : Store) (r : Request) : Prop where
  config : ∀ path e notes, configFor files r = some path →
    Options.load files path = (.error e, notes) → e.message?.isSome = true
  table : ∀ o path e, (optionsFor files r).1 = .ok o → o.features = some path →
    Table.load files path = .error e → e.message?.isSome = true

/-- What the scan that is requested ends with. -/
def outcome (files : Store) (r : Request) : Except ScanError ScanResult :=
  match (optionsFor files r).1 with
  | .error e => .error (.options e)
  | .ok o => (scan files none Analyzer.all o r.target).map Prod.fst

theorem optionsFor_fst (files : Store) (r : Request) :
    (optionsFor files r).1 = (baseFor files r).bind fun o ↦ o.override r.settings := by
  unfold optionsFor baseFor configFor
  cases r.config with
  | some path =>
      simp only
      rcases Options.load files path with ⟨_ | _, notes⟩ <;> rfl
  | none =>
      simp only
      cases (if files.isFolder r.target then Options.find files r.target else none) with
      | none => rfl
      | some path =>
          simp only
          rcases Options.load files path with ⟨_ | _, notes⟩ <;> rfl

theorem ready_of_baseFor {files : Store} {r : Request} {o : Options}
    (h : baseFor files r = .ok o) : o.Ready := by
  unfold baseFor at h
  split at h
  · cases h
    exact Options.ready_default
  · exact Options.ready_of_load h

theorem ready_of_optionsFor {files : Store} {r : Request} {o : Options}
    (h : (optionsFor files r).1 = .ok o) : o.Ready := by
  rw [optionsFor_fst] at h
  cases hbase : baseFor files r with
  | error e => simp [hbase, Except.bind] at h
  | ok base =>
      simp only [hbase, Except.bind, Options.override_eq_change] at h
      exact (ready_of_baseFor hbase).change h

/-- A scan that is requested ends in one way only. -/
theorem ends_iff_outcome (files : Store) (r : Request) (x : Except ScanError ScanResult) :
    Ends files r x ↔ x = outcome files r := by
  cases hoptions : (optionsFor files r).1 with
  | error e =>
      simp only [outcome, hoptions]
      constructor
      · intro h
        cases h with
        | refused h =>
            rw [hoptions] at h
            cases h
            rfl
        | scanned h => simp [hoptions] at h
      · rintro rfl
        exact .refused hoptions
  | ok o =>
      simp only [outcome, hoptions]
      have hready := ready_of_optionsFor hoptions
      rw [← endsAt_iff hready.cancel hready.workers]
      constructor
      · intro h
        cases h with
        | refused h => simp [hoptions] at h
        | scanned h hends =>
            rw [hoptions] at h
            cases h
            exact hends
      · exact .scanned hoptions

theorem perform_ending (host : Host) (r : Request) :
    (perform host r).ending =
      match outcome host.files r with
      | .error e => .failed e
      | .ok result => endingOf host.console r result := by
  unfold perform outcome
  rcases optionsFor host.files r with ⟨_ | o, notes⟩
  · rfl
  · simp only
    rcases scan host.files none Analyzer.all o r.target with _ | ⟨result, more⟩ <;> rfl

theorem issues_of_outcome {files : Store} {r : Request} {result : ScanResult}
    (h : outcome files r = .ok result) (hzero : result.scanned = 0) : result.issues = [] := by
  unfold outcome at h
  split at h
  · simp at h
  · rename_i o _
    rcases hscan : scan files none Analyzer.all o r.target with _ | ⟨found, notes⟩
    · simp [hscan, Except.map] at h
    · simp only [hscan, Except.map, Except.ok.injEq] at h
      subst h
      exact issues_eq_nil_of_scan hscan hzero

/-! ### The code of an ending -/

/-- The result as it is shown. -/
def shownOf (r : Request) (result : ScanResult) : ScanResult :=
  if r.sort then result.sorted else result

theorem scanned_shownOf (r : Request) (result : ScanResult) :
    (shownOf r result).scanned = result.scanned := by
  unfold shownOf
  split <;> rfl

theorem issues_shownOf_perm (r : Request) (result : ScanResult) :
    (shownOf r result).issues.Perm result.issues := by
  unfold shownOf
  split
  · exact List.mergeSort_perm _ _
  · exact .refl _

/-- The code that a result calls for. -/
def codeOf (result : ScanResult) : Nat :=
  if result.scanned = 0 then 2 else if result.issues = [] then 0 else 1

/-- The code by how a scan ends. -/
def codeBy : Except ScanError ScanResult → Nat
  | .error _ => 2
  | .ok result => codeOf result

section Codes

variable {x : Except ScanError ScanResult}

theorem codeBy_eq_two_iff :
    codeBy x = 2 ↔ (∃ e, x = .error e) ∨ ∃ result, x = .ok result ∧ result.scanned = 0 := by
  cases x with
  | error e => simp [codeBy]
  | ok result =>
      simp only [codeBy, codeOf]
      split_ifs with hscanned hissues <;> simp [hscanned]

theorem codeBy_eq_one_iff (h : ∀ result, x = .ok result → result.scanned = 0 → result.issues = []) :
    codeBy x = 1 ↔ ∃ result, x = .ok result ∧ result.issues ≠ [] := by
  cases x with
  | error e => simp [codeBy]
  | ok result =>
      simp only [codeBy, codeOf]
      split_ifs with hscanned hissues
      · simp [h result rfl hscanned]
      · simp [hissues]
      · simp [hissues]

theorem codeBy_eq_zero_iff :
    codeBy x = 0 ↔ ∃ result, x = .ok result ∧ 0 < result.scanned ∧ result.issues = [] := by
  cases x with
  | error e => simp [codeBy]
  | ok result =>
      simp only [codeBy, codeOf]
      split_ifs with hscanned hissues
      · simp [hscanned]
      · simp [hissues, Nat.pos_of_ne_zero hscanned]
      · simp [hissues]

end Codes

theorem endingOf_eq (console : Display.Console) (r : Request) (result : ScanResult) :
    endingOf console r result =
      if (shownOf r result).scanned = 0 then
        .finished 2 (if r.json then (shownOf r result).toDatum.toJson ++ "\n"
          else "No files scanned in the target path.\n")
      else if r.json then
        .finished (if (shownOf r result).hasIssues then 1 else 0)
          ((shownOf r result).toDatum.toJson ++ "\n")
      else
        match Display.resultPage console (shownOf r result) with
        | .ok page => .finished (if (shownOf r result).hasIssues then 1 else 0) page
        | .error fault => .garbled fault :=
  rfl

/-- A page that cannot be shown costs nothing: only a page with issues can fail, and its code is
the code of a fault. -/
theorem exitCode_endingOf {console : Display.Console} (hconsole : console.Lawful) (r : Request)
    (result : ScanResult) : (endingOf console r result).exitCode = codeOf result := by
  have hissues : (shownOf r result).issues = [] ↔ result.issues = [] := by
    rw [← List.length_eq_zero_iff, (issues_shownOf_perm r result).length_eq,
      List.length_eq_zero_iff]
  rw [endingOf_eq, scanned_shownOf, codeOf]
  split
  · rfl
  · by_cases hnone : result.issues = []
    · have hshown := hissues.mpr hnone
      obtain ⟨page, hpage⟩ := Display.exists_resultPage_of_nil hconsole hshown
      simp only [ScanResult.hasIssues, hpage, hshown, hnone]
      split <;> rfl
    · have hshown : ¬ (shownOf r result).issues = [] := fun h ↦ hnone (hissues.mp h)
      have hhas : (shownOf r result).hasIssues = true := by
        simpa [ScanResult.hasIssues] using hshown
      simp only [hhas, hnone]
      split
      · rfl
      · cases Display.resultPage console (shownOf r result) with
        | ok page => rfl
        | error fault => rfl

theorem output_endingOf (console : Display.Console) {r : Request} (hjson : r.json = true)
    (result : ScanResult) :
    (endingOf console r result).output = (shownOf r result).toDatum.toJson ++ "\n" := by
  rw [endingOf_eq]
  simp only [hjson, if_true]
  split <;> rfl

/-! ### Faults of a scan -/

section Faults

variable (line : Line)

theorem known_settingsOf : Options.Known (settingsOf line) := by
  intro s hs
  have hname : s.1 ∈ (settingsOf line).map Prod.fst := List.mem_map_of_mem hs
  simp only [settingsOf, List.map_cons, List.map_nil] at hname
  simp only [Options.settingNames]
  simp only [List.mem_cons, List.not_mem_nil, or_false] at hname ⊢
  tauto

theorem lookup_given_settingsOf (name : String) :
    (Options.given (settingsOf line)).lookup name =
      ((settingsOf line).lookup name).filter Options.nonNull :=
  Options.lookup_given (by simp [settingsOf]) name

/-- Patterns are given in a list. -/
theorem exists_list_of_patternsSetting {patterns : List String} {v : Datum}
    (h : (some (patternsSetting patterns)).filter Options.nonNull = some v) :
    ∃ xs, v = .list xs := by
  obtain ⟨rfl, hv⟩ : patternsSetting patterns = v ∧ Options.nonNull v = true := by
    simpa using h
  cases patterns with
  | nil => simp [patternsSetting, Options.nonNull] at hv
  | cons pattern rest => exact ⟨_, rfl⟩

theorem exists_text_of_textSetting {value : Option String} {v : Datum}
    (h : (some (textSetting value)).filter Options.nonNull = some v) : ∃ s, v = .text s := by
  obtain ⟨rfl, hv⟩ : textSetting value = v ∧ Options.nonNull v = true := by
    simpa using h
  cases value with
  | none => simp [textSetting, Options.nonNull] at hv
  | some s => exact ⟨s, rfl⟩

/-- What is wrong with switches is told to the user. -/
theorem message_of_override {o : Options} {e : OptionsError}
    (h : o.override (settingsOf line) = .error e) : e.message?.isSome = true := by
  rw [Options.override_eq_change] at h
  refine Options.message_of_change (Options.known_given (known_settingsOf line)) ?_ ?_ ?_ h
  · intro v hv
    rw [lookup_given_settingsOf] at hv
    exact exists_list_of_patternsSetting hv
  · intro v hv
    rw [lookup_given_settingsOf] at hv
    exact exists_list_of_patternsSetting hv
  · intro v hv
    rw [lookup_given_settingsOf] at hv
    exact exists_text_of_textSetting hv

end Faults

section Loads

variable {files : Store} {r : Request} (hloads : Loads files r)

include hloads

theorem message_of_optionsFor (line : Line) (hsettings : r.settings = settingsOf line)
    {e : OptionsError} (h : (optionsFor files r).1 = .error e) : e.message?.isSome = true := by
  rw [optionsFor_fst, hsettings] at h
  cases hbase : baseFor files r with
  | ok o =>
      simp only [hbase, Except.bind] at h
      exact message_of_override line h
  | error fault =>
      simp only [hbase, Except.bind, Except.error.injEq] at h
      subst h
      unfold baseFor at hbase
      split at hbase
      · simp at hbase
      · rename_i path hpath
        exact hloads.config path _ _ hpath (Prod.ext hbase rfl)

theorem message_of_tableFor {o : Options} (hoptions : (optionsFor files r).1 = .ok o)
    {e : TableFileError} (h : tableFor files none o = .error e) : e.message?.isSome = true := by
  simp only [tableFor] at h
  split at h
  · rename_i path hpath
    cases hload : Table.load files path with
    | error fault =>
        simp only [hload, Except.map, Except.error.injEq] at h
        subst h
        exact hloads.table o path fault hoptions hpath hload
    | ok loaded => simp [hload, Except.map] at h
  · simp at h

/-- Every fault of a scan is told to the user. -/
theorem message_of_outcome (hfiles : files.NulFree) (htarget : r.target.NulFree) (line : Line)
    (hsettings : r.settings = settingsOf line) {e : ScanError} (h : outcome files r = .error e) :
    e.message?.isSome = true := by
  unfold outcome at h
  split at h
  · rename_i cause hoptions
    cases h
    exact message_of_optionsFor hloads line hsettings hoptions
  · rename_i o hoptions
    have hready := ready_of_optionsFor hoptions
    cases hscan : scan files none Analyzer.all o r.target with
    | ok found => simp [hscan, Except.map] at h
    | error fault =>
        simp only [hscan, Except.map, Except.error.injEq] at h
        subst h
        rcases error_of_scan hfiles htarget hready.cancel hscan with ⟨cause, htable, rfl⟩ | rfl
        · exact message_of_tableFor hloads hoptions htable
        · rfl

end Loads

/-! ### Switches that have no say -/

/-- The switches that decide neither which files are scanned nor what is reported. -/
def freeSwitches : List String := ["--format", "--sort", "--verbose", "--workers"]

/-- Command lines that differ in the free switches only. -/
structure SameScan (line line' : Line) : Prop where
  operands : line.operands = line'.operands
  values : ∀ name, name ∉ freeSwitches → line.values name = line'.values name

/-- The number of workers is positive where it is given. -/
def ValidWorkers (line : Line) : Prop :=
  ∀ n, (line.value? "--workers").bind Text.integer? = some n → 1 ≤ n

theorem exists_workers {line : Line} (h : ValidWorkers line) (before : Nat) :
    ∃ n, Options.settingOr (Options.given (settingsOf line)) "workers" before
      Options.workersOf = .ok n := by
  have hlookup : (settingsOf line).lookup "workers" =
      some (integerSetting (line.value? "--workers")) := rfl
  rw [Options.settingOr, lookup_given_settingsOf, hlookup, integerSetting]
  cases hvalue : (line.value? "--workers").bind Text.integer? with
  | none => exact ⟨before, rfl⟩
  | some n =>
      have hn : ¬ n < 1 := not_lt.mpr (h n hvalue)
      refine ⟨n.toNat, ?_⟩
      simp [Option.filter, Options.nonNull, Options.workersOf, hn]

section Same

variable {line line' : Line} (hsame : SameScan line line')

include hsame

theorem SameScan.value? (name : String) (hname : name ∉ freeSwitches) :
    line.value? name = line'.value? name := by
  rw [Line.value?, Line.value?, hsame.values name hname]

theorem SameScan.lookup {name : String} (hname : name ∈ Options.coreNames) :
    (Options.given (settingsOf line)).lookup name =
      (Options.given (settingsOf line')).lookup name := by
  rw [lookup_given_settingsOf, lookup_given_settingsOf]
  refine congrArg (Option.filter Options.nonNull) ?_
  simp only [Options.coreNames, List.mem_cons, List.not_mem_nil, or_false] at hname
  rcases hname with rfl | rfl | rfl | rfl
  · exact congrArg (some ∘ patternsSetting) (hsame.values "--include" (by decide))
  · exact congrArg (some ∘ patternsSetting) (hsame.values "--exclude" (by decide))
  · exact congrArg (some ∘ textSetting) (hsame.value? "--baseline-level" (by decide))
  · exact congrArg (some ∘ textSetting) (hsame.value? "--features" (by decide))

theorem SameScan.map_core_override (hworkers : ValidWorkers line)
    (hworkers' : ValidWorkers line') (o : Options) :
    (o.override (settingsOf line)).map Options.core =
      (o.override (settingsOf line')).map Options.core := by
  rw [Options.override_eq_change, Options.override_eq_change]
  exact Options.map_core_change (Options.known_given (known_settingsOf line))
    (Options.known_given (known_settingsOf line')) (fun _ hname ↦ hsame.lookup hname)
    (exists_workers hworkers o.workers) (exists_workers hworkers' o.workers)

end Same

/-- Requests that agree in their targets, in their configurations and in what their settings make
of the options end alike. -/
theorem outcome_congr (files : Store) {r r' : Request} (htarget : r.target = r'.target)
    (hconfig : r.config = r'.config)
    (hcore : ∀ o : Options,
      (o.override r.settings).map Options.core = (o.override r'.settings).map Options.core) :
    outcome files r = outcome files r' := by
  have hbase : baseFor files r = baseFor files r' := by
    simp only [baseFor, configFor, htarget, hconfig]
  have hoptions : (optionsFor files r).1.map Options.core =
      (optionsFor files r').1.map Options.core := by
    rw [optionsFor_fst, optionsFor_fst, hbase]
    cases baseFor files r' with
    | error e => rfl
    | ok o => exact hcore o
  unfold outcome
  cases ho : (optionsFor files r).1 with
  | error e =>
      cases ho' : (optionsFor files r').1 with
      | error e' =>
          simp only [ho, ho', Except.map, Except.error.injEq] at hoptions
          rw [hoptions]
      | ok o' => simp [ho, ho', Except.map] at hoptions
  | ok o =>
      cases ho' : (optionsFor files r').1 with
      | error e' => simp [ho, ho', Except.map] at hoptions
      | ok o' =>
          simp only [ho, ho', Except.map, Except.ok.injEq] at hoptions
          simp only [htarget]
          exact map_fst_scan_of_core hoptions (ready_of_optionsFor ho).cancel files none
            Analyzer.all r'.target

/-! ### Requests of a command line -/

/-- The request of a line with one operand. -/
def requestWith (line : Line) (target : String) : Request :=
  { target := Path.ofText target
    json := line.value? "--format" = some "json"
    sort := line.has "--sort"
    verbose := line.has "--verbose"
    config := (line.value? "--config").map Path.ofText
    settings := settingsOf line }

theorem requestOf_eq_ok_iff {files : Store} {line : Line} {r : Request} :
    requestOf files line = .ok r ↔
      ∃ target, line.operands = [target] ∧ (Rule.existing true).check files target = .ok () ∧
        r = requestWith line target := by
  unfold requestOf
  constructor
  · intro h
    split at h
    · simp at h
    · rename_i target more hoperands
      split at h
      · simp at h
      · simp at h
      · rename_i hcheck
        split at h
        · simp at h
        · rename_i hmore
          have hnil : more = [] := by simpa using hmore
          cases h
          exact ⟨target, by rw [hoperands, hnil], hcheck, rfl⟩
  · rintro ⟨target, hoperands, hcheck, rfl⟩
    simp only [hoperands, hcheck]
    rfl

theorem not_nul_of_check {files : Store} {target : String} {folders : Bool}
    (h : (Rule.existing folders).check files target = .ok ()) : '\x00' ∉ target.toList := by
  intro hnul
  have hcontains : target.toList.contains '\x00' = true := by simpa using hnul
  have hstat : statText files target = .error .nulInPath := by rw [statText, if_pos hcontains]
  simp [Rule.check, hstat] at h

/-- Where nothing is loaded, loading cannot fail. -/
theorem loads_of_configFor_eq_none {files : Store} {r : Request} (hconfig : configFor files r = none)
    (hfeatures : ∀ o, (optionsFor files r).1 = .ok o → o.features = none) : Loads files r where
  config path e notes hpath := by
    rw [hconfig] at hpath
    cases hpath
  table o path e ho hpath := by
    rw [hfeatures o ho] at hpath
    cases hpath

section Runs

variable {host : Host} {words : List String} {line : Line}
  (hline : host.readLine usage words = .ok line) {r : Request}
  (hrequest : requestOf host.files line = .ok r)

include hline hrequest

theorem run_ending :
    (run host words).ending =
      match outcome host.files r with
      | .error e => .failed e
      | .ok result => endingOf host.console r result := by
  rw [run, hline]
  simp only [hrequest]
  exact perform_ending host r

theorem exitCode_eq_codeBy (hconsole : host.console.Lawful)
    (hmessage : ∀ e, outcome host.files r = .error e → e.message?.isSome = true) :
    (run host words).ending.exitCode = codeBy (outcome host.files r) := by
  rw [run_ending hline hrequest]
  cases houtcome : outcome host.files r with
  | error e => simp [Ending.exitCode, codeBy, hmessage e houtcome]
  | ok result => exact exitCode_endingOf hconsole r result

theorem output_of_outcome (hjson : r.json = true) {result : ScanResult}
    (houtcome : outcome host.files r = .ok result) :
    (run host words).ending.output = (shownOf r result).toDatum.toJson ++ "\n" := by
  rw [run_ending hline hrequest, houtcome]
  exact output_endingOf host.console hjson result

end Runs

/-- The exit code of a scan.  A scan that is requested ends in one way, however its workers take
turns.  The code is two exactly if it ends with a fault, which the user is told of, or without a
scanned file; one exactly if it ends with an issue; and zero exactly if it ends with a scanned file
and no issue.  Code two never hides an issue.  Neither the end nor the code depends on the free
switches, and what is shown as JSON depends on them in the order of its issues only. -/
theorem exitCode_run {host : Host} (hfiles : host.files.NulFree) (hconsole : host.console.Lawful)
    {words : List String} {line : Line} (hline : host.readLine usage words = .ok line) :
    (∀ fault, requestOf host.files line = .error (.misused usage fault) →
      (run host words).ending.exitCode = 2) ∧
    ∀ request, requestOf host.files line = .ok request → Loads host.files request →
      ∃ outcome, (∀ x, Ends host.files request x ↔ x = outcome) ∧
        (∀ e, outcome = .error e → e.message?.isSome = true) ∧
        ((run host words).ending.exitCode = 2 ↔
          (∃ e, outcome = .error e) ∨ ∃ result, outcome = .ok result ∧ result.scanned = 0) ∧
        ((run host words).ending.exitCode = 1 ↔
          ∃ result, outcome = .ok result ∧ result.issues ≠ []) ∧
        ((run host words).ending.exitCode = 0 ↔
          ∃ result, outcome = .ok result ∧ 0 < result.scanned ∧ result.issues = []) ∧
        ((run host words).ending.exitCode = 2 →
          ∀ result, outcome = .ok result → result.issues = []) ∧
        ∀ words' line', host.readLine usage words' = .ok line' → SameScan line line' →
          ValidWorkers line → ValidWorkers line' →
          ∃ request', requestOf host.files line' = .ok request' ∧
            (∀ x, Ends host.files request' x ↔ x = outcome) ∧
            (run host words').ending.exitCode = (run host words).ending.exitCode ∧
            ∀ result, outcome = .ok result → request.json = true → request'.json = true →
              (run host words).ending.output = (shownOf request result).toDatum.toJson ++ "\n" ∧
              (run host words').ending.output =
                (shownOf request' result).toDatum.toJson ++ "\n" ∧
              (shownOf request result).issues.Perm (shownOf request' result).issues := by
  refine ⟨?_, ?_⟩
  · intro fault hfault
    rw [run, hline]
    simp only [hfault]
    rfl
  · intro request hrequest hloads
    obtain ⟨target, hoperands, hcheck, rfl⟩ := requestOf_eq_ok_iff.mp hrequest
    have htarget := Path.nulFree_ofText (not_nul_of_check hcheck)
    have hmessage : ∀ e, outcome host.files (requestWith line target) = .error e →
        e.message?.isSome = true := fun e he ↦
      message_of_outcome hloads hfiles htarget line rfl he
    have hzero : ∀ result, outcome host.files (requestWith line target) = .ok result →
        result.scanned = 0 → result.issues = [] := fun _ ↦ issues_of_outcome
    rw [exitCode_eq_codeBy hline hrequest hconsole hmessage]
    refine ⟨outcome host.files (requestWith line target), ends_iff_outcome host.files _, hmessage,
      codeBy_eq_two_iff, codeBy_eq_one_iff hzero, codeBy_eq_zero_iff, ?_, ?_⟩
    · intro hcode result hresult
      rcases codeBy_eq_two_iff.mp hcode with ⟨e, he⟩ | ⟨result', hresult', hscanned⟩
      · simp [hresult] at he
      · obtain rfl := Except.ok.inj (hresult.symm.trans hresult')
        exact hzero result hresult hscanned
    · intro words' line' hline' hsame hworkers hworkers'
      have hrequest' : requestOf host.files line' = .ok (requestWith line' target) :=
        requestOf_eq_ok_iff.mpr ⟨target, hsame.operands ▸ hoperands, hcheck, rfl⟩
      have hconfig : (requestWith line target).config = (requestWith line' target).config :=
        congrArg (Option.map Path.ofText) (hsame.value? "--config" (by decide))
      have houtcome : outcome host.files (requestWith line target) =
          outcome host.files (requestWith line' target) :=
        outcome_congr host.files rfl hconfig (hsame.map_core_override hworkers hworkers')
      rw [houtcome] at hmessage ⊢
      refine ⟨_, hrequest', ends_iff_outcome host.files _,
        exitCode_eq_codeBy hline' hrequest' hconsole hmessage, ?_⟩
      intro result hresult hjson hjson'
      refine ⟨output_of_outcome hline hrequest hjson (houtcome.trans hresult),
        output_of_outcome hline' hrequest' hjson' hresult, ?_⟩
      exact (issues_shownOf_perm _ result).trans (issues_shownOf_perm _ result).symm

/-- A style sheet with an issue is scanned by one worker in silence, and by two with notes. -/
theorem exitCode_run_styled :
    let folder (bytes : List UInt8) : FileSystem := { top := .folder [("a.css", .file bytes)] }
    let host := Host.ofFiles (folder "p{field-sizing:content}".toUTF8.toList) 80
    let words := ["a.css", "--format", "json"]
    let words' := ["--sort", "-v", "--workers=2", "--format=json", "a.css"]
    (run host words).ending.exitCode = 1 ∧ (run host words').ending.exitCode = 1 := by
  intro folder host words words'
  let line : Line := { switches := [("--format", some "json")], operands := ["a.css"] }
  let line' : Line :=
    { switches :=
        [("--sort", none), ("--verbose", none), ("--workers", some "2"), ("--format", some "json")]
      operands := ["a.css"] }
  have hline : host.readLine usage words = .ok line := rfl
  have htwo : Text.integer? "2" = some 2 := by decide
  have hline' : host.readLine usage words' = .ok line' := by
    have hnames : (line'.switches.map Prod.fst).eraseDups =
        ["--sort", "--verbose", "--workers", "--format"] := by decide
    rw [readLine_ofFiles]
    apply readChecked_eq_ok (by decide +kernel) (by decide)
    rw [hnames]
    simp [checkValues, usage, Line.value?, Line.values, line', Rule.check, htwo]
  have hfiles : host.files.NulFree :=
    FileTree.nulFree_folder (by decide) (by simpa using FileTree.nulFree_file _)
  have hread : ∀ bytes, (folder bytes).stat (.ofText "a.css") = .ok (.file bytes) := by
    intro bytes
    cbv
  have hstat : host.files.stat (.ofText "a.css") =
      .ok (.file "p{field-sizing:content}".toUTF8.toList) := hread _
  have hcheck : (Rule.existing true).check host.files "a.css" = .ok () := by
    have htext : statText host.files "a.css" =
        .ok (.file "p{field-sizing:content}".toUTF8.toList) := by
      rw [statText, hstat]
      rfl
    rw [Rule.check, htext]
  have hrequest : requestOf host.files line = .ok (requestWith line "a.css") :=
    requestOf_eq_ok_iff.mpr ⟨"a.css", rfl, hcheck, rfl⟩
  have hfolder : host.files.isFolder (.ofText "a.css") = false := by
    rw [FileSystem.isFolder, hstat]
  have hconfig : configFor host.files (requestWith line "a.css") = none := by
    simp [configFor, requestWith, line, Line.value?, Line.values, hfolder]
  have hoptions : (optionsFor host.files (requestWith line "a.css")).1 = .ok .default := by
    rw [optionsFor_fst, baseFor, hconfig]
    rfl
  have hloads : Loads host.files (requestWith line "a.css") := by
    apply loads_of_configFor_eq_none hconfig
    intro o ho
    obtain rfl := Except.ok.inj (hoptions.symm.trans ho)
    rfl
  have hopens : ∀ p ∈ [Path.ofText "a.css"], Opens Analyzer.all p := by
    intro p hp
    obtain rfl := List.mem_singleton.mp hp
    exact Or.inr (by decide)
  have htable : tableFor host.files none .default = .ok (Table.bundled, []) := rfl
  obtain ⟨notes, hscan⟩ := scanFiles_of_opens host.files Table.bundled rfl htable hopens
  have hfile : host.files.isFile (.ofText "a.css") = true := by rw [FileSystem.isFile, hstat]
  have hscan' : scan host.files none Analyzer.all .default (requestWith line "a.css").target =
      .ok _ := (if_pos hfile).trans hscan
  have hissues : (resultFrom Analyzer.all Table.bundled .limited host.files.readBytes
      [.ofText "a.css"]).issues ≠ [] := by
    simp only [resultFrom, List.flatMap_cons, List.flatMap_nil, List.append_nil,
      FileSystem.readBytes, hstat]
    decide +kernel
  have hsame : SameScan line line' := by
    refine ⟨rfl, fun name hname ↦ ?_⟩
    simp only [freeSwitches, List.mem_cons, List.not_mem_nil, or_false, not_or] at hname
    simp [Line.values, line, line', Ne.symm hname.1, Ne.symm hname.2.2.2]
  have hworkers : ValidWorkers line := by
    intro n hn
    simp [line, Line.value?, Line.values] at hn
  have hworkers' : ValidWorkers line' := by
    intro n hn
    have hvalue : line'.value? "--workers" = some "2" := by decide
    rw [hvalue, Option.bind_some, htwo] at hn
    cases hn
    decide
  have hconsole : host.console.Lawful := Display.lawful_terminal 80
  obtain ⟨x, hends, -, -, hone, -, -, hfree⟩ :=
    (exitCode_run hfiles hconsole hline).2 _ hrequest hloads
  have hx := (hends _).mp (.scanned hoptions ((endsAt_iff rfl (Nat.le_refl 1) _).mpr rfl))
  have hcode := hone.mpr ⟨_, hx.symm.trans (congrArg (Except.map Prod.fst) hscan'), hissues⟩
  obtain ⟨_, -, -, hcode', -⟩ := hfree words' line' hline' hsame hworkers hworkers'
  exact ⟨hcode, hcode'.trans hcode⟩

end WebBaseline.Command.Scan

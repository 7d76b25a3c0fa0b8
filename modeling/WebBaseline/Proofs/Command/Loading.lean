import WebBaseline.Command
import WebBaseline.Proofs.Command.ExitCode
import WebBaseline.Proofs.Options.Scannable
import WebBaseline.Proofs.Table.Schema

/-!
# Files that cannot be loaded

A configuration and a table are loaded alike: the bytes of a file are read and decoded, the text is
read as a document, and the document is checked.  What is wrong with the document, or with the way
to the file, is told to the user, and the command ends with two.  Three kinds of faults pass by all
of this, `Untold`, and the command ends with one.
-/

namespace WebBaseline

/-- A fault of a file that nobody is told of: its path has a NUL in it, its bytes are no text, or
an entry of its document has the form of a value which does not exist. -/
inductive Untold (files : Store) (path : Path) : Prop where
  | nul (h : '\x00' ∈ path.toText.toList) : Untold files path
  | undecodable {bytes : List UInt8} (hbytes : files.readBytes path = .ok bytes)
      (h : Text.decode? bytes = none) : Untold files path
  | entry {bytes : List UInt8} {s : String} {fault : Yaml.Fault}
      (hbytes : files.readBytes path = .ok bytes) (hdecode : Text.decode? bytes = some s)
      (hread : files.document (String.ofList (Text.unifyNewlines s.toList)) = .error fault)
      (h : fault ≠ .malformed) : Untold files path

/-- A loader gives something good or a fault that the user is told of. -/
def Answers {ε α : Type} (message? : ε → Option String) (good : α → Prop) : Except ε α → Prop
  | .ok a => good a
  | .error e => (message? e).isSome = true

/-! ### Reading a file -/

theorem untold_iff {files : Store} {path : Path} :
    Untold files path ↔
      files.readText path = .error .nulInPath ∨ files.readText path = .error .undecodable ∨
        ∃ text fault, files.readText path = .ok text ∧ files.document text = .error fault ∧
          fault ≠ .malformed := by
  by_cases hnul : '\x00' ∈ path.toText.toList
  · have hread : files.readText path = .error .nulInPath := by simp [FileSystem.readText, hnul]
    exact ⟨fun _ ↦ Or.inl hread, fun _ ↦ .nul hnul⟩
  · have hcontains : path.toText.toList.contains '\x00' = false := by simpa using hnul
    rw [FileSystem.readText, hcontains]
    simp only [Bool.false_eq_true, if_false]
    constructor
    · intro h
      cases h with
      | nul h => exact absurd h hnul
      | undecodable hbytes h => simp [hbytes, h]
      | entry hbytes hdecode hread h => simp [hbytes, hdecode, hread, h]
    · cases hbytes : files.readBytes path with
      | error e => simp
      | ok bytes =>
          cases hdecode : Text.decode? bytes with
          | none => exact fun _ ↦ .undecodable hbytes hdecode
          | some s =>
              simp only [hdecode, reduceCtorEq, false_or, Except.ok.injEq]
              rintro ⟨_, fault, rfl, hread, h⟩
              exact .entry hbytes hdecode hread h

/-! ### Settings of a configuration -/

namespace Options

/-- A setting whose name is known and whose value is of the kind that a configuration gives. -/
structure WellKinded (s : String × Datum) : Prop where
  known : s.1 ∈ settingNames
  patterns : s.1 = "include_patterns" ∨ s.1 = "exclude_patterns" → ∃ xs, s.2 = .list xs
  features : s.1 = "features_path" → ∃ t, s.2 = .text t

theorem mem_of_lookup {settings : Settings} {name : String} {value : Datum}
    (h : settings.lookup name = some value) : (name, value) ∈ settings := by
  obtain ⟨before, after, rfl, -⟩ := List.lookup_eq_some_iff.mp h
  simp

theorem exists_list_of_patternList {option : String} {value patterns : Datum}
    (h : patternList option value = .ok patterns) : ∃ xs, patterns = .list xs := by
  unfold patternList at h
  split at h
  · exact ⟨[], (Except.ok.inj h).symm⟩
  · exact ⟨[_], (Except.ok.inj h).symm⟩
  · exact ⟨_, (Except.ok.inj h).symm⟩
  · simp at h

theorem patternList_eq_error {option : String} {value : Datum} {e : OptionsError}
    (h : patternList option value = .error e) : e = .patternsNotList option := by
  unfold patternList at h
  split at h
  · simp at h
  · simp at h
  · simp at h
  · exact (Except.error.inj h).symm

theorem list_of_mem_patternSetting {entries : List (Datum × Datum)} {option name : String}
    {settings : Settings} (h : patternSetting entries option name = .ok settings) :
    ∀ s ∈ settings, s.1 = name ∧ ∃ xs, s.2 = .list xs := by
  unfold patternSetting at h
  split at h
  · split at h
    · rename_i patterns hpatterns
      cases h
      obtain ⟨xs, rfl⟩ := exists_list_of_patternList hpatterns
      simp
    · simp at h
  · cases h
    simp

theorem message_of_patternSetting {entries : List (Datum × Datum)} {option name : String}
    {e : OptionsError} (h : patternSetting entries option name = .error e) :
    e.message?.isSome = true := by
  unfold patternSetting at h
  split at h
  · split at h
    · simp at h
    · rename_i hpatterns
      cases h
      rw [patternList_eq_error hpatterns]
      rfl
  · simp at h

theorem wellKinded_of_mem_plainSetting {entries : List (Datum × Datum)} {option name : String}
    (hname : name ∈ ["baseline_level", "workers", "verbose"]) :
    ∀ s ∈ plainSetting entries option name, WellKinded s := by
  intro s hs
  unfold plainSetting at hs
  split at hs
  · simp at hs
  · obtain rfl := List.mem_singleton.mp hs
    simp only [List.mem_cons, List.not_mem_nil, or_false] at hname
    rcases hname with rfl | rfl | rfl
    all_goals exact ⟨by simp [settingNames], by simp, by simp⟩

theorem wellKinded_of_mem_featuresSetting {entries : List (Datum × Datum)} {base : Option Path} :
    ∀ s ∈ featuresSetting entries base, WellKinded s := by
  intro s hs
  unfold featuresSetting at hs
  simp only at hs
  split at hs
  · obtain rfl := List.mem_singleton.mp hs
    exact ⟨by simp [settingNames], by simp, fun _ ↦ ⟨_, rfl⟩⟩
  · simp at hs

theorem wellKinded_of_settingsOf {entries : List (Datum × Datum)} {base : Option Path}
    {settings : Settings} (h : settingsOf entries base = .ok settings) :
    ∀ s ∈ settings, WellKinded s := by
  simp only [settingsOf, bind_eq_ok] at h
  obtain ⟨including, hincluding, excluding, hexcluding, hsettings⟩ := h
  cases hsettings
  intro s hs
  simp only [List.mem_append] at hs
  rcases hs with ((((hs | hs) | hs) | hs) | hs) | hs
  · obtain ⟨hname, hlist⟩ := list_of_mem_patternSetting hincluding s hs
    exact ⟨by simp [hname, settingNames], fun _ ↦ hlist, by simp [hname]⟩
  · obtain ⟨hname, hlist⟩ := list_of_mem_patternSetting hexcluding s hs
    exact ⟨by simp [hname, settingNames], fun _ ↦ hlist, by simp [hname]⟩
  · exact wellKinded_of_mem_plainSetting (by decide) s hs
  · exact wellKinded_of_mem_plainSetting (by decide) s hs
  · exact wellKinded_of_mem_plainSetting (by decide) s hs
  · exact wellKinded_of_mem_featuresSetting s hs

theorem message_of_settingsOf {entries : List (Datum × Datum)} {base : Option Path}
    {e : OptionsError} (h : settingsOf entries base = .error e) : e.message?.isSome = true := by
  simp only [settingsOf, bind_eq_error] at h
  rcases h with h | ⟨_, -, h | ⟨_, -, h⟩⟩
  · exact message_of_patternSetting h
  · exact message_of_patternSetting h
  · simp [pure, Except.pure] at h

/-- Whatever a configuration holds, the user is told what is wrong with it. -/
theorem message_of_ofDatum {document : Datum} {base : Option Path} {e : OptionsError}
    (h : (ofDatum document base).1 = .error e) : e.message?.isSome = true := by
  unfold ofDatum at h
  split at h
  case h_2 =>
    cases h
    rfl
  case h_1 entries =>
    simp only at h
    split at h
    case h_2 hsettings =>
      cases h
      exact message_of_settingsOf hsettings
    case h_1 settings hsettings =>
      have hkinds := wellKinded_of_settingsOf hsettings
      refine message_of_change (fun s hs ↦ (hkinds s hs).known) ?_ ?_ ?_ h
      · intro v hv
        exact (hkinds _ (mem_of_lookup hv)).patterns (Or.inl rfl)
      · intro v hv
        exact (hkinds _ (mem_of_lookup hv)).patterns (Or.inr rfl)
      · intro v hv
        exact (hkinds _ (mem_of_lookup hv)).features rfl

end Options

/-! ### The two loaders -/

/-- What comes of a loader, by how far it gets with its file. -/
theorem answers_iff_of_reading {files : Store} {path : Path} {ε α : Type}
    {message? : ε → Option String} {good : α → Prop} {x : Except ε α}
    (hclosed : ∀ e, files.readText path = .error (.os e) → Answers message? good x)
    (hnul : files.readText path = .error .nulInPath → ¬ Answers message? good x)
    (hbytes : files.readText path = .error .undecodable → ¬ Answers message? good x)
    (hform : ∀ text, files.readText path = .ok text → files.document text = .error .malformed →
      Answers message? good x)
    (hentry : ∀ text fault, files.readText path = .ok text → files.document text = .error fault →
      fault ≠ .malformed → ¬ Answers message? good x)
    (hdocument : ∀ text document, files.readText path = .ok text →
      files.document text = .ok document → Answers message? good x) :
    Answers message? good x ↔ ¬ Untold files path := by
  rw [untold_iff]
  cases hread : files.readText path with
  | error e =>
      cases e with
      | os e => simpa using hclosed e hread
      | undecodable => simpa using hbytes hread
      | nulInPath => simpa using hnul hread
  | ok text =>
      cases hyaml : files.document text with
      | ok document => simpa [hyaml] using hdocument text document hread hyaml
      | error fault =>
          by_cases hfault : fault = .malformed
          · subst hfault
            simpa [hyaml] using hform text hread hyaml
          · simpa [hyaml, hfault] using hentry text fault hread hyaml hfault

theorem Options.answers_load_iff (files : Store) (path : Path) :
    Answers OptionsError.message? Scannable (load files path).1 ↔ ¬ Untold files path := by
  refine answers_iff_of_reading ?_ ?_ ?_ ?_ ?_ ?_
  · intro e hread
    simp [load, hread, Answers, OptionsError.message?]
  · intro hread
    simp [load, hread, Answers, OptionsError.message?]
  · intro hread
    simp [load, hread, Answers, OptionsError.message?]
  · intro text hread hyaml
    simp [load, hread, hyaml, Answers, OptionsError.message?]
  · intro text fault hread hyaml hfault
    cases fault
    case malformed => exact absurd rfl hfault
    all_goals simp [load, hread, hyaml, Answers, OptionsError.message?]
  · intro text document hread hyaml
    cases hload : (load files path).1 with
    | ok o => exact (Built.file hload).scannable
    | error e =>
        simp only [load, hread, hyaml] at hload
        exact message_of_ofDatum hload

theorem Table.answers_load_iff (files : Store) (path : Path) :
    Answers TableFileError.message? (fun x ↦ Consistent x.1.features) (load files path) ↔
      ¬ Untold files path := by
  refine answers_iff_of_reading ?_ ?_ ?_ ?_ ?_ ?_
  · intro e hread
    simp [load, hread, Answers, TableFileError.message?]
  · intro hread
    simp [load, hread, Answers, TableFileError.message?]
  · intro hread
    simp [load, hread, Answers, TableFileError.message?]
  · intro text hread hyaml
    simp [load, hread, hyaml, Answers, TableFileError.message?]
  · intro text fault hread hyaml hfault
    cases fault
    case malformed => exact absurd rfl hfault
    all_goals simp [load, hread, hyaml, Answers, TableFileError.message?]
  · intro text document hread hyaml
    simp only [load, hread, hyaml]
    cases htable : ofDatum (if document.truthy then document else .record []) with
    | ok t =>
        obtain ⟨_, _, _, -, -, -, hconsistent, rfl⟩ := ofDatum_eq_ok_iff.mp htable
        exact hconsistent
    | error e => rfl

/-! ### How commands end -/

namespace Command

theorem Ending.exitCode_failed_iff {cause : WebBaseline.Scan.ScanError} :
    (failed cause).exitCode = 2 ↔ cause.message?.isSome = true := by
  rw [exitCode]
  by_cases h : cause.message?.isSome = true <;> simp [h]

section Commands

variable {host : Host} {path : Path} {words : List String} {line : Line}

theorem Scan.ending_of_config {r : Scan.Request} {e : OptionsError}
    (hline : host.readLine Scan.usage words = .ok line)
    (hrequest : Scan.requestOf host.files line = .ok r)
    (hconfig : Scan.configFor host.files r = some path)
    (hload : (Options.load host.files path).1 = .error e) :
    (Scan.run host words).ending = .failed (.options e) := by
  have hoptions : (Scan.optionsFor host.files r).1 = .error e := by
    rw [Scan.optionsFor_fst, Scan.baseFor, hconfig]
    simp only [hload]
    rfl
  rw [Scan.run_ending hline hrequest, Scan.outcome, hoptions]

theorem Scan.ending_of_table {r : Scan.Request} {o : Options} {e : TableFileError}
    (hline : host.readLine Scan.usage words = .ok line)
    (hrequest : Scan.requestOf host.files line = .ok r)
    (hoptions : (Scan.optionsFor host.files r).1 = .ok o) (hfeatures : o.features = some path)
    (htarget : host.files.isFile r.target = true ∨ host.files.isFolder r.target = true)
    (hload : Table.load host.files path = .error e) :
    (Scan.run host words).ending = .failed (.table e) := by
  have htable : WebBaseline.Scan.tableFor host.files none o = .error e := by
    simp [WebBaseline.Scan.tableFor, hfeatures, hload, Except.map]
  have hscan : WebBaseline.Scan.scan host.files none Analyzer.all o r.target =
      .error (.table e) := by
    unfold WebBaseline.Scan.scan WebBaseline.Scan.scanFiles
    simp only [htable]
    split
    · rfl
    · rename_i hfile
      rw [if_pos (htarget.resolve_left hfile)]
  rw [Scan.run_ending hline hrequest, Scan.outcome, hoptions]
  simp [hscan, Except.map]

theorem Features.ending_of_table {s : String} {e : TableFileError}
    (hline : host.readLine Features.usage words = .ok line) (hoperands : line.operands = [])
    (hvalue : line.value? "--features" = some s)
    (hload : Table.load host.files (.ofText s) = .error e) :
    (Features.run host words).ending = .failed (.table e) := by
  rw [Features.run, hline]
  simp [hoperands, Features.tableFor, hvalue, hload, Except.map]

end Commands

/-- A loader gives valid options, or a table, or else a fault that the user is told of, unless the
file has an untold fault.  A command that loads a file in vain ends with two just as well unless the
fault is an untold one. -/
theorem answers_iff_not_untold (host : Host) (path : Path) :
    (Answers OptionsError.message? Options.Scannable (Options.load host.files path).1 ↔
      ¬ Untold host.files path) ∧
    (Answers TableFileError.message? (fun x ↦ Table.Consistent x.1.features)
      (Table.load host.files path) ↔ ¬ Untold host.files path) ∧
    (∀ words line r e, host.readLine Scan.usage words = .ok line →
      Scan.requestOf host.files line = .ok r → Scan.configFor host.files r = some path →
      (Options.load host.files path).1 = .error e →
      ((Scan.run host words).ending.exitCode = 2 ↔ ¬ Untold host.files path)) ∧
    (∀ words line r o e, host.readLine Scan.usage words = .ok line →
      Scan.requestOf host.files line = .ok r → (Scan.optionsFor host.files r).1 = .ok o →
      o.features = some path →
      host.files.isFile r.target = true ∨ host.files.isFolder r.target = true →
      Table.load host.files path = .error e →
      ((Scan.run host words).ending.exitCode = 2 ↔ ¬ Untold host.files path)) ∧
    ∀ words line s e, host.readLine Features.usage words = .ok line → line.operands = [] →
      line.value? "--features" = some s → path = .ofText s → Table.load host.files path = .error e →
      ((Features.run host words).ending.exitCode = 2 ↔ ¬ Untold host.files path) := by
  have hconfig := Options.answers_load_iff host.files path
  have htable := Table.answers_load_iff host.files path
  refine ⟨hconfig, htable, ?_, ?_, ?_⟩
  · intro words line r e hline hrequest hpath hload
    rw [Scan.ending_of_config hline hrequest hpath hload, Ending.exitCode_failed_iff, ← hconfig,
      hload]
    rfl
  · intro words line r o e hline hrequest hoptions hfeatures htarget hload
    rw [Scan.ending_of_table hline hrequest hoptions hfeatures htarget hload,
      Ending.exitCode_failed_iff, ← htable, hload]
    rfl
  · rintro words line s e hline hoperands hvalue rfl hload
    rw [Features.ending_of_table hline hoperands hvalue hload, Ending.exitCode_failed_iff, ← htable,
      hload]
    rfl

/-- A single byte that no text starts with, and a day that is in no calendar. -/
theorem not_answers_of_untold :
    let folder (day : FileTree) : FileSystem :=
      { top := .folder [("a.css", .file []), ("b.yaml", .file [0xFF]), ("d.yaml", day)] }
    let host := Host.ofFiles (folder (.file "2024-02-30".toUTF8.toList)) 80
    (Options.load host.files (.ofText "b.yaml")).1 = .error .undecodable ∧
    Table.load host.files (.ofText "b.yaml") = .error .undecodable ∧
    ¬ Answers OptionsError.message? Options.Scannable
      (Options.load host.files (.ofText "b.yaml")).1 ∧
    ¬ Answers TableFileError.message? (fun x ↦ Table.Consistent x.1.features)
      (Table.load host.files (.ofText "b.yaml")) ∧
    (Options.load host.files (.ofText "d.yaml")).1 = .error (.badEntry .badValue) ∧
    (Scan.run host ["a.css", "--config", "b.yaml"]).ending.exitCode = 1 := by
  intro folder host
  let line : Line := { switches := [("--config", some "b.yaml")], operands := ["a.css"] }
  -- the last file is left open, so that its bytes are not looked at
  have hentries : ∀ name content, (name, content) ∈ [("a.css", []), ("b.yaml", [0xFF])] →
      ∀ day, (folder day).stat (.ofText name) = .ok (.file content) := by
    intro name content hmem day
    simp only [List.mem_cons, Prod.mk.injEq, List.not_mem_nil, or_false] at hmem
    rcases hmem with ⟨rfl, rfl⟩ | ⟨rfl, rfl⟩ <;> cbv
  have hbytes : ∀ bytes, (folder (.file bytes)).readBytes (.ofText "d.yaml") = .ok bytes := by
    intro bytes
    cbv
  have hstat : ∀ name content, (name, content) ∈ [("a.css", []), ("b.yaml", [0xFF])] →
      host.files.stat (.ofText name) = .ok (.file content) :=
    fun name content hmem ↦ hentries name content hmem _
  have hday : host.files.readBytes (.ofText "d.yaml") = .ok "2024-02-30".toUTF8.toList := hbytes _
  have hstyle : statText host.files "a.css" = .ok (.file []) := by
    rw [statText, hstat "a.css" [] (by simp)]
    rfl
  have hbroken : statText host.files "b.yaml" = .ok (.file [0xFF]) := by
    rw [statText, hstat "b.yaml" [0xFF] (by simp)]
    rfl
  have hread : host.files.readText (.ofText "b.yaml") = .error .undecodable := by
    rw [FileSystem.readText, FileSystem.readBytes, hstat "b.yaml" [0xFF] (by simp)]
    rfl
  have hread' : host.files.readText (.ofText "d.yaml") = .ok "2024-02-30" := by
    have hdecode : Text.decode? "2024-02-30".toUTF8.toList = some "2024-02-30" := by
      decide +kernel
    rw [FileSystem.readText, hday]
    simp only [hdecode]
    rfl
  have hyaml : host.files.document "2024-02-30" = .error .badValue := rfl
  have hconfig : (Options.load host.files (.ofText "b.yaml")).1 = .error .undecodable := by
    simp [Options.load, hread]
  have htable : Table.load host.files (.ofText "b.yaml") = .error .undecodable := by
    simp [Table.load, hread]
  have hline : host.readLine Scan.usage ["a.css", "--config", "b.yaml"] = .ok line := by
    have hnames : (line.switches.map Prod.fst).eraseDups = ["--config"] := by decide
    have hvalues (files : FileSystem)
        (h : statText files "b.yaml" = .ok (.file [0xFF])) :
        checkValues files Scan.usage line ["--config"] = none := by
      simp [checkValues, Scan.usage, Line.value?, Line.values, line, Rule.check, h]
    rw [readLine_ofFiles]
    apply readChecked_eq_ok (by decide +kernel) (by decide)
    rw [hnames]
    exact hvalues (folder _) hbroken
  have hrequest : Scan.requestOf host.files line = .ok (Scan.requestWith line "a.css") :=
    Scan.requestOf_eq_ok_iff.mpr ⟨"a.css", rfl, by rw [Rule.check, hstyle], rfl⟩
  refine ⟨hconfig, htable, ?_, ?_, ?_, ?_⟩
  · simp [hconfig, Answers, OptionsError.message?]
  · simp [htable, Answers, TableFileError.message?]
  · simp [Options.load, hread', hyaml]
  · rw [Scan.ending_of_config hline hrequest rfl hconfig]
    rfl

end Command

end WebBaseline

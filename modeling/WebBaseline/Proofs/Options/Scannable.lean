import WebBaseline.Proofs.Glob.Pruning
import WebBaseline.Proofs.Options
import WebBaseline.Proofs.Path
import WebBaseline.Scan

/-!
# Options that can be used

Options are made of settings, of a configuration or of other options, and each way checks what it
takes over.  So options that exist have a pattern for the files they include, no blank pattern and
at least one worker, and a scan can ask all their patterns.  Checking changes nothing in what was
checked before: options made anew of their own fields are the same options, and changing some
settings is making options anew of these settings and of the fields that are left.
-/

namespace WebBaseline

namespace Options

variable {o o' : Options} {settings : Settings}

/-- Options whose patterns can be asked and whose files can be scanned. -/
structure Scannable (o : Options) : Prop where
  includes : o.includePatterns ≠ []
  including : ∀ p ∈ o.includePatterns, Text.isBlankText p = false
  excluding : ∀ p ∈ o.excludePatterns, Text.isBlankText p = false
  workers : 1 ≤ o.workers
  features : ∀ p, o.features = some p → p.Canonical

/-! ### Checking settings -/

theorem not_blank_of_checkPatterns {option : String} {raw : List Datum} {patterns : List String}
    (h : checkPatterns option raw = .ok patterns) :
    ∀ p ∈ patterns, Text.isBlankText p = false := by
  fun_induction checkPatterns option raw generalizing patterns with
  | case1 =>
      cases h
      simp
  | case2 => simp at h
  | case3 s rest hblank more hmore ih =>
      cases h
      intro p hp
      rcases List.mem_cons.mp hp with rfl | hp
      · simpa using hblank
      · exact ih hmore p hp
  | case4 => simp at h
  | case5 => simp at h

theorem checkPatterns_map_text {patterns : List String}
    (h : ∀ p ∈ patterns, Text.isBlankText p = false) (option : String) :
    checkPatterns option (patterns.map .text) = .ok patterns := by
  induction patterns with
  | nil => rfl
  | cons p rest ih =>
      have hrest := ih fun q hq ↦ h q (List.mem_cons_of_mem p hq)
      simp [checkPatterns, h p List.mem_cons_self, hrest]

theorem not_blank_of_patternsOf {option : String} {value : Datum} {patterns : List String}
    (h : patternsOf option value = .ok patterns) : ∀ p ∈ patterns, Text.isBlankText p = false := by
  unfold patternsOf at h
  split at h
  · exact not_blank_of_checkPatterns h
  · split at h
    · exact not_blank_of_checkPatterns h
    · simp at h

theorem includeOf_eq_ok_iff {value : Datum} {patterns : List String} :
    includeOf value = .ok patterns ↔ patternsOf "include" value = .ok patterns ∧ patterns ≠ [] := by
  unfold includeOf
  cases patternsOf "include" value with
  | error e => simp
  | ok ps =>
      cases ps with
      | nil => simp
      | cons p rest =>
          simp only [Except.ok.injEq]
          constructor
          · rintro rfl
            simp
          · exact fun h ↦ h.1

theorem canonical_of_featuresOf {value : Datum} {features : Option Path}
    (h : featuresOf value = .ok features) : ∀ p, features = some p → p.Canonical := by
  unfold featuresOf at h
  split at h
  · cases h
    simp
  · cases h
    rintro p hp
    cases hp
    exact Path.canonical_ofText _
  · simp at h

/-- What holds of the value before and of all that the rule reads holds of a setting. -/
theorem of_settingOr {α : Type} {P : α → Prop} {name : String} {before after : α}
    {rule : Datum → Except OptionsError α} (hbefore : P before)
    (hrule : ∀ value a, rule value = .ok a → P a)
    (h : settingOr settings name before rule = .ok after) : P after := by
  unfold settingOr at h
  split at h
  · exact hrule _ after h
  · cases h
    exact hbefore

theorem scannable_default : default.Scannable where
  includes := by decide
  including := by decide
  excluding := by decide
  workers := Nat.le_refl 1
  features := by simp [default]

/-- What one change keeps. -/
theorem Scannable.change (hbefore : o.Scannable) (h : o.change settings = .ok o') :
    o'.Scannable := by
  obtain ⟨including, excluding, level, workers, features, hincluding, hexcluding, -, hworkers,
    hfeatures, rfl⟩ := change_eq_ok h
  have hrule : ∀ value ps, includeOf value = .ok ps →
      ps ≠ [] ∧ ∀ p ∈ ps, Text.isBlankText p = false := by
    intro value ps hps
    obtain ⟨hpatterns, hne⟩ := includeOf_eq_ok_iff.mp hps
    exact ⟨hne, not_blank_of_patternsOf hpatterns⟩
  obtain ⟨hne, hnotblank⟩ :=
    of_settingOr (P := fun ps ↦ ps ≠ [] ∧ ∀ p ∈ ps, Text.isBlankText p = false)
      ⟨hbefore.includes, hbefore.including⟩ hrule hincluding
  exact
    { includes := hne
      including := hnotblank
      excluding := of_settingOr hbefore.excluding (fun _ _ ↦ not_blank_of_patternsOf) hexcluding
      workers := of_settingOr hbefore.workers (fun _ _ ↦ one_le_of_workersOf) hworkers
      features := of_settingOr hbefore.features (fun _ _ ↦ canonical_of_featuresOf) hfeatures }

/-! ### Options made anew -/

/-- The fields of options as the settings that give them. -/
def fields (o : Options) : Settings :=
  [("include_patterns", .tuple (o.includePatterns.map .text)),
   ("exclude_patterns", .tuple (o.excludePatterns.map .text)),
   ("baseline_level", .text o.level.label),
   ("verbose", .bool o.verbose),
   ("workers", .int o.workers),
   ("features_path", match o.features with
     | some p => .text p.toText
     | none => .null)]

/-- Options made anew of settings and of the fields of other options, which the settings win over;
everything is checked. -/
def remade (o : Options) (settings : Settings) : Except OptionsError Options :=
  ({ default with cancel := o.cancel } : Options).change (settings ++ o.fields)

theorem levelOf_label (l : Level) : levelOf (.text l.label) = .ok l := by
  have hlevel : Level.ofDatum? (.text l.label) = some l := by cases l <;> decide +kernel
  rw [levelOf, hlevel]

theorem workersOf_natCast {n : Nat} (h : 1 ≤ n) : workersOf (.int n) = .ok n := by
  have hn : ¬ (n : Int) < 1 := by omega
  simp [workersOf, hn]

/-- A setting that is not given is read off the field behind it. -/
theorem settingOr_append {α : Type} {fields : Settings} {name : String} {value : Datum}
    {before field : α} {rule : Datum → Except OptionsError α}
    (hfield : fields.lookup name = some value) (hrule : rule value = .ok field) :
    settingOr (settings ++ fields) name before rule = settingOr settings name field rule := by
  unfold settingOr
  rw [List.lookup_append, hfield]
  cases settings.lookup name with
  | none => simpa using hrule
  | some v => simp

theorem known_fields (o : Options) : Known o.fields := by
  simp [Known, fields, settingNames]

theorem Scannable.featuresOf_field (h : o.Scannable) :
    featuresOf (match o.features with
      | some p => .text p.toText
      | none => .null) = .ok o.features := by
  cases hfeatures : o.features with
  | none => rfl
  | some p => simp [featuresOf, Path.ofText_toText (h.features p hfeatures)]

theorem Scannable.remade_eq_change (h : o.Scannable) (settings : Settings) :
    o.remade settings = o.change settings := by
  have hincluding : includeOf (.tuple (o.includePatterns.map .text)) = .ok o.includePatterns :=
    includeOf_eq_ok_iff.mpr ⟨checkPatterns_map_text h.including _, h.includes⟩
  have hexcluding : patternsOf "exclude" (.tuple (o.excludePatterns.map .text)) =
      .ok o.excludePatterns := checkPatterns_map_text h.excluding _
  have hverbose : o.fields.lookup "verbose" = some (.bool o.verbose) := rfl
  have hunknown : unknownName? (settings ++ o.fields) = unknownName? settings := by
    have hfields : unknownName? o.fields = none := unknownName?_eq_none_iff.mpr (known_fields o)
    rw [unknownName?] at hfields ⊢
    rw [List.map_append, List.find?_append, hfields, Option.or_none]
    rfl
  unfold remade Options.change
  rw [hunknown]
  split
  · rfl
  · rw [settingOr_append rfl hincluding, settingOr_append rfl hexcluding,
      settingOr_append rfl (levelOf_label o.level),
      settingOr_append rfl (workersOf_natCast h.workers), settingOr_append rfl h.featuresOf_field,
      List.lookup_append, hverbose]
    cases settings.lookup "verbose" <;> rfl

theorem eq_of_settingOr {α : Type} {name : String} {before after : α}
    {rule : Datum → Except OptionsError α} (hname : settings.lookup name = none)
    (h : settingOr settings name before rule = .ok after) : after = before := by
  rw [settingOr, hname] at h
  exact (Except.ok.inj h).symm

theorem lookup_fields_of_change (h : o.change settings = .ok o') {name : String}
    (hname : settings.lookup name = none) : o'.fields.lookup name = o.fields.lookup name := by
  obtain ⟨including, excluding, level, workers, features, hincluding, hexcluding, hlevel, hworkers,
    hfeatures, rfl⟩ := change_eq_ok h
  by_cases hknown : name ∈ settingNames
  · simp only [settingNames, List.mem_cons, List.not_mem_nil, or_false] at hknown
    rcases hknown with rfl | rfl | rfl | rfl | rfl | rfl
    · rw [eq_of_settingOr hname hincluding]
      rfl
    · rw [eq_of_settingOr hname hexcluding]
      rfl
    · rw [eq_of_settingOr hname hlevel]
      rfl
    · rw [verboseOr, hname]
      rfl
    · rw [eq_of_settingOr hname hworkers]
      rfl
    · rw [eq_of_settingOr hname hfeatures]
      rfl
  · have hnone : ∀ q : Options, q.fields.lookup name = none := by
      intro q
      refine lookup_eq_none_iff_not_mem.mpr fun hmem ↦ hknown ?_
      obtain ⟨s, hs, rfl⟩ := List.mem_map.mp hmem
      exact known_fields q s hs
    rw [hnone, hnone]

/-! ### Ways to options -/

/-- The options that can be made: of settings and of answers to the question whether to stop, of a
configuration, of a configuration file, and of options that were made before. -/
inductive Built : Options → Prop where
  | settings {settings : Settings} {o : Options} (h : ofSettings settings = .ok o) : Built o
  | document {document : Datum} {base : Option Path} {o : Options}
      (h : (ofDatum document base).1 = .ok o) : Built o
  | file {files : Store} {path : Path} {o : Options} (h : (load files path).1 = .ok o) : Built o
  | override {o o' : Options} {settings : Settings} (before : Built o)
      (h : o.override settings = .ok o') : Built o'
  | watched {o : Options} (before : Built o) (answers : Nat → Bool) :
      Built { o with cancel := some answers }

theorem exists_settings_of_ofDatum {document : Datum} {base : Option Path}
    (h : (ofDatum document base).1 = .ok o) : ∃ settings, ofSettings settings = .ok o := by
  unfold ofDatum at h
  split at h
  · simp only at h
    split at h
    · exact ⟨_, h⟩
    · simp at h
  · simp at h

theorem exists_document_of_load {files : Store} {path : Path}
    (h : (load files path).1 = .ok o) : ∃ document base, (ofDatum document base).1 = .ok o := by
  unfold load at h
  split at h
  · simp at h
  · simp at h
  · simp at h
  · split at h
    · simp at h
    · simp at h
    · exact ⟨_, _, h⟩

theorem Built.scannable (h : Built o) : o.Scannable := by
  induction h with
  | settings h => exact scannable_default.change h
  | document h =>
      obtain ⟨settings, hsettings⟩ := exists_settings_of_ofDatum h
      exact scannable_default.change hsettings
  | file h =>
      obtain ⟨document, base, hdocument⟩ := exists_document_of_load h
      obtain ⟨settings, hsettings⟩ := exists_settings_of_ofDatum hdocument
      exact scannable_default.change hsettings
  | override _ h ih =>
      rw [override_eq_change] at h
      exact ih.change h
  | watched _ answers ih => exact ⟨ih.includes, ih.including, ih.excluding, ih.workers, ih.features⟩

/-! ### Asking the patterns of options -/

/-- Whether a file is scanned, each pattern being checked before it is asked. -/
def asked (o : Options) (relative : String) : Except Glob.Fault Bool := do
  if ← Glob.matchesAny o.includePatterns relative then
    return !(← Glob.matchesAny o.excludePatterns relative)
  else return false

theorem Scannable.asked_eq (h : o.Scannable) (relative : String) :
    o.asked relative = .ok (o.selects relative) := by
  rw [asked, Glob.matchesAny_of_not_blank h.including, Glob.matchesAny_of_not_blank h.excluding,
    selects]
  cases o.includePatterns.any fun p ↦ Glob.accepts p relative <;> rfl

theorem Scannable.prunes_eq (h : o.Scannable) (relative : String) :
    Glob.prunes o.excludePatterns relative = .ok (o.prunes relative) :=
  Glob.prunes_of_not_blank h.excluding relative

theorem lookup_given_eq_none {name : String} (h : ∀ v, (name, v) ∈ settings → v = .null) :
    (given settings).lookup name = none := by
  refine lookup_eq_none_iff_not_mem.mpr fun hname ↦ ?_
  obtain ⟨⟨_, v⟩, hs, rfl⟩ := List.mem_map.mp hname
  obtain ⟨hmem, hgiven⟩ := List.mem_filter.mp hs
  rw [h v hmem] at hgiven
  simp at hgiven

/-- Options that were made in any way can be used.  No pattern is blank, so that none of the
questions that a search for files asks is refused; the search is the one that goes by the answers.
Making the options anew of their own fields gives them back, and changing settings is making them
anew, which keeps every field without a setting of its own. -/
theorem usable_of_built {o : Options} (h : Built o) :
    (o.includePatterns ≠ [] ∧ (∀ p ∈ o.includePatterns ++ o.excludePatterns, Text.trim p ≠ "") ∧
      o.level ∈ Level.all ∧ 1 ≤ o.workers) ∧
    (∀ p ∈ o.includePatterns ++ o.excludePatterns, ∀ path, ∃ b, Glob.isMatch p path = .ok b) ∧
    (∀ path, (∃ b, Glob.matchesAny o.includePatterns path = .ok b) ∧
      ∃ b, Glob.matchesAny o.excludePatterns path = .ok b) ∧
    (∃ prunes selects : String → Bool,
      (∀ relative, Glob.prunes o.excludePatterns relative = .ok (prunes relative)) ∧
      (∀ relative, o.asked relative = .ok (selects relative)) ∧
      ∀ files root, Scan.listFiles files o root =
        Search.run { files, root, prunes, selects }) ∧
    o.remade [] = .ok o ∧
    ∀ settings, o.override settings = o.remade (given settings) ∧
      ∀ o', o.override settings = .ok o' → o'.cancel = o.cancel ∧
        ∀ name, (∀ v, (name, v) ∈ settings → v = .null) →
          o'.fields.lookup name = o.fields.lookup name := by
  have hscannable := h.scannable
  have hpatterns : ∀ p ∈ o.includePatterns ++ o.excludePatterns, Text.isBlankText p = false := by
    intro p hp
    rcases List.mem_append.mp hp with hp | hp
    · exact hscannable.including p hp
    · exact hscannable.excluding p hp
  refine ⟨⟨hscannable.includes, ?_, ?_, hscannable.workers⟩, ?_, ?_, ?_, ?_, ?_⟩
  · intro p hp htrim
    rw [Glob.trim_eq_empty_iff, hpatterns p hp] at htrim
    simp at htrim
  · cases o.level <;> decide
  · intro p hp path
    exact ⟨_, Glob.isMatch_of_not_blank (hpatterns p hp) path⟩
  · intro path
    exact ⟨⟨_, Glob.matchesAny_of_not_blank hscannable.including path⟩,
      ⟨_, Glob.matchesAny_of_not_blank hscannable.excluding path⟩⟩
  · exact ⟨o.prunes, o.selects, hscannable.prunes_eq, hscannable.asked_eq, fun _ _ ↦ rfl⟩
  · rw [hscannable.remade_eq_change, change_nil]
  · intro settings
    rw [override_eq_change, hscannable.remade_eq_change]
    refine ⟨rfl, fun o' hchange ↦ ⟨?_, fun name hname ↦ ?_⟩⟩
    · obtain ⟨_, _, _, _, _, -, -, -, -, -, rfl⟩ := change_eq_ok hchange
      rfl
    · exact lookup_fields_of_change hchange (lookup_given_eq_none hname)

/-- A configuration whose table lies beside it, then settings of which one is null and another takes
its patterns from the keys of a record, then answers to the question whether to stop. -/
theorem usable_of_built_overridden :
    let document : Datum := .record
      [(.text "include", .text "src/**/*.css"), (.text "exclude", .null),
       (.text "baseline_level", .text " Newly "), (.text "workers", .int 3),
       (.text "features", .text "t//x.yaml")]
    let settings : Settings :=
      [("workers", .int 2), ("baseline_level", .null),
       ("include_patterns", .record [(.text "a*", .null)])]
    let o : Options :=
      { includePatterns := ["a*"], excludePatterns := [], level := .newly, verbose := false
        workers := 2, features := some ⟨"", ["conf", "t", "x.yaml"]⟩
        cancel := some fun polls ↦ 3 ≤ polls }
    ((ofDatum document (some (.ofText "conf"))).1.bind fun made ↦ made.override settings) =
      .ok { o with cancel := none } ∧ o.remade [] = .ok o := by
  intro document settings o
  have hmade : (ofDatum document (some (.ofText "conf"))).1 = .ok
      { o with includePatterns := ["src/**/*.css"], workers := 3, cancel := none } := rfl
  have hchanged : Options.override
      { o with includePatterns := ["src/**/*.css"], workers := 3, cancel := none } settings =
        .ok { o with cancel := none } := rfl
  have hbuilt : Built o :=
    .watched (.override (.document hmade) hchanged) fun polls ↦ 3 ≤ polls
  refine ⟨?_, (usable_of_built hbuilt).2.2.2.2.1⟩
  rw [hmade]
  exact hchanged

end Options

end WebBaseline

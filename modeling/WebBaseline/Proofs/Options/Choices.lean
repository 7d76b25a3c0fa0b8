import WebBaseline.Proofs.Options.Scannable

/-!
# What a configuration chooses

A configuration chooses some of the options, and leaves the others open.  It leaves open what it
has no word for, and what it has a null for; only a null for the patterns to exclude is a choice,
that of no pattern.  A configuration that is accepted stands for its choices, laid over the
defaults.
-/

namespace WebBaseline.Options

/-! ### Choices -/

/-- What is chosen of the options, the rest being left open. -/
structure Choices where
  includePatterns : Option (List String) := none
  excludePatterns : Option (List String) := none
  level : Option Level := none
  workers : Option Nat := none
  features : Option Path := none
  verbose : Option Bool := none

namespace Choices

/-- The choices of two, the first one winning. -/
def or (c d : Choices) : Choices where
  includePatterns := c.includePatterns.or d.includePatterns
  excludePatterns := c.excludePatterns.or d.excludePatterns
  level := c.level.or d.level
  workers := c.workers.or d.workers
  features := c.features.or d.features
  verbose := c.verbose.or d.verbose

/-- Options in which what is chosen takes the place of what they had. -/
def onto (c : Choices) (o : Options) : Options :=
  { o with
    includePatterns := c.includePatterns.getD o.includePatterns
    excludePatterns := c.excludePatterns.getD o.excludePatterns
    level := c.level.getD o.level
    workers := c.workers.getD o.workers
    features := c.features.or o.features
    verbose := c.verbose.getD o.verbose }

theorem onto_onto (c d : Choices) (o : Options) : c.onto (d.onto o) = (c.or d).onto o := by
  have hgetD : ∀ {α : Type} (x y : Option α) (z : α), x.getD (y.getD z) = (x.or y).getD z := by
    intro α x y z
    cases x <;> rfl
  simp only [onto, or, hgetD, Option.or_assoc]

end Choices

/-! ### Choices of a configuration -/

/-- The value that a configuration has for a word, unless it is null. -/
def valueIn? (entries : List (Datum × Datum)) (key : String) : Option Datum :=
  (Datum.lookup entries key).filter nonNull

/-- The patterns of a list, or of a single text. -/
def patternTexts : Datum → List String
  | .text s => [s]
  | .list xs => xs.filterMap fun
      | .text s => some s
      | _ => none
  | _ => []

/-- What a configuration in a folder chooses. -/
def Choices.ofEntries (entries : List (Datum × Datum)) (dir : Path) : Choices where
  includePatterns := (valueIn? entries "include").map patternTexts
  -- a null chooses to exclude nothing
  excludePatterns := (Datum.lookup entries "exclude").map patternTexts
  level := (valueIn? entries "baseline_level").bind Level.ofDatum?
  workers := (valueIn? entries "workers").bind fun
    | .int n => some n.toNat
    | _ => none
  features := ((Datum.lookup entries "features").filter Datum.truthy).map fun v ↦
    dir.join (Path.ofText v.shown)
  verbose := (valueIn? entries "verbose").map Datum.truthy

/-! ### The settings of a configuration -/

/-- Settings of which some are left open. -/
def openSettings (settings : List (String × Option Datum)) : Settings :=
  settings.filterMap fun s ↦ s.2.map fun v ↦ (s.1, v)

theorem openSettings_append (a b : List (String × Option Datum)) :
    openSettings (a ++ b) = openSettings a ++ openSettings b :=
  List.filterMap_append

theorem lookup_openSettings {settings : List (String × Option Datum)}
    (hnodup : (settings.map Prod.fst).Nodup) (name : String) :
    (openSettings settings).lookup name = (settings.lookup name).join := by
  induction settings with
  | nil => rfl
  | cons s rest ih =>
      obtain ⟨n, value⟩ := s
      obtain ⟨hn, hrest⟩ := List.nodup_cons.mp hnodup
      have hcons : openSettings ((n, value) :: rest) =
          (value.map fun v ↦ (n, v)).toList ++ openSettings rest := by
        cases value <;> rfl
      rw [hcons, List.lookup_append, ih hrest]
      by_cases hname : name = n
      · subst hname
        have hnone : rest.lookup name = none := lookup_eq_none_iff_not_mem.mpr hn
        cases value <;> simp [hnone]
      · have hbeq : (name == n) = false := by simpa using hname
        cases value <;> simp [List.lookup_cons, hbeq]

theorem plainSetting_eq (entries : List (Datum × Datum)) (option name : String) :
    plainSetting entries option name = openSettings [(name, valueIn? entries option)] := by
  rw [plainSetting, Datum.get, valueIn?]
  cases Datum.lookup entries option with
  | none => rfl
  | some value => cases value <;> rfl

theorem featuresSetting_eq (entries : List (Datum × Datum)) (dir : Path) :
    featuresSetting entries (some dir) = openSettings
      [("features_path", ((Datum.lookup entries "features").filter Datum.truthy).map fun v ↦
        .text (dir.join (Path.ofText v.shown)).toText)] := by
  rw [featuresSetting, Datum.get]
  cases Datum.lookup entries "features" with
  | none => rfl
  | some value =>
      cases htruthy : value.truthy with
      | false => simp [htruthy, openSettings, Option.filter]
      | true => simp [htruthy, openSettings, Option.filter]

/-- A setting for patterns is there exactly if the configuration has the word for it. -/
theorem patternSetting_eq_ok {entries : List (Datum × Datum)} {option name : String}
    {settings : Settings} (h : patternSetting entries option name = .ok settings) :
    ∃ patterns, settings = openSettings [(name, patterns)] ∧
      (Datum.lookup entries option).map (patternList option) = patterns.map .ok := by
  unfold patternSetting at h
  split at h
  · rename_i value hvalue
    split at h
    · rename_i patterns hpatterns
      cases h
      exact ⟨some patterns, rfl, by rw [hvalue, Option.map_some, hpatterns]; rfl⟩
    · simp at h
  · rename_i hnone
    cases h
    exact ⟨none, rfl, by rw [hnone]; rfl⟩

/-! ### Patterns -/

theorem eq_map_text_of_checkPatterns {option : String} {raw : List Datum} {patterns : List String}
    (h : checkPatterns option raw = .ok patterns) : raw = patterns.map .text := by
  fun_induction checkPatterns option raw generalizing patterns with
  | case1 =>
      cases h
      rfl
  | case2 => simp at h
  | case3 s rest hblank more hmore ih =>
      cases h
      rw [List.map_cons, ih hmore]
  | case4 => simp at h
  | case5 => simp at h

/-- Patterns that are accepted are the texts that the configuration lists. -/
theorem patternTexts_of_patternList {option option' : String} {value raw : Datum}
    {patterns : List String} (hraw : patternList option value = .ok raw)
    (h : patternsOf option' raw = .ok patterns) : patternTexts value = patterns := by
  have htexts : ∀ xs, checkPatterns option' xs = .ok patterns →
      patternTexts (.list xs) = patterns := by
    intro xs hxs
    rw [eq_map_text_of_checkPatterns hxs, patternTexts, List.filterMap_map]
    exact List.filterMap_some
  unfold patternList at hraw
  split at hraw
  · cases hraw
    exact htexts [] h
  · cases hraw
    exact htexts _ h
  · cases hraw
    exact htexts _ h
  · simp at hraw

/-! ### An accepted configuration -/

section Accepted

variable {entries : List (Datum × Datum)}

/-- The patterns to include are chosen by a value that is not null, as no configuration with a null
is accepted. -/
theorem include_of_settingOr {settings : Settings} {raw : Option Datum}
    (hlookup : settings.lookup "include_patterns" = raw)
    (hraw : (Datum.lookup entries "include").map (patternList "include") = raw.map .ok)
    {before after : List String}
    (h : settingOr settings "include_patterns" before includeOf = .ok after) :
    after = ((valueIn? entries "include").map patternTexts).getD before := by
  rw [settingOr, hlookup] at h
  rw [valueIn?]
  cases hvalue : Datum.lookup entries "include" with
  | none =>
      obtain rfl : raw = none := by simpa [hvalue] using hraw.symm
      cases h
      rfl
  | some value =>
      obtain ⟨patterns, rfl, hpatterns⟩ :
          ∃ patterns, raw = some patterns ∧ .ok patterns = patternList "include" value := by
        simpa [hvalue] using hraw.symm
      obtain ⟨hread, hne⟩ := includeOf_eq_ok_iff.mp h
      have htexts := patternTexts_of_patternList hpatterns.symm hread
      have hnonNull : nonNull value = true := by
        cases value with
        | null => exact absurd htexts.symm hne
        | _ => rfl
      simp [Option.filter, hnonNull, htexts]

theorem exclude_of_settingOr {settings : Settings} {raw : Option Datum}
    (hlookup : settings.lookup "exclude_patterns" = raw)
    (hraw : (Datum.lookup entries "exclude").map (patternList "exclude") = raw.map .ok)
    {before after : List String}
    (h : settingOr settings "exclude_patterns" before (patternsOf "exclude") = .ok after) :
    after = ((Datum.lookup entries "exclude").map patternTexts).getD before := by
  rw [settingOr, hlookup] at h
  cases hvalue : Datum.lookup entries "exclude" with
  | none =>
      obtain rfl : raw = none := by simpa [hvalue] using hraw.symm
      cases h
      rfl
  | some value =>
      obtain ⟨patterns, rfl, hpatterns⟩ :
          ∃ patterns, raw = some patterns ∧ .ok patterns = patternList "exclude" value := by
        simpa [hvalue] using hraw.symm
      exact (patternTexts_of_patternList hpatterns.symm h).symm

theorem level_of_settingOr {settings : Settings} {value : Option Datum}
    (hlookup : settings.lookup "baseline_level" = value) {before after : Level}
    (h : settingOr settings "baseline_level" before levelOf = .ok after) :
    after = (value.bind Level.ofDatum?).getD before := by
  rw [settingOr, hlookup] at h
  cases value with
  | none =>
      cases h
      rfl
  | some v =>
      simp only [levelOf] at h
      rw [Option.bind_some]
      split at h
      · rename_i l hl
        cases h
        rw [hl, Option.getD_some]
      · simp at h

theorem workers_of_settingOr {settings : Settings} {value : Option Datum}
    (hlookup : settings.lookup "workers" = value) {before after : Nat}
    (h : settingOr settings "workers" before workersOf = .ok after) :
    after = (value.bind fun
      | .int n => some n.toNat
      | _ => none).getD before := by
  rw [settingOr, hlookup] at h
  cases value with
  | none =>
      cases h
      rfl
  | some v =>
      simp only [workersOf] at h
      split at h
      · split at h
        · simp at h
        · cases h
          rfl
      · simp at h

theorem features_of_settingOr {settings : Settings} {path : Option Path}
    (hlookup : settings.lookup "features_path" = path.map fun p ↦ .text p.toText)
    (hpath : ∀ p, path = some p → p.Canonical) {before after : Option Path}
    (h : settingOr settings "features_path" before featuresOf = .ok after) :
    after = path.or before := by
  rw [settingOr, hlookup] at h
  cases path with
  | none =>
      cases h
      rfl
  | some p =>
      simp only [Option.map_some, featuresOf, Path.ofText_toText (hpath p rfl)] at h
      cases h
      rfl

/-- A configuration that is accepted stands for its choices. -/
theorem eq_onto_of_ofDatum {dir : Path} (hdir : dir.Canonical) {base : Options}
    (h : (ofDatum (.record entries) (some dir)).1 = .ok base) :
    base = (Choices.ofEntries entries dir).onto default := by
  simp only [ofDatum] at h
  split at h
  case h_2 => simp at h
  rename_i settings hsettings
  simp only [settingsOf, bind_eq_ok] at hsettings
  obtain ⟨including, hincluding, excluding, hexcluding, heq⟩ := hsettings
  obtain ⟨rawInclude, rfl, hrawInclude⟩ := patternSetting_eq_ok hincluding
  obtain ⟨rawExclude, rfl, hrawExclude⟩ := patternSetting_eq_ok hexcluding
  let path := (Choices.ofEntries entries dir).features
  let chosen : List (String × Option Datum) :=
    [("include_patterns", rawInclude), ("exclude_patterns", rawExclude),
     ("baseline_level", valueIn? entries "baseline_level"),
     ("workers", valueIn? entries "workers"), ("verbose", valueIn? entries "verbose"),
     ("features_path", path.map fun p ↦ .text p.toText)]
  have hchosen : settings = openSettings chosen := by
    rw [← Except.ok.inj heq, plainSetting_eq, plainSetting_eq, plainSetting_eq, featuresSetting_eq]
    simp [← openSettings_append, chosen, path, Choices.ofEntries, Function.comp_def]
  have hlookup : ∀ name, settings.lookup name = (chosen.lookup name).join := by
    intro name
    rw [hchosen]
    exact lookup_openSettings (by simp [chosen]) name
  have hpath : ∀ p, path = some p → p.Canonical := by
    intro p hp
    obtain ⟨v, -, rfl⟩ := Option.map_eq_some_iff.mp hp
    exact hdir.join (Path.canonical_ofText _)
  obtain ⟨including, excluding, level, workers, features, hincluding, hexcluding, hlevel, hworkers,
    hfeatures, rfl⟩ := change_eq_ok h
  have hverbose : verboseOr settings default.verbose =
      ((valueIn? entries "verbose").map Datum.truthy).getD default.verbose := by
    rw [verboseOr, hlookup]
    cases hvalue : valueIn? entries "verbose" <;> simp [chosen, List.lookup_cons, hvalue]
  rw [include_of_settingOr (hlookup _) hrawInclude hincluding,
    exclude_of_settingOr (hlookup _) hrawExclude hexcluding, level_of_settingOr (hlookup _) hlevel,
    workers_of_settingOr (hlookup _) hworkers, features_of_settingOr (hlookup _) hpath hfeatures,
    hverbose]
  rfl

end Accepted

end WebBaseline.Options

import Mathlib.Data.List.Basic
import WebBaseline.Options.Reading
import WebBaseline.Proofs.Lists

/-!
# Changing options

Options are changed setting by setting, and the first setting that cannot be read is the fault.
What comes of each setting depends on its own value alone.  The number of workers and the wish for
notes can be told apart from the rest, which decides which files are scanned and what is reported.
-/

namespace WebBaseline.Options

/-! ### Reading the settings -/

section Bind

variable {ε α β : Type} {x : Except ε α} {f : α → Except ε β}

theorem bind_eq_ok {b : β} : (x >>= f) = .ok b ↔ ∃ a, x = .ok a ∧ f a = .ok b := by
  cases x with
  | error e => simp [bind, Except.bind]
  | ok a => simp [bind, Except.bind]

theorem bind_eq_error {e : ε} :
    (x >>= f) = .error e ↔ x = .error e ∨ ∃ a, x = .ok a ∧ f a = .error e := by
  cases x with
  | error e => simp [bind, Except.bind]
  | ok a => simp [bind, Except.bind]

end Bind

/-- Settings whose names are all known. -/
def Known (settings : Settings) : Prop := ∀ s ∈ settings, s.1 ∈ settingNames

/-- The wish for notes, if it is set, or what it was before. -/
def verboseOr (settings : Settings) (before : Bool) : Bool :=
  match settings.lookup "verbose" with
  | some value => value.truthy
  | none => before

theorem settingOr_congr {α : Type} {settings settings' : Settings} {name : String}
    (h : settings.lookup name = settings'.lookup name) (before : α)
    (rule : Datum → Except OptionsError α) :
    settingOr settings name before rule = settingOr settings' name before rule := by
  rw [settingOr, settingOr, h]

variable {o o' : Options} {settings settings' : Settings}

theorem unknownName?_eq_none_iff : unknownName? settings = none ↔ Known settings := by
  simp [unknownName?, Known]

theorem change_nil (o : Options) : o.change [] = .ok o := rfl

/-- Without a setting that is given, changing the options does nothing. -/
theorem override_eq_change (o : Options) (settings : Settings) :
    o.override settings = o.change (given settings) := by
  rw [override]
  split
  · rename_i hempty
    rw [List.isEmpty_iff.mp hempty, change_nil]
  · rfl

/-- Options that were changed hold what their settings are read as. -/
theorem change_eq_ok (h : o.change settings = .ok o') :
    ∃ including excluding level workers features,
      settingOr settings "include_patterns" o.includePatterns includeOf = .ok including ∧
      settingOr settings "exclude_patterns" o.excludePatterns (patternsOf "exclude") =
        .ok excluding ∧
      settingOr settings "baseline_level" o.level levelOf = .ok level ∧
      settingOr settings "workers" o.workers workersOf = .ok workers ∧
      settingOr settings "features_path" o.features featuresOf = .ok features ∧
      o' = { o with
        includePatterns := including
        excludePatterns := excluding
        level
        workers
        features
        verbose := verboseOr settings o.verbose } := by
  unfold change at h
  split at h
  · simp at h
  · simp only [bind_eq_ok] at h
    obtain ⟨including, hincluding, excluding, hexcluding, level, hlevel, workers, hworkers,
      features, hfeatures, hoptions⟩ := h
    cases hoptions
    exact ⟨including, excluding, level, workers, features, hincluding, hexcluding, hlevel,
      hworkers, hfeatures, rfl⟩

/-- A change that fails fails at one of the settings. -/
theorem change_eq_error (hknown : Known settings) {e : OptionsError}
    (h : o.change settings = .error e) :
    settingOr settings "include_patterns" o.includePatterns includeOf = .error e ∨
      settingOr settings "exclude_patterns" o.excludePatterns (patternsOf "exclude") = .error e ∨
      settingOr settings "baseline_level" o.level levelOf = .error e ∨
      settingOr settings "workers" o.workers workersOf = .error e ∨
      settingOr settings "features_path" o.features featuresOf = .error e := by
  rw [change, unknownName?_eq_none_iff.mpr hknown] at h
  simp only [bind_eq_error] at h
  rcases h with h | ⟨_, -, h | ⟨_, -, h | ⟨_, -, h | ⟨_, -, h | ⟨_, -, h⟩⟩⟩⟩⟩
  · exact Or.inl h
  · exact Or.inr (Or.inl h)
  · exact Or.inr (Or.inr (Or.inl h))
  · exact Or.inr (Or.inr (Or.inr (Or.inl h)))
  · exact Or.inr (Or.inr (Or.inr (Or.inr h)))
  · simp [pure, Except.pure] at h

/-- Options of a scan that goes through to its end: some worker takes part, and nobody stops it. -/
structure Ready (o : Options) : Prop where
  cancel : o.cancel = none
  workers : 1 ≤ o.workers

theorem ready_default : default.Ready := ⟨rfl, Nat.le_refl 1⟩

theorem one_le_of_workersOf {value : Datum} {n : Nat} (h : workersOf value = .ok n) : 1 ≤ n := by
  unfold workersOf at h
  split at h
  · split at h
    · simp at h
    · cases h
      omega
  · simp at h

theorem Ready.change (hready : o.Ready) (h : o.change settings = .ok o') : o'.Ready := by
  obtain ⟨_, _, _, workers, _, _, _, _, hworkers, _, rfl⟩ := change_eq_ok h
  refine ⟨hready.cancel, ?_⟩
  unfold settingOr at hworkers
  split at hworkers
  · exact one_le_of_workersOf hworkers
  · cases hworkers
    exact hready.workers

theorem ready_of_load {files : Store} {path : Path} (h : (load files path).1 = .ok o) :
    o.Ready := by
  unfold load at h
  split at h
  · simp at h
  · simp at h
  · simp at h
  · split at h
    · simp at h
    · simp at h
    · rename_i document _
      simp only [ofDatum] at h
      split at h
      · split at h
        · exact ready_default.change h
        · simp at h
      · simp at h

/-! ### What decides a scan -/

/-- Options with one worker and no wish for notes. -/
def core (o : Options) : Options := { o with workers := 1, verbose := false }

/-- The names of the settings that decide which files are scanned and what is reported. -/
def coreNames : List String :=
  ["include_patterns", "exclude_patterns", "baseline_level", "features_path"]

/-- Changes that agree in the settings that matter, and of which none fails for its number of
workers, agree in what they make of the options. -/
theorem map_core_change (hknown : Known settings) (hknown' : Known settings')
    (hlookup : ∀ name ∈ coreNames, settings.lookup name = settings'.lookup name)
    (hworkers : ∃ n, settingOr settings "workers" o.workers workersOf = .ok n)
    (hworkers' : ∃ n, settingOr settings' "workers" o.workers workersOf = .ok n) :
    (o.change settings).map core = (o.change settings').map core := by
  obtain ⟨n, hn⟩ := hworkers
  obtain ⟨n', hn'⟩ := hworkers'
  have hincluding := settingOr_congr (hlookup "include_patterns" (by decide)) o.includePatterns
    includeOf
  have hexcluding := settingOr_congr (hlookup "exclude_patterns" (by decide)) o.excludePatterns
    (patternsOf "exclude")
  have hlevel := settingOr_congr (hlookup "baseline_level" (by decide)) o.level levelOf
  have hfeatures := settingOr_congr (hlookup "features_path" (by decide)) o.features featuresOf
  simp only [change, unknownName?_eq_none_iff.mpr hknown, unknownName?_eq_none_iff.mpr hknown',
    hincluding, hexcluding, hlevel, hfeatures, hn, hn']
  cases settingOr settings' "include_patterns" o.includePatterns includeOf with
  | error e => rfl
  | ok including =>
      cases settingOr settings' "exclude_patterns" o.excludePatterns (patternsOf "exclude") with
      | error e => rfl
      | ok excluding =>
          cases settingOr settings' "baseline_level" o.level levelOf with
          | error e => rfl
          | ok level =>
              cases settingOr settings' "features_path" o.features featuresOf with
              | error e => rfl
              | ok features => rfl

/-! ### Faults that a user is told of -/

theorem message_of_checkPatterns {option : String} {patterns : List Datum} {e : OptionsError}
    (h : checkPatterns option patterns = .error e) : e.message?.isSome = true := by
  induction patterns with
  | nil => simp [checkPatterns] at h
  | cons pattern rest ih =>
      unfold checkPatterns at h
      split at h
      · simp at h
      · split at h
        · cases h
          rfl
        · split at h
          · simp at h
          · rename_i hrest
            cases h
            simp_all
      · cases h
        rfl

theorem message_of_includeOf {xs : List Datum} {e : OptionsError}
    (h : includeOf (.list xs) = .error e) : e.message?.isSome = true := by
  unfold includeOf at h
  split at h
  · cases h
    rfl
  · exact message_of_checkPatterns h

theorem message_of_levelOf {value : Datum} {e : OptionsError} (h : levelOf value = .error e) :
    e.message?.isSome = true := by
  unfold levelOf at h
  split at h
  · simp at h
  · cases h
    rfl

theorem message_of_workersOf {value : Datum} {e : OptionsError} (h : workersOf value = .error e) :
    e.message?.isSome = true := by
  unfold workersOf at h
  split at h
  · split at h
    · cases h
      rfl
    · simp at h
  · cases h
    rfl

/-- Patterns in lists and a table by its name give no fault but one that a user is told of. -/
theorem message_of_change (hknown : Known settings)
    (hincluding : ∀ v, settings.lookup "include_patterns" = some v → ∃ xs, v = .list xs)
    (hexcluding : ∀ v, settings.lookup "exclude_patterns" = some v → ∃ xs, v = .list xs)
    (hfeatures : ∀ v, settings.lookup "features_path" = some v → ∃ s, v = .text s)
    {e : OptionsError} (h : o.change settings = .error e) : e.message?.isSome = true := by
  rcases change_eq_error hknown h with h | h | h | h | h
  all_goals
    unfold settingOr at h
    split at h
    case h_2 => simp at h
  · rename_i value hvalue
    obtain ⟨xs, rfl⟩ := hincluding value hvalue
    exact message_of_includeOf h
  · rename_i value hvalue
    obtain ⟨xs, rfl⟩ := hexcluding value hvalue
    exact message_of_checkPatterns h
  · exact message_of_levelOf h
  · exact message_of_workersOf h
  · rename_i value hvalue
    obtain ⟨s, rfl⟩ := hfeatures value hvalue
    simp [featuresOf] at h

/-! ### Settings that are given -/

/-- The value of a setting, unless it is null. -/
def nonNull : Datum → Bool
  | .null => false
  | _ => true

theorem known_given (h : Known settings) : Known (given settings) :=
  fun s hs ↦ h s (List.mem_of_mem_filter hs)

theorem given_cons (name : String) (value : Datum) (rest : Settings) :
    given ((name, value) :: rest) =
      if nonNull value then (name, value) :: given rest else given rest := by
  cases value <;> rfl

theorem lookup_given (hnodup : (settings.map Prod.fst).Nodup) (name : String) :
    (given settings).lookup name = (settings.lookup name).filter nonNull := by
  induction settings with
  | nil => rfl
  | cons s rest ih =>
      obtain ⟨n, value⟩ := s
      simp only [List.map_cons, List.nodup_cons] at hnodup
      have hrest := ih hnodup.2
      rw [given_cons]
      by_cases hname : name = n
      · subst hname
        have hnone : (given rest).lookup name = none := by
          refine lookup_eq_none_iff_not_mem.mpr fun hmem ↦ hnodup.1 ?_
          exact (List.filter_sublist.map Prod.fst).subset hmem
        by_cases hvalue : nonNull value = true
        · simp [hvalue, Option.filter]
        · simp [hvalue, Option.filter, hnone]
      · have hbeq : (name == n) = false := by simpa using hname
        by_cases hvalue : nonNull value = true
        · simp [hvalue, List.lookup_cons, hbeq, hrest]
        · simp [hvalue, List.lookup_cons, hbeq, hrest]

end WebBaseline.Options

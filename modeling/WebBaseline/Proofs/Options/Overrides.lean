import WebBaseline.Options.Basic
import WebBaseline.Proofs.Options.Scannable

/-!
# Overrides compose

What comes of a setting depends on its own value alone, and what a setting was read as is kept until
another value takes its place.  So options that were overridden once can be overridden again in one
step with the first ones, and the two ways meet the same fault where one of them fails.
-/

namespace WebBaseline.Options

variable {o o' : Options} {a b : Settings}

/-! ### The union of two maps -/

theorem lookup_map_getD (a b : Settings) (name : String) :
    (a.map fun s ↦ (s.1, (b.lookup s.1).getD s.2)).lookup name =
      (a.lookup name).map fun v ↦ (b.lookup name).getD v := by
  induction a with
  | nil => rfl
  | cons s rest ih =>
      obtain ⟨n, v⟩ := s
      by_cases hname : name = n
      · subst hname
        simp
      · have hbeq : (name == n) = false := by simpa using hname
        simp [List.lookup_cons, hbeq, ih]

theorem lookup_filter_names (a b : Settings) (name : String) :
    (b.filter fun s ↦ !(a.map Prod.fst).contains s.1).lookup name =
      if name ∈ a.map Prod.fst then none else b.lookup name := by
  induction b with
  | nil => simp
  | cons s rest ih =>
      obtain ⟨n, v⟩ := s
      rw [List.filter_cons]
      by_cases hname : name = n
      · subst hname
        by_cases hmem : name ∈ a.map Prod.fst
        · simpa [hmem] using ih
        · simp [hmem]
      · have hbeq : (name == n) = false := by simpa using hname
        split
        · rw [List.lookup_cons, List.lookup_cons, hbeq, ih]
        · rw [List.lookup_cons, hbeq, ih]

theorem lookup_union (a b : Settings) (name : String) :
    (union a b).lookup name = (b.lookup name).or (a.lookup name) := by
  rw [union, List.lookup_append, lookup_map_getD, lookup_filter_names]
  cases ha : a.lookup name with
  | none =>
      have hmem := lookup_eq_none_iff_not_mem.mp ha
      simp [hmem]
  | some v => cases b.lookup name <;> rfl

theorem given_eq_filter (a : Settings) : given a = a.filter fun s ↦ nonNull s.2 := rfl

/-- A union of what is given is given. -/
theorem given_union (a b : Settings) :
    given (union (given a) (given b)) = union (given a) (given b) := by
  rw [given_eq_filter (union _ _)]
  refine List.filter_eq_self.mpr fun s hs ↦ ?_
  have hgiven : ∀ c : Settings, ∀ t ∈ given c, nonNull t.2 = true := by
    intro c t ht
    exact (List.mem_filter.mp ht).2
  rcases List.mem_append.mp hs with hs | hs
  · obtain ⟨t, ht, rfl⟩ := List.mem_map.mp hs
    cases hlookup : (given b).lookup t.1 with
    | none => exact hgiven a t ht
    | some v =>
        obtain ⟨before, after, hb, -⟩ := List.lookup_eq_some_iff.mp hlookup
        exact hgiven b (t.1, v) (by simp [hb])
  · exact hgiven b s (List.mem_of_mem_filter hs)

/-- The first unknown name of a union comes from the second map if the first one has none. -/
theorem unknownName?_union (ha : Known a) (b : Settings) :
    unknownName? (union a b) = unknownName? b := by
  have hfirst : (a.map Prod.fst).find? (fun name ↦ !settingNames.contains name) = none :=
    unknownName?_eq_none_iff.mpr ha
  have hnames : (union a b).map Prod.fst = a.map Prod.fst ++
      (b.map Prod.fst).filter fun name ↦ !(a.map Prod.fst).contains name := by
    simp [union, List.filter_map, Function.comp_def]
  rw [unknownName?, hnames, List.find?_append, hfirst, Option.none_or, List.find?_filter,
    unknownName?]
  congr 1
  funext name
  by_cases hname : name ∈ a.map Prod.fst
  · obtain ⟨s, hs, rfl⟩ := List.mem_map.mp hname
    simp [ha s hs]
  · simp [hname]

/-! ### Changing options twice -/

/-- What a setting was read as is kept until another value takes its place. -/
theorem settingOr_union {α : Type} {name : String} {before after : α}
    {rule : Datum → Except OptionsError α} (h : settingOr a name before rule = .ok after)
    (b : Settings) : settingOr (union a b) name before rule = settingOr b name after rule := by
  unfold settingOr at h ⊢
  rw [lookup_union]
  cases b.lookup name with
  | none => exact h
  | some v => rfl

theorem verboseOr_union (a b : Settings) (before : Bool) :
    verboseOr (union a b) before = verboseOr b (verboseOr a before) := by
  unfold verboseOr
  rw [lookup_union]
  cases b.lookup "verbose" <;> rfl

theorem change_of_unknown {name : String} (h : unknownName? a = some name) (o : Options) :
    o.change a = .error (.wrongKind (.unknownSetting name)) := by
  rw [change, h]

theorem change_of_known (h : Known a) (o : Options) :
    o.change a = do
      let includePatterns ← settingOr a "include_patterns" o.includePatterns includeOf
      let excludePatterns ← settingOr a "exclude_patterns" o.excludePatterns (patternsOf "exclude")
      let level ← settingOr a "baseline_level" o.level levelOf
      let workers ← settingOr a "workers" o.workers workersOf
      let features ← settingOr a "features_path" o.features featuresOf
      return { o with
        includePatterns, excludePatterns, level, verbose := verboseOr a o.verbose, workers
        features } := by
  rw [change, unknownName?_eq_none_iff.mpr h]
  rfl

theorem known_of_change (h : o.change a = .ok o') : Known a := by
  cases hunknown : unknownName? a with
  | some name => simp [change_of_unknown hunknown] at h
  | none => exact unknownName?_eq_none_iff.mp hunknown

/-- Changing options twice is changing them once. -/
theorem change_change (h : o.change a = .ok o') (b : Settings) :
    o'.change b = o.change (union a b) := by
  have hunion := unknownName?_union (known_of_change h) b
  cases hunknown : unknownName? b with
  | some name =>
      rw [change_of_unknown hunknown, change_of_unknown (hunion.trans hunknown)]
  | none =>
      obtain ⟨including, excluding, level, workers, features, hincluding, hexcluding, hlevel,
        hworkers, hfeatures, rfl⟩ := change_eq_ok h
      rw [change_of_known (unknownName?_eq_none_iff.mp hunknown),
        change_of_known (unknownName?_eq_none_iff.mp (hunion.trans hunknown)),
        settingOr_union hincluding, settingOr_union hexcluding, settingOr_union hlevel,
        settingOr_union hworkers, settingOr_union hfeatures, verboseOr_union]

/-- Changing settings has nothing to do with who is asked whether to stop. -/
theorem change_watched (o : Options) (cancel : Option (Nat → Bool)) (a : Settings) :
    ({ o with cancel } : Options).change a =
      (fun o' : Options ↦ { o' with cancel }) <$> o.change a := by
  cases hunknown : unknownName? a with
  | some name =>
      rw [change_of_unknown hunknown, change_of_unknown hunknown]
      rfl
  | none =>
      have hknown := unknownName?_eq_none_iff.mp hunknown
      rw [change_of_known hknown, change_of_known hknown]
      simp only [map_bind, map_pure]

/-! ### Overriding options twice -/

/-- Overriding options is changing them, also where nothing is given. -/
theorem overrideWith_eq_change (o : Options) (c : Overrides) :
    o.overrideWith c =
      ({ o with cancel := c.cancel.or o.cancel } : Options).change (given c.settings) := by
  rw [overrideWith]
  split
  · rename_i hnothing
    obtain ⟨hsettings, hcancel⟩ := Bool.and_eq_true_iff.mp hnothing
    rw [List.isEmpty_iff.mp hsettings, Option.isNone_iff_eq_none.mp hcancel, change_nil]
    rfl
  · rfl

theorem cancel_of_change (h : o.change a = .ok o') : o'.cancel = o.cancel := by
  obtain ⟨_, _, _, _, _, -, -, -, -, -, rfl⟩ := change_eq_ok h
  rfl

theorem override_eq_overrideWith (o : Options) (a : Settings) :
    o.override a = o.overrideWith { settings := a } := by
  rw [overrideWith_eq_change, override_eq_change]
  rfl

/-- Overriding with nothing gives the very same options, which are not checked again. -/
theorem overrideWith_of_null {c : Overrides} (hsettings : ∀ s ∈ c.settings, s.2 = .null)
    (hcancel : c.cancel = none) (o : Options) : o.overrideWith c = .ok o := by
  have hnothing : given c.settings = [] := by
    refine List.filter_eq_nil_iff.mpr fun s hs ↦ ?_
    simp [hsettings s hs]
  rw [overrideWith, hnothing, hcancel]
  rfl

theorem overrideWith_overrideWith {c : Overrides} (h : o.overrideWith c = .ok o')
    (d : Overrides) : o'.overrideWith d = o.overrideWith (c.union d) := by
  rw [overrideWith_eq_change] at h
  have hcancel : d.cancel.or o'.cancel = (d.cancel.or c.cancel).or o.cancel := by
    rw [cancel_of_change h, Option.or_assoc]
  have hunion : (c.union d).settings = union (given c.settings) (given d.settings) := rfl
  rw [overrideWith_eq_change, overrideWith_eq_change, hcancel, hunion, given_union,
    change_watched o', change_change h]
  exact (change_watched { o with cancel := c.cancel.or o.cancel } _ _).symm

theorem Built.overrideWith (hbuilt : Built o) {c : Overrides} (h : o.overrideWith c = .ok o') :
    Built o' := by
  rw [overrideWith_eq_change, ← override_eq_change] at h
  cases hcancel : c.cancel with
  | none =>
      rw [hcancel, Option.none_or] at h
      exact .override hbuilt h
  | some answers =>
      rw [hcancel, Option.some_or] at h
      exact .override (.watched hbuilt answers) h

/-- Overriding options is making them anew of what is given and of the fields that are left, all of
which is checked again. -/
theorem Scannable.overrideWith_eq_remade (h : o.Scannable) (c : Overrides) :
    o.overrideWith c =
      ({ o with cancel := c.cancel.or o.cancel } : Options).remade (given c.settings) := by
  have hwatched : Scannable { o with cancel := c.cancel.or o.cancel } :=
    ⟨h.includes, h.including, h.excluding, h.workers, h.features⟩
  rw [overrideWith_eq_change, hwatched.remade_eq_change]

/-- Overrides compose.  Options that were overridden and are overridden again come to the same as
the first ones overridden with all that was given, what was given last winning: they are the same
options, or there are none for the same reason.  Overrides that are not given lead back to the very
options.  In all of this, options that were made in some way are made anew each time, with every
field checked. -/
theorem overrideWith_union {o o₁ : Options} {c : Overrides} (h : o.overrideWith c = .ok o₁) :
    (∀ d : Overrides, o₁.overrideWith d = o.overrideWith (c.union d)) ∧
    (∀ (q : Options) (d : Overrides), (∀ s ∈ d.settings, s.2 = .null) → d.cancel = none →
      q.overrideWith d = .ok q) ∧
    (∀ (q : Options) (settings : Settings), q.override settings = q.overrideWith { settings }) ∧
    (Built o → Built o₁) ∧
    ∀ q : Options, Built q → ∀ d : Overrides,
      q.overrideWith d =
        ({ q with cancel := d.cancel.or q.cancel } : Options).remade (given d.settings) := by
  refine ⟨overrideWith_overrideWith h, ?_, override_eq_overrideWith, fun hbuilt ↦ ?_, ?_⟩
  · intro q d hsettings hcancel
    exact overrideWith_of_null hsettings hcancel q
  · exact hbuilt.overrideWith h
  · intro q hbuilt d
    exact hbuilt.scannable.overrideWith_eq_remade d

/-- After some overrides others are refused for a number of workers, which takes the place of the
first one, and still others for a name. -/
theorem overrideWith_union_refused :
    let c : Overrides :=
      { settings := [("workers", .int 3), ("verbose", .null), ("exclude_patterns", .text "a/**")] }
    let d : Overrides := { settings := [("workers", .int 0), ("baseline_level", .text "newly")] }
    let e : Overrides := { settings := [("color", .bool true), ("exclude_patterns", .list [])] }
    let o₁ : Options := { Options.default with workers := 3, excludePatterns := ["a/**"] }
    default.overrideWith c = .ok o₁ ∧
      o₁.overrideWith d = .error (.workersTooFew 0) ∧
      default.overrideWith (c.union d) = .error (.workersTooFew 0) ∧
      o₁.overrideWith e = .error (.wrongKind (.unknownSetting "color")) ∧
      default.overrideWith (c.union e) = .error (.wrongKind (.unknownSetting "color")) := by
  intro c d e o₁
  have hfirst : default.overrideWith c = .ok o₁ := rfl
  have hworkers : o₁.overrideWith d = .error (.workersTooFew 0) := rfl
  have hname : o₁.overrideWith e = .error (.wrongKind (.unknownSetting "color")) := rfl
  have hunion := (overrideWith_union hfirst).1
  exact ⟨hfirst, hworkers, (hunion d).symm.trans hworkers, hname, (hunion e).symm.trans hname⟩

end WebBaseline.Options

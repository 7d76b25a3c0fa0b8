import WebBaseline.Proofs.Command.ExitCode
import WebBaseline.Proofs.Options.Choices
import WebBaseline.Proofs.Options.Overrides

/-!
# Switches win over the configuration

Each option of a scan is what its switch says, or else what the configuration chooses, or else the
default.  The values of switches were checked when the line was read, so that only a blank pattern
and a number of workers below one are left to be refused.
-/

namespace WebBaseline.Command

/-! ### Checked values -/

section Checked

/-- Of a line that is accepted, the value that counts of each switch fits its rule. -/
def Host.ChecksValues (host : Host) : Prop :=
  ∀ {usage : Usage} {words : List String} {line : Line} {name value : String} {rule : Rule},
    host.readLine usage words = .ok line → line.value? name = some value →
    (usage.switches.find? fun s ↦ s.name = name).bind (·.rule) = some rule →
    rule.check host.files value = .ok ()

variable {files : FileSystem} {usage : Usage} {line : Line} {name value : String} {rule : Rule}
  (hvalue : line.value? name = some value)
  (hrule : (usage.switches.find? fun s ↦ s.name = name).bind (·.rule) = some rule)

include hvalue hrule

theorem check_of_checkValues {names : List String} (hname : name ∈ names)
    (h : checkValues files usage line names = none) : rule.check files value = .ok () := by
  induction names with
  | nil => simp at hname
  | cons first rest ih =>
      rw [checkValues] at h
      rcases List.mem_cons.mp hname with rfl | hname
      · rw [hrule, hvalue] at h
        simp only at h
        split at h
        · assumption
        · simp at h
        · simp at h
      · refine ih hname ?_
        split at h
        · split at h
          · exact h
          · simp at h
          · simp at h
        · exact h

theorem check_of_readChecked {words : List String}
    (hline : readChecked files usage words = .ok line) : rule.check files value = .ok () := by
  unfold readChecked at hline
  split at hline
  · simp at hline
  · split at hline
    · simp at hline
    · split at hline
      · simp at hline
      · rename_i hchecked
        cases hline
        have hname : name ∈ (line.switches.map Prod.fst).eraseDups := by
          have hmem : value ∈ line.values name := List.mem_of_getLast? hvalue
          obtain ⟨s, hs, hs'⟩ := List.mem_filterMap.mp hmem
          split at hs'
          · rename_i heq
            exact List.mem_eraseDups.mpr (heq ▸ List.mem_map_of_mem hs)
          · simp at hs'
        exact check_of_checkValues hvalue hrule hname hchecked

omit hvalue hrule in
theorem checksValues_ofFiles (files : FileSystem) (width : Nat) :
    (Host.ofFiles files width).ChecksValues :=
  fun hline hvalue hrule ↦ check_of_readChecked hvalue hrule hline

end Checked

namespace Scan

open WebBaseline.Options

/-! ### Choices of a command line -/

/-- Patterns are chosen by giving some. -/
def givenPatterns : List String → Option (List String)
  | [] => none
  | patterns => some patterns

/-- The number of workers that is given. -/
def givenWorkers (line : Line) : Option Int :=
  (line.value? "--workers").bind Text.integer?

/-- What the switches of a command line choose. -/
def choicesOf (line : Line) : Choices where
  includePatterns := givenPatterns (line.values "--include")
  excludePatterns := givenPatterns (line.values "--exclude")
  level := (line.value? "--baseline-level").bind Level.ofLabel?
  workers := (givenWorkers line).map Int.toNat
  features := (line.value? "--features").map Path.ofText
  verbose := if line.has "--verbose" then some true else none

/-- What is wrong with patterns that are given. -/
def blankFault? (option : String) (patterns : List String) : Option OptionsError :=
  (patterns.find? Text.isBlankText).map (.patternBlank option)

/-- What is wrong with a number of workers that is given. -/
def workersFault? (line : Line) : Option OptionsError :=
  ((givenWorkers line).filter fun n ↦ n < 1).map .workersTooFew

/-- The first thing that is wrong with the switches of a command line. -/
def fault? (line : Line) : Option OptionsError :=
  (blankFault? "include" (line.values "--include")).or
    ((blankFault? "exclude" (line.values "--exclude")).or (workersFault? line))

/-- A value, unless there is a fault. -/
def checked {α : Type} (fault : Option OptionsError) (value : α) : Except OptionsError α :=
  match fault with
  | some e => .error e
  | none => .ok value

/-! ### Reading the settings of a command line -/

theorem checkPatterns_texts (option : String) (patterns : List String) :
    checkPatterns option (patterns.map .text) = checked (blankFault? option patterns) patterns := by
  induction patterns with
  | nil => rfl
  | cons p rest ih =>
      rw [List.map_cons, checkPatterns, ih, blankFault?, blankFault?, List.find?_cons]
      cases Text.isBlankText p with
      | true => rfl
      | false =>
          simp only [Bool.false_eq_true, if_false]
          cases rest.find? Text.isBlankText <;> rfl

section Settings

variable (line : Line)

theorem settingOr_settingsOf {α : Type} {name : String} {value : Datum}
    (hvalue : (settingsOf line).lookup name = some value) (before : α)
    (rule : Datum → Except OptionsError α) :
    settingOr (given (settingsOf line)) name before rule =
      if nonNull value then rule value else .ok before := by
  rw [settingOr, lookup_given_settingsOf, hvalue]
  cases hnonNull : nonNull value <;> simp [Option.filter, hnonNull]

theorem settingOr_include (before : List String) :
    settingOr (given (settingsOf line)) "include_patterns" before includeOf =
      checked (blankFault? "include" (line.values "--include"))
        ((choicesOf line).includePatterns.getD before) := by
  have hvalue : (settingsOf line).lookup "include_patterns" =
      some (patternsSetting (line.values "--include")) := rfl
  rw [settingOr_settingsOf line hvalue, choicesOf]
  cases line.values "--include" with
  | nil => rfl
  | cons p rest =>
      have hread := checkPatterns_texts "include" (p :: rest)
      simp only [patternsSetting, nonNull, if_true, includeOf, patternsOf, Glob.elements?, hread]
      cases blankFault? "include" (p :: rest) <;> rfl

theorem settingOr_exclude (before : List String) :
    settingOr (given (settingsOf line)) "exclude_patterns" before (patternsOf "exclude") =
      checked (blankFault? "exclude" (line.values "--exclude"))
        ((choicesOf line).excludePatterns.getD before) := by
  have hvalue : (settingsOf line).lookup "exclude_patterns" =
      some (patternsSetting (line.values "--exclude")) := rfl
  rw [settingOr_settingsOf line hvalue, choicesOf]
  cases line.values "--exclude" with
  | nil => rfl
  | cons p rest => exact checkPatterns_texts "exclude" (p :: rest)

theorem settingOr_workers (before : Nat) :
    settingOr (given (settingsOf line)) "workers" before workersOf =
      checked (workersFault? line) ((choicesOf line).workers.getD before) := by
  have hvalue : (settingsOf line).lookup "workers" =
      some (integerSetting (line.value? "--workers")) := rfl
  rw [settingOr_settingsOf line hvalue, choicesOf, workersFault?, integerSetting, givenWorkers]
  cases (line.value? "--workers").bind Text.integer? with
  | none => rfl
  | some n =>
      by_cases hn : n < 1 <;> simp [Option.filter, nonNull, workersOf, hn, checked]

theorem settingOr_features (before : Option Path) :
    settingOr (given (settingsOf line)) "features_path" before featuresOf =
      .ok ((choicesOf line).features.or before) := by
  have hvalue : (settingsOf line).lookup "features_path" =
      some (textSetting (line.value? "--features")) := rfl
  rw [settingOr_settingsOf line hvalue, choicesOf]
  cases line.value? "--features" <;> rfl

theorem verboseOr_settingsOf (before : Bool) :
    verboseOr (given (settingsOf line)) before = (choicesOf line).verbose.getD before := by
  have hlookup : (settingsOf line).lookup "verbose" =
      some (if line.has "--verbose" then .bool true else .null) := rfl
  rw [verboseOr, lookup_given_settingsOf, hlookup, choicesOf]
  cases line.has "--verbose" <;> rfl

end Settings

section Line

variable {host : Host} (hreader : host.ChecksValues) {words : List String} {line : Line}
  (hline : host.readLine usage words = .ok line)

include hreader hline

/-- A level that is given is one of the three. -/
theorem exists_level {s : String} (h : line.value? "--baseline-level" = some s) :
    ∃ l : Level, Level.ofLabel? s = some l ∧ s = l.label := by
  have hcheck : (Rule.oneOf ["limited", "newly", "widely"]).check host.files s = .ok () :=
    hreader hline h rfl
  simp only [Rule.check] at hcheck
  split at hcheck
  · rename_i hmem
    simp only [List.contains_iff_mem, List.mem_cons, List.not_mem_nil, or_false] at hmem
    rcases hmem with rfl | rfl | rfl
    · exact ⟨.limited, by decide, by decide⟩
    · exact ⟨.newly, by decide, by decide⟩
    · exact ⟨.widely, by decide, by decide⟩
  · simp at hcheck

/-- A number of workers that is given is a number. -/
theorem exists_integer {s : String} (h : line.value? "--workers" = some s) :
    ∃ n, Text.integer? s = some n := by
  have hcheck : Rule.integer.check host.files s = .ok () := hreader hline h rfl
  simp only [Rule.check] at hcheck
  split at hcheck
  · rename_i n hn
    exact ⟨n, hn⟩
  · simp at hcheck

theorem settingOr_level (before : Level) :
    settingOr (given (settingsOf line)) "baseline_level" before levelOf =
      .ok ((choicesOf line).level.getD before) := by
  have hvalue : (settingsOf line).lookup "baseline_level" =
      some (textSetting (line.value? "--baseline-level")) := rfl
  rw [settingOr_settingsOf line hvalue, choicesOf]
  cases hlevel : line.value? "--baseline-level" with
  | none => rfl
  | some s =>
      obtain ⟨l, hl, rfl⟩ := exists_level hreader hline hlevel
      simp only [textSetting, nonNull, if_true, levelOf_label, Option.bind_some, hl,
        Option.getD_some]

/-- The options that a command line makes of others. -/
theorem override_settingsOf (o : Options) :
    o.override (settingsOf line) = checked (fault? line) ((choicesOf line).onto o) := by
  rw [override_eq_change, change_of_known (known_given (known_settingsOf line)),
    settingOr_include, settingOr_exclude, settingOr_level hreader hline, settingOr_workers,
    settingOr_features, verboseOr_settingsOf, fault?]
  cases blankFault? "include" (line.values "--include") with
  | some e => rfl
  | none =>
      cases blankFault? "exclude" (line.values "--exclude") with
      | some e => rfl
      | none => cases workersFault? line <;> rfl

end Line

/-! ### Faults of a command line -/

section Faults

variable {line : Line}

theorem blankFault?_isSome {option : String} {patterns : List String} :
    (blankFault? option patterns).isSome = true ↔ ∃ p ∈ patterns, Text.trim p = "" := by
  simp only [blankFault?, Option.isSome_map, List.find?_isSome, Glob.trim_eq_empty_iff]

theorem workersFault?_isSome :
    (workersFault? line).isSome = true ↔ ∃ n, givenWorkers line = some n ∧ n < 1 := by
  rw [workersFault?]
  cases givenWorkers line with
  | none => simp
  | some n => simp [Option.filter]

theorem fault?_isSome : (fault? line).isSome = true ↔
    (∃ p ∈ line.values "--include" ++ line.values "--exclude", Text.trim p = "") ∨
      ∃ n, givenWorkers line = some n ∧ n < 1 := by
  simp only [fault?, Option.isSome_or, Bool.or_eq_true, blankFault?_isSome, workersFault?_isSome,
    List.mem_append, or_and_right, exists_or, or_assoc]

end Faults

/-! ### The configuration of a request -/

/-- The entries of the configuration that a request comes with, and the folder it lies in: those of
a configuration file, or none where there is no such file. -/
inductive Configured (files : Store) (r : Request) : List (Datum × Datum) → Path → Prop where
  | absent (config : configFor files r = none) : Configured files r [] r.target
  | file {path : Path} {text : String} {document : Datum} {entries : List (Datum × Datum)}
      (config : configFor files r = some path) (reads : files.readText path = .ok text)
      (parses : files.document text = .ok document)
      (holds : (if document.truthy then document else .record []) = .record entries) :
      Configured files r entries path.parent

section Configured

variable {files : Store} {line : Line} {r : Request} {entries : List (Datum × Datum)}
  {dir : Path}

theorem canonical_of_configFor (hrequest : requestOf files line = .ok r) {path : Path}
    (h : configFor files r = some path) : path.parent.Canonical := by
  obtain ⟨target, -, -, rfl⟩ := requestOf_eq_ok_iff.mp hrequest
  rw [configFor, requestWith] at h
  cases hconfig : line.value? "--config" with
  | some s =>
      simp only [hconfig, Option.map_some, Option.some.injEq] at h
      rw [← h]
      exact (Path.canonical_ofText s).parent
  | none =>
      simp only [hconfig, Option.map_none] at h
      split at h
      · obtain ⟨name, -, rfl⟩ := List.mem_map.mp (List.mem_of_find?_eq_some h)
        rw [Path.parent_child]
        exact Path.canonical_ofText target
      · simp at h

theorem Configured.canonical (h : Configured files r entries dir)
    (hrequest : requestOf files line = .ok r) : dir.Canonical := by
  cases h with
  | absent _ =>
      obtain ⟨target, -, -, rfl⟩ := requestOf_eq_ok_iff.mp hrequest
      exact Path.canonical_ofText target
  | file hconfig _ _ _ => exact canonical_of_configFor hrequest hconfig

/-- The options of a request come from the configuration that it comes with. -/
theorem Configured.baseFor_eq (h : Configured files r entries dir) :
    baseFor files r = (Options.ofDatum (.record entries) (some dir)).1 := by
  cases h with
  | absent hconfig =>
      rw [baseFor, hconfig]
      rfl
  | file hconfig hreads hparses hholds =>
      rw [baseFor, hconfig]
      simp only [Options.load, hreads, hparses, hholds]

end Configured

/-- Switches win over the configuration, option by option.  Where a configuration is accepted, the
options that a scan is given are what the switches choose, or else what the configuration chooses,
or else the defaults; a table that the configuration names is looked for from its folder, and one
that a switch names is not.  They are refused, in a way that the user is told of, exactly if a
pattern that a switch gives is blank or the number of workers that a switch gives is below one.  No
value of a switch is passed over. -/
theorem options_of_switches {host : Host} (hreader : host.ChecksValues) {words : List String}
    {line : Line} (hline : host.readLine usage words = .ok line)
    {entries : List (Datum × Datum)} {dir : Path} (hdir : dir.Canonical) {base : Options}
    (hbase : (Options.ofDatum (.record entries) (some dir)).1 = .ok base) :
    let built := base.override (settingsOf line)
    ((∃ e, built = .error e) ↔
      (∃ p ∈ line.values "--include" ++ line.values "--exclude", Text.trim p = "") ∨
        ∃ n, givenWorkers line = some n ∧ n < 1) ∧
    (∀ e, built = .error e → e.message?.isSome = true) ∧
    (∀ o, built = .ok o → o = ((choicesOf line).or (Choices.ofEntries entries dir)).onto .default) ∧
    ((∀ s, line.value? "--workers" = some s → ∃ n, givenWorkers line = some n) ∧
      ∀ s, line.value? "--baseline-level" = some s →
        ∃ l : Level, (choicesOf line).level = some l ∧ s = l.label) ∧
    ∀ r, requestOf host.files line = .ok r →
      (∀ entries' dir', Configured host.files r entries' dir' → dir'.Canonical) ∧
      (Configured host.files r entries dir → (optionsFor host.files r).1 = built) := by
  intro built
  have hbuilt : built = checked (fault? line) ((choicesOf line).onto base) :=
    override_settingsOf hreader hline base
  refine ⟨?_, fun e he ↦ message_of_override line he, ?_, ⟨?_, ?_⟩, ?_⟩
  · rw [← fault?_isSome, hbuilt]
    cases fault? line <;> simp [checked]
  · intro o ho
    rw [hbuilt, eq_onto_of_ofDatum hdir hbase, Choices.onto_onto] at ho
    cases hfault : fault? line with
    | some e => simp [hfault, checked] at ho
    | none =>
        rw [hfault] at ho
        exact (Except.ok.inj ho).symm
  · intro s hs
    obtain ⟨n, hn⟩ := exists_integer hreader hline hs
    exact ⟨n, by rw [givenWorkers, hs, Option.bind_some, hn]⟩
  · intro s hs
    obtain ⟨l, hl, hlabel⟩ := exists_level hreader hline hs
    exact ⟨l, by rw [choicesOf, hs, Option.bind_some, hl], hlabel⟩
  · intro r hrequest
    refine ⟨fun entries' dir' h ↦ h.canonical hrequest, fun h ↦ ?_⟩
    obtain ⟨target, -, -, rfl⟩ := requestOf_eq_ok_iff.mp hrequest
    rw [optionsFor_fst, h.baseFor_eq, hbase]
    rfl

/-- A configuration with a null for the patterns to exclude, with switches for patterns to exclude
and for notes. -/
theorem options_of_switches_excluding :
    let entries : List (Datum × Datum) :=
      [(.text "include", .text "*.css"), (.text "exclude", .null), (.text "workers", .int 4),
       (.text "verbose", .null), (.text "features", .text "table.yaml")]
    let line : Line :=
      { switches := [("--exclude", some "b/**"), ("--verbose", none)], operands := ["a.css"] }
    ∃ base, (Options.ofDatum (.record entries) (some (.ofText "conf"))).1 = .ok base ∧
      base.override (settingsOf line) =
        .ok { Options.default with
          includePatterns := ["*.css"]
          excludePatterns := ["b/**"]
          workers := 4
          features := some (.ofText "conf/table.yaml")
          verbose := true } := by
  intro entries line
  let host := Host.ofFiles { top := .folder [] } 80
  have hline : host.readLine usage ["a.css", "--exclude", "b/**", "-v"] = .ok line := rfl
  obtain ⟨base, hbase⟩ : ∃ base,
      (Options.ofDatum (.record entries) (some (.ofText "conf"))).1 = .ok base := ⟨_, rfl⟩
  refine ⟨base, hbase, ?_⟩
  obtain ⟨hfails, -, hchosen, -, -⟩ :=
    options_of_switches (checksValues_ofFiles _ _) hline (Path.canonical_ofText "conf") hbase
  cases hbuilt : base.override (settingsOf line) with
  | error e =>
      rcases hfails.mp ⟨e, hbuilt⟩ with ⟨p, hp, hblank⟩ | ⟨n, hn, -⟩
      · obtain rfl : p = "b/**" := by simpa [line, Line.values] using hp
        exact absurd hblank (by decide)
      · simp [givenWorkers, line, Line.value?, Line.values] at hn
  | ok o =>
      rw [hchosen o hbuilt]
      rfl

end Scan

end WebBaseline.Command

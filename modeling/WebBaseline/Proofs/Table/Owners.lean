import Mathlib.Data.List.Nodup
import Mathlib.Data.List.Pairwise
import WebBaseline.Proofs.Report
import WebBaseline.Table.Basic

/-!
# Owners of keys

A list of features is accepted as a table when no two of them share an id and no key is written
twice.  Every key then has one owner, and the position of the owner among the features does not
matter.  The issues of a feature are therefore the same in all tables that hold this feature.
-/

namespace WebBaseline

namespace Table

/-- No two features share an id, and no key is written twice, be it in one feature or in two. -/
structure Consistent (features : List Feature) : Prop where
  ids : (features.map (·.id)).Nodup
  keys : (features.flatMap (·.keys)).Nodup

/-! ### Acceptance -/

theorem owner?_eq_none_iff {features : List Feature} {key : String} :
    owner? features key = none ↔ ∀ g ∈ features, key ∉ g.keys := by
  simp [owner?]

/-- The keys of a feature pass when they are new, to the features before and to each other. -/
theorem claimKeys_eq_ok_iff {before : List Feature} {f : Feature} {taken keys : List String} :
    claimKeys before f taken keys = .ok () ↔
      (∀ key ∈ keys, key ∉ before.flatMap (·.keys)) ∧ (∀ key ∈ keys, key ∉ taken) ∧
        keys.Nodup := by
  induction keys generalizing taken with
  | nil => simp [claimKeys]
  | cons key rest ih =>
      rw [claimKeys]
      cases howner : owner? before key with
      | some g =>
          have hg : g ∈ before := List.mem_of_find?_eq_some howner
          have hkey : key ∈ g.keys := by simpa using List.find?_some howner
          simp only [reduceCtorEq, false_iff]
          rintro ⟨hnew, -, -⟩
          exact hnew key (by simp) (List.mem_flatMap.mpr ⟨g, hg, hkey⟩)
      | none =>
          have hnew : key ∉ before.flatMap (·.keys) := by
            simpa using owner?_eq_none_iff.mp howner
          by_cases htaken : key ∈ taken
          · simp [htaken]
          · have hcontains : taken.contains key = false := by simpa using htaken
            simp only [hcontains, Bool.false_eq_true, if_false, ih, List.mem_cons, not_or,
              List.nodup_cons, forall_eq_or_imp]
            constructor
            · rintro ⟨hbefore, hrest, hnodup⟩
              refine ⟨⟨hnew, hbefore⟩, ⟨htaken, fun k hk ↦ (hrest k hk).2⟩, ?_, hnodup⟩
              exact fun hmem ↦ (hrest key hmem).1 rfl
            · rintro ⟨⟨-, hbefore⟩, ⟨-, hrest⟩, hmem, hnodup⟩
              refine ⟨hbefore, fun k hk ↦ ⟨?_, hrest k hk⟩, hnodup⟩
              rintro rfl
              exact hmem hk

theorem consistent_snoc_iff {before : List Feature} {f : Feature} :
    Consistent (before ++ [f]) ↔
      Consistent before ∧ (∀ g ∈ before, g.id ≠ f.id) ∧ claimKeys before f [] f.keys = .ok () := by
  rw [claimKeys_eq_ok_iff]
  constructor
  · rintro ⟨hids, hkeys⟩
    simp only [List.map_append, List.map_cons, List.map_nil, List.nodup_append] at hids
    simp only [List.flatMap_append, List.flatMap_cons, List.flatMap_nil, List.append_nil,
      List.nodup_append] at hkeys
    refine ⟨⟨hids.1, hkeys.1⟩, ?_, ?_, by simp, hkeys.2.1⟩
    · intro g hg
      exact hids.2.2 g.id (List.mem_map_of_mem hg) f.id (by simp)
    · intro key hkey hmem
      exact hkeys.2.2 key hmem key hkey rfl
  · rintro ⟨⟨hids, hkeys⟩, hid, hnew, -, hnodup⟩
    refine ⟨?_, ?_⟩
    · simp only [List.map_append, List.map_cons, List.map_nil, List.nodup_append]
      refine ⟨hids, by simp, ?_⟩
      rintro _ hmem _ hf
      obtain ⟨g, hg, rfl⟩ := List.mem_map.mp hmem
      rw [List.mem_singleton.mp hf]
      exact hid g hg
    · simp only [List.flatMap_append, List.flatMap_cons, List.flatMap_nil, List.append_nil,
        List.nodup_append]
      refine ⟨hkeys, hnodup, ?_⟩
      rintro key hmem _ hkey rfl
      exact hnew key hkey hmem

/-- Adding features one by one succeeds when all of them together are consistent. -/
theorem claimAll_eq_ok_iff {before features : List Feature} (hbefore : Consistent before) :
    claimAll before features = .ok () ↔ Consistent (before ++ features) := by
  induction features generalizing before with
  | nil => simpa [claimAll] using hbefore
  | cons f rest ih =>
      have hsplit : before ++ f :: rest = (before ++ [f]) ++ rest := by simp
      have hstep : Consistent (before ++ f :: rest) → Consistent (before ++ [f]) := by
        rw [hsplit]
        rintro ⟨hids, hkeys⟩
        rw [List.map_append] at hids
        rw [List.flatMap_append] at hkeys
        exact ⟨hids.of_append_left, hkeys.of_append_left⟩
      rw [claimAll]
      by_cases hid : ∃ g ∈ before, g.id = f.id
      · have hany : (before.any fun g ↦ g.id = f.id) = true := by simpa using hid
        simp only [hany, if_true, reduceCtorEq, false_iff]
        intro hall
        obtain ⟨g, hg, heq⟩ := hid
        exact (consistent_snoc_iff.mp (hstep hall)).2.1 g hg heq
      · have hany : (before.any fun g ↦ g.id = f.id) = false := by simpa using hid
        have hne : ∀ g ∈ before, g.id ≠ f.id := by simpa using hid
        simp only [hany, Bool.false_eq_true, if_false]
        cases hkeys : claimKeys before f [] f.keys with
        | error e =>
            simp only [reduceCtorEq, false_iff]
            intro hall
            have hok := (consistent_snoc_iff.mp (hstep hall)).2.2
            rw [hkeys] at hok
            simp at hok
        | ok _ =>
            rw [hsplit]
            exact ih (consistent_snoc_iff.mpr ⟨hbefore, hne, hkeys⟩)

/-- A list of features is a table exactly when it is consistent, and it is kept as it is. -/
theorem ofFeatures_eq_ok_iff {features : List Feature} {version : String} {t : Table} :
    ofFeatures features version = .ok t ↔ Consistent features ∧ t = { version, features } := by
  have hiff : claimAll [] features = .ok () ↔ Consistent features :=
    claimAll_eq_ok_iff ⟨by simp, by simp⟩
  rw [← hiff, ofFeatures]
  cases claimAll [] features with
  | error e => simp
  | ok _ => simp [eq_comm]

/-! ### Lookup -/

section Lookup

variable {t : Table} (ht : Consistent t.features)

include ht

theorem eq_of_key {f g : Feature} (hf : f ∈ t.features) (hg : g ∈ t.features) {key : String}
    (hkf : key ∈ f.keys) (hkg : key ∈ g.keys) : f = g := by
  have hpairwise := (List.nodup_flatMap.mp ht.keys).2
  have hsymm : Std.Symm (Function.onFun List.Disjoint fun f : Feature ↦ f.keys) :=
    ⟨fun _ _ h _ hkey hkey' ↦ h hkey' hkey⟩
  by_contra hne
  exact hpairwise.forall hf hg hne hkf hkg

theorem eq_of_id {f g : Feature} (hf : f ∈ t.features) (hg : g ∈ t.features)
    (hid : f.id = g.id) : f = g :=
  List.inj_on_of_nodup_map ht.ids hf hg hid

/-- A key resolves to the one feature that owns it. -/
theorem lookup_eq_some_iff {key : String} {f : Feature} :
    t.lookup key = some f ↔ f ∈ t.features ∧ key ∈ f.keys := by
  constructor
  · intro h
    exact ⟨List.mem_of_find?_eq_some h, by simpa using List.find?_some h⟩
  · rintro ⟨hf, hkey⟩
    cases hlookup : t.lookup key with
    | none => exact absurd hkey (owner?_eq_none_iff.mp hlookup f hf)
    | some g =>
        have hg : g ∈ t.features := List.mem_of_find?_eq_some hlookup
        have hkg : key ∈ g.keys := by simpa using List.find?_some hlookup
        rw [eq_of_key ht hg hf hkg hkey]

end Lookup

end Table

/-! ### Issues in two tables -/

namespace Report

section Shared

variable {t t' : Table} (ht : Table.Consistent t.features) (ht' : Table.Consistent t'.features)
  {common : List Feature} (hcommon : common ⊆ t.features) (hcommon' : common ⊆ t'.features)

include ht ht' hcommon hcommon'

/-- A use that is reported as a use of a common feature in one table is so in the other. -/
theorem reported?_of_common {level : Level} {u : Use} {f : Feature}
    (h : reported? t level u = some f) (hid : f.id ∈ common.map (·.id)) :
    reported? t' level u = some f := by
  obtain ⟨hlookup, hreports⟩ := reported?_eq_some_iff.mp h
  obtain ⟨hf, hkey⟩ := (Table.lookup_eq_some_iff ht).mp hlookup
  obtain ⟨g, hg, hgf⟩ := List.mem_map.mp hid
  obtain rfl : g = f := Table.eq_of_id ht (hcommon hg) hf hgf
  exact reported?_eq_some_iff.mpr
    ⟨(Table.lookup_eq_some_iff ht').mpr ⟨hcommon' hg, hkey⟩, hreports⟩

theorem issue?_filter_of_common (language : Language) (file : String) (level : Level) (u : Use) :
    (issue? language file t level u).filter (fun i ↦ i.featureId ∈ common.map (·.id)) =
      (issue? language file t' level u).filter fun i ↦ i.featureId ∈ common.map (·.id) := by
  ext i
  simp only [issue?, Option.filter_eq_some_iff, Option.map_eq_some_iff, decide_eq_true_eq]
  constructor
  · rintro ⟨⟨f, hf, rfl⟩, hid⟩
    exact ⟨⟨f, reported?_of_common ht ht' hcommon hcommon' hf hid, rfl⟩, hid⟩
  · rintro ⟨⟨f, hf, rfl⟩, hid⟩
    exact ⟨⟨f, reported?_of_common ht' ht hcommon' hcommon hf hid, rfl⟩, hid⟩

theorem issues_filter_of_common (language : Language) (file : String) (level : Level)
    (uses : List Use) :
    (issues language file t level uses).filter (fun i ↦ i.featureId ∈ common.map (·.id)) =
      (issues language file t' level uses).filter fun i ↦ i.featureId ∈ common.map (·.id) := by
  rw [issues_eq_filterMap, issues_eq_filterMap, List.filter_filterMap, List.filter_filterMap]
  exact List.filterMap_congr fun u _ ↦
    issue?_filter_of_common ht ht' hcommon hcommon' language file level u

end Shared

/-- Every issue names a feature of the table. -/
theorem featureId_mem_of_mem_issues {t : Table} {language : Language} {file : String}
    {level : Level} {uses : List Use} {i : Issue} (h : i ∈ issues language file t level uses) :
    i.featureId ∈ t.features.map (·.id) := by
  obtain ⟨u, -, f, hlookup, -, rfl⟩ := exists_use_of_mem_issues h
  exact List.mem_map.mpr ⟨f, List.mem_of_find?_eq_some hlookup, rfl⟩

/-- Features do not disturb each other.  Two tables agree on the issues of a feature that both
hold, and on those of any features that both hold, with their order.  A table that holds all
features of another one, in whatever places, has the issues of the other one and puts further
issues between them. -/
theorem issues_of_shared_features {features features' : List Feature} {version version' : String}
    {t t' : Table} (hload : Table.ofFeatures features version = .ok t)
    (hload' : Table.ofFeatures features' version' = .ok t') (language : Language) (file : String)
    (level : Level) (uses : List Use) :
    (∀ f ∈ t.features, f ∈ t'.features →
      (issues language file t level uses).filter (fun i ↦ i.featureId = f.id) =
        (issues language file t' level uses).filter fun i ↦ i.featureId = f.id) ∧
    (∀ common : List Feature, common ⊆ t.features → common ⊆ t'.features →
      (issues language file t level uses).filter (fun i ↦ i.featureId ∈ common.map (·.id)) =
        (issues language file t' level uses).filter fun i ↦ i.featureId ∈ common.map (·.id)) ∧
    (t.features ⊆ t'.features →
      issues language file t level uses =
        (issues language file t' level uses).filter
          fun i ↦ i.featureId ∈ t.features.map (·.id)) := by
  obtain ⟨ht, rfl⟩ := Table.ofFeatures_eq_ok_iff.mp hload
  obtain ⟨ht', rfl⟩ := Table.ofFeatures_eq_ok_iff.mp hload'
  have hall : ∀ common : List Feature, common ⊆ features → common ⊆ features' →
      (issues language file ⟨version, features⟩ level uses).filter
          (fun i ↦ i.featureId ∈ common.map (·.id)) =
        (issues language file ⟨version', features'⟩ level uses).filter
          fun i ↦ i.featureId ∈ common.map (·.id) := by
    intro common hcommon hcommon'
    exact issues_filter_of_common ht ht' hcommon hcommon' language file level uses
  refine ⟨?_, hall, ?_⟩
  · intro f hf hf'
    have hone := hall [f] (by simpa using hf) (by simpa using hf')
    simpa using hone
  · intro hsubset
    have hown : (issues language file ⟨version, features⟩ level uses).filter
        (fun i ↦ i.featureId ∈ features.map (·.id)) =
          issues language file ⟨version, features⟩ level uses := by
      refine List.filter_eq_self.mpr fun i hi ↦ ?_
      exact decide_eq_true (featureId_mem_of_mem_issues hi)
    rw [← hown]
    exact hall features (List.Subset.refl features) hsubset

/-- A table is extended in front of the feature that it holds. -/
theorem issues_of_shared_features_extended :
    let dialog : Feature :=
      { id := "dialog", name := "<dialog>", description := "", group := "html", tier := .limited
        keys := ["dialog"] }
    let popover : Feature :=
      { id := "popover", name := "Popover", description := "", group := "html", tier := .limited
        keys := ["div.popover"] }
    let uses : List Use :=
      [{ key := "dialog", line := 1, column := 1 },
        { key := "div.popover", line := 1, column := 1 },
        { key := "dialog", line := 1, column := 1 },
        { key := "dialog", line := 2, column := 1 }]
    let few : List Issue := issues .html "a.html" ⟨"1", [dialog]⟩ .limited uses
    let many : List Issue := issues .html "a.html" ⟨"2", [popover, dialog]⟩ .limited uses
    few.length = 2 ∧ many.length = 3 ∧
      few = many.filter fun i ↦ i.featureId ∈ [dialog].map (·.id) := by
  intro dialog popover uses few many
  refine ⟨by decide, by decide, ?_⟩
  have hload : Table.ofFeatures [dialog] "1" = .ok ⟨"1", [dialog]⟩ := rfl
  have hload' : Table.ofFeatures [popover, dialog] "2" = .ok ⟨"2", [popover, dialog]⟩ := rfl
  exact (issues_of_shared_features hload hload' .html "a.html" .limited uses).2.2 (by simp)

end Report

end WebBaseline

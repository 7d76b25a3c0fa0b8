import WebBaseline.Proofs.Table.Owners
import WebBaseline.Table.Basic

/-!
# The indexes are exact

While a table is put together, the indexes hold the features that came so far, each under its id and
under its keys.  They refuse a feature exactly when the list that it would make is no table, with
the same fault, and in the end they answer for the whole list: a key leads to the one feature that
owns it and an id to the one feature that has it.  The order of the features shows only where the
features are listed.
-/

namespace WebBaseline.Table

/-! ### What the indexes hold -/

namespace Index

/-- The features of a list under their keys. -/
def keyed (features : List Feature) : List (String × Feature) :=
  features.flatMap fun f ↦ f.keys.map fun key ↦ (key, f)

/-- The indexes of a list of features. -/
def filed (features : List Feature) : Index where
  byId := features.map fun f ↦ (f.id, f)
  byKey := keyed features

theorem lookup_map_keys (f : Feature) (keys : List String) (key : String) :
    (keys.map fun k ↦ (k, f)).lookup key = if key ∈ keys then some f else none := by
  induction keys with
  | nil => rfl
  | cons k rest ih =>
      by_cases hkey : key = k
      · simp [hkey]
      · have hbeq : (key == k) = false := by simpa using hkey
        simp [List.lookup_cons, hbeq, ih, hkey]

theorem lookup_keyed (features : List Feature) (key : String) :
    (keyed features).lookup key = owner? features key := by
  induction features with
  | nil => rfl
  | cons f rest ih =>
      have hcons : keyed (f :: rest) = (f.keys.map fun k ↦ (k, f)) ++ keyed rest :=
        List.flatMap_cons
      rw [hcons, List.lookup_append, lookup_map_keys, ih, owner?, owner?, List.find?_cons]
      by_cases hkey : key ∈ f.keys
      · simp [hkey]
      · simp [hkey]

theorem lookup_filed_byId (features : List Feature) (id : String) :
    (filed features).byId.lookup id = features.find? fun f ↦ f.id = id := by
  induction features with
  | nil => rfl
  | cons f rest ih =>
      have hcons : (filed (f :: rest)).byId = (f.id, f) :: (filed rest).byId := rfl
      rw [hcons, List.lookup_cons, ih, List.find?_cons]
      by_cases hid : f.id = id
      · simp [hid]
      · have hbeq : (id == f.id) = false := by simpa using Ne.symm hid
        simp [hid, hbeq]

/-! ### Putting features there -/

/-- Some keys of a feature are there already, and the others are put there. -/
theorem addKeys_eq_map_claimKeys (ids : List (String × Feature)) (before : List Feature)
    (f : Feature) (taken keys : List String) :
    addKeys f keys ⟨ids, keyed before ++ taken.map fun k ↦ (k, f)⟩ =
      (claimKeys before f taken.reverse keys).map fun _ ↦
        ⟨ids, keyed before ++ (taken ++ keys).map fun k ↦ (k, f)⟩ := by
  induction keys generalizing taken with
  | nil => simp [addKeys, claimKeys, Except.map]
  | cons key rest ih =>
      have hlookup : (keyed before ++ taken.map fun k ↦ (k, f)).lookup key =
          (owner? before key).or (if key ∈ taken then some f else none) := by
        rw [List.lookup_append, lookup_keyed, lookup_map_keys]
      rw [addKeys, claimKeys]
      simp only [hlookup]
      cases howner : owner? before key with
      | some g => rfl
      | none =>
          by_cases htaken : key ∈ taken
          · simp [htaken, Except.map]
          · have hnext := ih (taken ++ [key])
            simpa [htaken] using hnext

/-- A feature is refused for the reason for which the list refuses it. -/
theorem add_filed (before : List Feature) (f : Feature) :
    (filed before).add f =
      if before.any fun g ↦ g.id = f.id then .error (.duplicateId f.id)
      else (claimKeys before f [] f.keys).map fun _ ↦ filed (before ++ [f]) := by
  rw [add, lookup_filed_byId]
  cases hfind : before.find? fun g ↦ g.id = f.id with
  | some g =>
      have hany : (before.any fun g ↦ g.id = f.id) = true := by
        rw [← List.isSome_find?, hfind]
        rfl
      rw [if_pos hany]
  | none =>
      have hany : ¬ (before.any fun g ↦ g.id = f.id) = true := by
        rw [← List.isSome_find?, hfind]
        simp
      have hkeys := addKeys_eq_map_claimKeys (filed (before ++ [f])).byId before f [] f.keys
      rw [if_neg hany]
      simpa [filed, keyed] using hkeys

theorem foldlM_add_filed (before rest : List Feature) :
    rest.foldlM add (filed before) =
      (claimAll before rest).map fun _ ↦ filed (before ++ rest) := by
  induction rest generalizing before with
  | nil => simp [claimAll, Except.map, pure, Except.pure]
  | cons f rest ih =>
      rw [List.foldlM_cons, add_filed, claimAll]
      by_cases hany : (before.any fun g ↦ g.id = f.id) = true
      · simp only [hany, if_true]
        rfl
      · simp only [hany, Bool.false_eq_true, if_false]
        cases claimKeys before f [] f.keys with
        | error e => rfl
        | ok _ =>
            have hrest := ih (before ++ [f])
            rw [List.append_assoc, List.singleton_append] at hrest
            exact hrest

/-- The indexes are put together, or fail with the same fault, where a table is. -/
theorem ofFeatures_eq_map (features : List Feature) (version : String) :
    ofFeatures features =
      (Table.ofFeatures features version).map fun t ↦ filed t.features := by
  have hfold := foldlM_add_filed [] features
  rw [Table.ofFeatures]
  cases hclaim : claimAll [] features with
  | error e =>
      rw [hclaim] at hfold
      exact hfold
  | ok _ =>
      rw [hclaim] at hfold
      exact hfold

/-! ### What the indexes answer -/

theorem features_filed (features : List Feature) : (filed features).features = features := by
  simp [Index.features, filed, Function.comp_def]

theorem size_filed (features : List Feature) : (filed features).size = features.length := by
  simp [Index.size, filed]

theorem lookup_filed (features : List Feature) (key : String) :
    (filed features).lookup key = owner? features key :=
  lookup_keyed features key

theorem contains_filed (features : List Feature) (key : String) :
    (filed features).contains key = (owner? features key).isSome := by
  rw [← lookup_filed, Index.contains, Index.lookup, Bool.eq_iff_iff, List.any_eq_true,
    List.lookup_isSome_iff]
  simp only [decide_eq_true_eq, beq_iff_eq, eq_comm (a := key)]

end Index

/-! ### The table -/

theorem get?_eq_some_iff {t : Table} (ht : Consistent t.features) {id : String} {f : Feature} :
    t.get? id = some f ↔ f ∈ t.features ∧ f.id = id := by
  constructor
  · intro h
    exact ⟨List.mem_of_find?_eq_some h, by simpa using List.find?_some h⟩
  · rintro ⟨hf, rfl⟩
    cases hget : t.get? f.id with
    | none =>
        have hnone := List.find?_eq_none.mp hget f hf
        simp at hnone
    | some g =>
        have hg : g ∈ t.features := List.mem_of_find?_eq_some hget
        have hid : g.id = f.id := by simpa using List.find?_some hget
        rw [eq_of_id ht hg hf hid]

theorem Consistent.perm {xs ys : List Feature} (h : Consistent xs) (hperm : xs.Perm ys) :
    Consistent ys where
  ids := (hperm.map _).nodup_iff.mp h.ids
  keys := (hperm.flatMap_right _).nodup_iff.mp h.keys

/-- Tables with the same features answer alike. -/
theorem answers_of_perm {t t' : Table} (ht : Consistent t.features)
    (hperm : t'.features.Perm t.features) (s : String) :
    t'.lookup s = t.lookup s ∧ t'.contains s = t.contains s ∧ t'.get? s = t.get? s := by
  have ht' := ht.perm hperm.symm
  have hlookup : t'.lookup s = t.lookup s := by
    ext f
    rw [lookup_eq_some_iff ht', lookup_eq_some_iff ht, hperm.mem_iff]
  refine ⟨hlookup, by rw [contains, contains, hlookup], ?_⟩
  ext f
  rw [get?_eq_some_iff ht', get?_eq_some_iff ht, hperm.mem_iff]

/-- Features make a table unless two of them share an id or a key is written twice, and a table is
put together with indexes that fail where it fails.  The indexes then lead from a key to the one
feature that owns it, from an id to the one feature that has it, and list the features as they were
given; the table gives the same answers.  Features in another order make a table just as well, and
it gives the same answers. -/
theorem ofFeatures_exact (features : List Feature) (version : String) :
    ((∃ e, ofFeatures features version = .error e) ↔
      ¬ (features.map (·.id)).Nodup ∨ ¬ (features.flatMap (·.keys)).Nodup) ∧
    (∀ e, Index.ofFeatures features = .error e ↔ ofFeatures features version = .error e) ∧
    (∀ t, ofFeatures features version = .ok t →
      ∃ x, Index.ofFeatures features = .ok x ∧
        (∀ key f, x.lookup key = some f ↔ f ∈ features ∧ key ∈ f.keys) ∧
        (∀ key, x.contains key = true ↔ x.lookup key ≠ none) ∧
        (∀ id f, x.get? id = some f ↔ f ∈ features ∧ f.id = id) ∧
        x.features = features ∧ x.size = features.length ∧
        t.features = x.features ∧ t.size = x.size ∧
        ∀ s, t.lookup s = x.lookup s ∧ t.contains s = x.contains s ∧ t.get? s = x.get? s) ∧
    ∀ features' version', features'.Perm features →
      ((∃ t', ofFeatures features' version' = .ok t') ↔
        ∃ t, ofFeatures features version = .ok t) ∧
      ∀ t t', ofFeatures features version = .ok t → ofFeatures features' version' = .ok t' →
        ∀ s, t'.lookup s = t.lookup s ∧ t'.contains s = t.contains s ∧ t'.get? s = t.get? s := by
  have hok : ∀ features version, (∃ t, ofFeatures features version = .ok t) ↔
      Consistent features := by
    intro features version
    simp [ofFeatures_eq_ok_iff]
  refine ⟨?_, ?_, ?_, ?_⟩
  · rw [← not_and_or]
    have hconsistent : Consistent features ↔
        (features.map (·.id)).Nodup ∧ (features.flatMap (·.keys)).Nodup :=
      ⟨fun h ↦ ⟨h.ids, h.keys⟩, fun h ↦ ⟨h.1, h.2⟩⟩
    rw [← hconsistent, ← hok features version]
    cases ofFeatures features version <;> simp
  · intro e
    rw [Index.ofFeatures_eq_map features version]
    cases ofFeatures features version <;> simp [Except.map]
  · intro t ht
    obtain ⟨hconsistent, rfl⟩ := ofFeatures_eq_ok_iff.mp ht
    refine ⟨Index.filed features, ?_, ?_, ?_, ?_, Index.features_filed features,
      Index.size_filed features, (Index.features_filed features).symm,
      (Index.size_filed features).symm, ?_⟩
    · rw [Index.ofFeatures_eq_map features version, ht]
      rfl
    · intro key f
      rw [Index.lookup_filed]
      exact lookup_eq_some_iff (t := { version, features }) hconsistent
    · intro key
      rw [Index.contains_filed, Index.lookup_filed, Option.isSome_iff_ne_none]
    · intro id f
      rw [Index.get?, Index.lookup_filed_byId]
      exact get?_eq_some_iff (t := { version, features }) hconsistent
    · intro s
      exact ⟨(Index.lookup_filed features s).symm, (Index.contains_filed features s).symm,
        (Index.lookup_filed_byId features s).symm⟩
  · intro features' version' hperm
    refine ⟨?_, ?_⟩
    · rw [hok, hok]
      exact ⟨fun h ↦ h.perm hperm, fun h ↦ h.perm hperm.symm⟩
    · intro t t' ht ht'
      obtain ⟨hconsistent, rfl⟩ := ofFeatures_eq_ok_iff.mp ht
      obtain ⟨-, rfl⟩ := ofFeatures_eq_ok_iff.mp ht'
      exact answers_of_perm hconsistent hperm

end WebBaseline.Table

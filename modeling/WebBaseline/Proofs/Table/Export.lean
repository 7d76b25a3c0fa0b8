import Mathlib.Data.List.Nodup
import WebBaseline.Command.Features
import WebBaseline.Proofs.Table.Owners
import WebBaseline.Proofs.Text.Case
import WebBaseline.Table.Reading

/-!
# Writing a table and reading it again

Reading an entry writes out what is no text, fills in what is left out and brings the group to
lower case.  A feature that was read is settled under all of this: its required texts are not
empty, its group is in lower case already and its browsers are named once.  The document of a table
that was read is therefore read as the same table.
-/

namespace WebBaseline

/-! ### Texts of values -/

theorem Decimal.Style.positional_ne_empty (digits : String) (point : Int) :
    Style.positional digits point ≠ "" := by
  simp only [Style.positional]
  split
  · simp
  · split <;> simp

theorem Decimal.Style.scientific_ne_empty (style : Style) (digits : String) (point : Int) :
    style.scientific digits point ≠ "" := by
  simp [Style.scientific]

theorem Decimal.Style.magnitude_ne_empty (style : Style) (b : Binary) :
    style.magnitude b ≠ "" := by
  simp only [Style.magnitude]
  split
  · exact positional_ne_empty _ _
  · exact scientific_ne_empty _ _ _

theorem Decimal.render_ne_empty (x : Float) : document.render x ≠ "" := by
  simp only [Style.render]
  split
  · split <;> simp [document]
  · rename_i b hb
    intro hempty
    have hdigits := (String.append_eq_empty_iff.mp hempty).2
    split at hdigits
    · simp at hdigits
    · exact Style.magnitude_ne_empty document b hdigits

theorem toString_int_ne_empty (n : Int) : toString n ≠ "" := by
  cases n with
  | ofNat n => exact Nat.repr_ne_empty
  | negSucc n => simp [toString, Int.repr]

namespace Datum

theorem lookup_cons_text (k : String) (v : Datum) (rest : List (Datum × Datum)) (key : String) :
    lookup ((.text k, v) :: rest) key = if k = key then some v else lookup rest key := by
  rw [lookup]

@[simp] theorem shown_text (s : String) : (text s).shown = s := by
  rw [shown]

theorem shown_list (xs : List Datum) :
    (list xs).shown = "[" ++ ", ".intercalate (quotedList xs) ++ "]" := rfl

theorem shown_tuple (xs : List Datum) :
    (tuple xs).shown = match quotedList xs with
      | [x] => "(" ++ x ++ ",)"
      | shown => "(" ++ ", ".intercalate shown ++ ")" := rfl

theorem shown_set (xs : List Datum) :
    (set xs).shown = match quotedList xs with
      | [] => "set()"
      | shown => "\x7b" ++ ", ".intercalate shown ++ "\x7d" := rfl

theorem shown_record (entries : List (Datum × Datum)) :
    (record entries).shown = "\x7b" ++ ", ".intercalate (quotedEntries entries) ++ "\x7d" := rfl

/-- A value that is on is written with at least one character. -/
theorem shown_ne_empty {v : Datum} (h : v.truthy = true) : v.shown ≠ "" := by
  cases v with
  | null => simp [truthy] at h
  | bool b => cases b <;> decide
  | int n => exact toString_int_ne_empty n
  | float x => exact Decimal.render_ne_empty x
  | text s => simpa [truthy] using h
  | bytes bs =>
      have hshown : (bytes bs).shown = bytesQuoted bs := rfl
      simp [hshown, bytesQuoted]
  | day d =>
      have hshown : (day d).shown = Day.shown d := rfl
      simp [hshown, Day.shown]
  | moment d t =>
      have hshown : (moment d t).shown = Day.shown d ++ " " ++ ClockTime.shown t := rfl
      simp [hshown]
  | list xs =>
      rw [shown_list]
      simp
  | tuple xs =>
      rw [shown_tuple]
      split <;> simp
  | set xs =>
      rw [shown_set]
      split
      · decide
      · simp
  | record entries =>
      rw [shown_record]
      simp

end Datum

namespace Table

/-! ### Browsers and versions -/

theorem putText_of_not_mem {acc : List (String × String)} {k : String}
    (h : k ∉ acc.map Prod.fst) (v : String) : putText acc k v = acc ++ [(k, v)] := by
  induction acc with
  | nil => rfl
  | cons e rest ih =>
      obtain ⟨k', v'⟩ := e
      simp only [List.map_cons, List.mem_cons, not_or] at h
      rw [putText, if_neg (Ne.symm h.1), ih h.2, List.cons_append]

theorem map_fst_putText_of_mem {acc : List (String × String)} {k : String}
    (h : k ∈ acc.map Prod.fst) (v : String) :
    (putText acc k v).map Prod.fst = acc.map Prod.fst := by
  induction acc with
  | nil => simp at h
  | cons e rest ih =>
      obtain ⟨k', v'⟩ := e
      rw [putText]
      by_cases hk : k' = k
      · simp [hk]
      · have hrest : k ∈ rest.map Prod.fst := by
          rcases List.mem_cons.mp h with heq | hmem
          · exact absurd heq.symm hk
          · exact hmem
        simp [hk, ih hrest]

theorem nodup_putText {acc : List (String × String)} (h : (acc.map Prod.fst).Nodup)
    (k v : String) : ((putText acc k v).map Prod.fst).Nodup := by
  by_cases hk : k ∈ acc.map Prod.fst
  · rwa [map_fst_putText_of_mem hk]
  · rw [putText_of_not_mem hk, List.map_append]
    refine List.nodup_append.mpr ⟨h, by simp, ?_⟩
    intro k' hmem _ hnew heq
    obtain rfl : k' = k := heq.trans (List.mem_singleton.mp hnew)
    exact hk hmem

/-- A browser that is given several times is kept once. -/
theorem nodup_supportOf (entries : List (Datum × Datum)) :
    ((supportOf entries).map Prod.fst).Nodup := by
  have hfold : ∀ acc : List (String × String), (acc.map Prod.fst).Nodup →
      ((entries.foldl (fun acc e ↦ putText acc e.1.shown e.2.shown) acc).map Prod.fst).Nodup := by
    induction entries with
    | nil => exact fun acc hacc ↦ hacc
    | cons e rest ih => exact fun acc hacc ↦ ih _ (nodup_putText hacc _ _)
  exact hfold [] (by simp)

theorem supportOf_map_text {support : List (String × String)}
    (h : (support.map Prod.fst).Nodup) :
    supportOf (support.map fun e ↦ (.text e.1, .text e.2)) = support := by
  have hfold : ∀ acc : List (String × String), ((acc ++ support).map Prod.fst).Nodup →
      (support.map fun e ↦ (Datum.text e.1, Datum.text e.2)).foldl
        (fun acc e ↦ putText acc e.1.shown e.2.shown) acc = acc ++ support := by
    clear h
    induction support with
    | nil => simp
    | cons e rest ih =>
        intro acc hacc
        have hnew : e.1 ∉ acc.map Prod.fst := by
          rw [List.map_append, List.nodup_append] at hacc
          exact fun hmem ↦ hacc.2.2 e.1 hmem e.1 (by simp) rfl
        have hsplit : acc ++ e :: rest = (acc ++ [e]) ++ rest := by simp
        rw [List.map_cons, List.foldl_cons, hsplit]
        rw [Datum.shown_text, Datum.shown_text, putText_of_not_mem hnew]
        exact ih (acc ++ [e]) (hsplit ▸ hacc)
  exact hfold [] (by simpa using h)

/-! ### One feature -/

/-- A feature as an entry gives it. -/
structure Settled (f : Feature) : Prop where
  id : f.id ≠ ""
  name : f.name ≠ ""
  group : f.group ≠ ""
  lower_group : Text.lower f.group = f.group
  support : (f.support.map Prod.fst).Nodup

theorem nodup_of_supportOf? {v : Datum} {support : List (String × String)}
    (h : supportOf? v = some support) : (support.map Prod.fst).Nodup := by
  unfold supportOf? at h
  split at h
  · split at h
    · cases h
      exact nodup_supportOf _
    · simp at h
  · cases h
    simp

/-- What an entry is read as, once its tier, its keys and its versions are known. -/
def featureWith (entries : List (Datum × Datum)) (tier : Tier) (keys : List String)
    (support : List (String × String)) : Feature :=
  { id := (Datum.get entries "id").shown
    name := (Datum.get entries "name").shown
    description := ((Datum.lookup entries "description").getD (.text "")).shown
    group := Text.lower (Datum.get entries "group").shown
    tier
    keys
    lowDate := optionalOf (Datum.get entries "baseline_low_date")
    highDate := optionalOf (Datum.get entries "baseline_high_date")
    support
    spec := optionalOf (Datum.get entries "spec") }

/-- The entries that are read: records with all that is required, and with a tier, keys and versions
that can be read. -/
theorem featureOf_eq_ok_iff {index : Nat} {entry : Datum} {f : Feature} :
    featureOf index entry = .ok f ↔
      ∃ entries tier keys support, entry = .record entries ∧
        (∀ name ∈ requiredFields, (Datum.get entries name).truthy = true) ∧
        Tier.ofDatum? (Datum.get entries "baseline") = some tier ∧
        keysOf? (Datum.get entries "compat_features") = some keys ∧
        supportOf? (Datum.get entries "support") = some support ∧
        f = featureWith entries tier keys support := by
  constructor
  · intro h
    unfold featureOf at h
    split at h
    case h_2 => simp at h
    case h_1 entries =>
      simp only at h
      split at h
      case isFalse => simp at h
      case isTrue hmissing =>
        have hrequired : ∀ name ∈ requiredFields, (Datum.get entries name).truthy = true := by
          simpa [List.isEmpty_iff, List.filter_eq_nil_iff] using hmissing
        split at h
        case h_1 => simp at h
        case h_2 tier htier =>
          split at h
          case h_1 => simp at h
          case h_2 keys hkeys =>
            split at h
            case h_1 => simp at h
            case h_2 support hsupport =>
              cases h
              exact ⟨entries, tier, keys, support, rfl, hrequired, htier, hkeys, hsupport, rfl⟩
  · rintro ⟨entries, tier, keys, support, rfl, hrequired, htier, hkeys, hsupport, rfl⟩
    have hmissing :
        (requiredFields.filter fun name ↦ !(Datum.get entries name).truthy) = [] := by
      simpa [List.filter_eq_nil_iff] using hrequired
    simp only [featureOf, hmissing, htier, hkeys, hsupport, List.isEmpty_nil, if_true]
    rfl

theorem settled_of_featureOf {index : Nat} {entry : Datum} {f : Feature}
    (h : featureOf index entry = .ok f) : Settled f := by
  obtain ⟨entries, tier, keys, support, -, hrequired, -, -, hsupport, rfl⟩ :=
    featureOf_eq_ok_iff.mp h
  refine ⟨?_, ?_, ?_, Text.lower_lower _, nodup_of_supportOf? hsupport⟩
  · exact Datum.shown_ne_empty (hrequired "id" (by decide))
  · exact Datum.shown_ne_empty (hrequired "name" (by decide))
  · intro hempty
    exact Datum.shown_ne_empty (hrequired "group" (by decide)) (Text.lower_eq_empty_iff.mp hempty)

theorem tier_ofDatum?_label (t : Tier) : Tier.ofDatum? (.text t.label) = some t := by
  cases t <;> decide +kernel

theorem keysOf?_map_text (keys : List String) : keysOf? (.list (keys.map .text)) = some keys := by
  cases keys with
  | nil => rfl
  | cons key rest => simp [keysOf?, Datum.truthy, Function.comp_def]

theorem supportOf?_map_text {support : List (String × String)}
    (h : (support.map Prod.fst).Nodup) :
    supportOf? (.record (support.map fun e ↦ (.text e.1, .text e.2))) = some support := by
  cases support with
  | nil => rfl
  | cons e rest =>
      have htruthy :
          (Datum.record ((e :: rest).map fun e ↦ (.text e.1, .text e.2))).truthy = true := rfl
      rw [supportOf?, if_pos htruthy, supportOf_map_text h]

theorem optionalOf_optionalText (s : Option String) :
    optionalOf (Feature.optionalText s) = s := by
  cases s <;> rfl

/-- A settled feature is read off its own document. -/
theorem featureOf_toDatum {f : Feature} (h : Settled f) (index : Nat) :
    featureOf index f.toDatum = .ok f := by
  refine featureOf_eq_ok_iff.mpr ⟨_, f.tier, f.keys, f.support, rfl, ?_, ?_, ?_, ?_, ?_⟩
  · intro name hname
    simp only [requiredFields, List.mem_cons, List.not_mem_nil, or_false] at hname
    rcases hname with rfl | rfl | rfl
    · simpa [Datum.get, Datum.lookup_cons_text, Datum.truthy] using h.id
    · simpa [Datum.get, Datum.lookup_cons_text, Datum.truthy] using h.name
    · simpa [Datum.get, Datum.lookup_cons_text, Datum.truthy] using h.group
  · simpa [Datum.get, Datum.lookup_cons_text] using tier_ofDatum?_label f.tier
  · simpa [Datum.get, Datum.lookup_cons_text] using keysOf?_map_text f.keys
  · simpa [Datum.get, Datum.lookup_cons_text] using supportOf?_map_text h.support
  · simp [featureWith, Datum.get, Datum.lookup_cons_text, optionalOf_optionalText, h.lower_group]

/-! ### The table -/

theorem featuresFrom_map_toDatum {features : List Feature} (h : ∀ f ∈ features, Settled f)
    (index : Nat) : featuresFrom index (features.map (·.toDatum)) = .ok features := by
  induction features generalizing index with
  | nil => rfl
  | cons f rest ih =>
      have hf := featureOf_toDatum (h f (by simp)) index
      have hrest := ih (fun g hg ↦ h g (by simp [hg])) (index + 1)
      rw [List.map_cons, featuresFrom, hf]
      simp only [hrest]

theorem settled_of_featuresFrom {index : Nat} {entries : List Datum} {features : List Feature}
    (h : featuresFrom index entries = .ok features) : ∀ f ∈ features, Settled f := by
  induction entries generalizing index features with
  | nil =>
      cases h
      simp
  | cons entry rest ih =>
      rw [featuresFrom] at h
      split at h
      · simp at h
      · rename_i f hf
        split at h
        · simp at h
        · rename_i fs hfs
          cases h
          intro g hg
          rcases List.mem_cons.mp hg with rfl | hg
          · exact settled_of_featureOf hf
          · exact ih hfs g hg

/-- A table that was read has settled features, and these features are accepted. -/
theorem settled_of_ofDatum {document : Datum} {t : Table} (h : ofDatum document = .ok t) :
    (∀ f ∈ t.features, Settled f) ∧ ofFeatures t.features t.version = .ok t := by
  unfold ofDatum at h
  split at h
  case h_2 => simp at h
  case h_1 entries =>
    split at h
    case h_2 => simp at h
    case h_1 raw hraw =>
      split at h
      case h_1 => simp at h
      case h_2 features hfeatures =>
        obtain ⟨hconsistent, rfl⟩ := ofFeatures_eq_ok_iff.mp h
        exact ⟨settled_of_featuresFrom hfeatures, h⟩

/-- The document of a table that was read is read as the same table, with its version, its features
in their order and what they answer to keys and ids.  The command that lists features prints this
document when it is asked for JSON and for no features in particular. -/
theorem ofDatum_toDatum {document : Datum} {t : Table} (h : ofDatum document = .ok t) :
    ofDatum (toDatum t.version t.features) = .ok t ∧
    ∀ (console : Display.Console) (line : Command.Line),
      line.value? "--format" = some "json" → line.value? "--group" = none →
      line.value? "--tier" = none → line.value? "--search" = none →
      Command.Features.endingOf console t line =
        .finished 0 ((toDatum t.version t.features).toJson ++ "\n") := by
  obtain ⟨hsettled, haccepted⟩ := settled_of_ofDatum h
  refine ⟨?_, ?_⟩
  · have hfeatures := featuresFrom_map_toDatum hsettled 0
    simp [ofDatum, toDatum, Datum.get, Datum.lookup_cons_text, hfeatures, haccepted]
  · intro console line hformat hgroup htier hsearch
    have hall : t.select none none none = t.features := rfl
    simp [Command.Features.endingOf, hformat, hgroup, htier, hsearch, hall]

/-- An entry whose values are no texts, whose tier and group are written in capitals and which names
a browser twice. -/
theorem ofDatum_toDatum_coerced :
    let document : Datum := .record
      [(.text "version", .int 3),
       (.text "features", .list [.record
         [(.text "id", .int 7), (.text "name", .bool true), (.text "group", .text "CSS"),
          (.text "baseline", .text " Newly "), (.text "compat_features", .list [.int 1, .null]),
          (.text "support", .record [(.int 1, .text "a"), (.text "1", .int 2)])]])]
    let t : Table :=
      { version := "3"
        features :=
          [{ id := "7", name := "True", description := "", group := "css", tier := .newly
             keys := ["1", "None"], support := [("1", "2")] }] }
    ofDatum document = .ok t ∧ ofDatum (toDatum t.version t.features) = .ok t := by
  intro document t
  have hread : ofDatum document = .ok t := by rfl
  exact ⟨hread, (ofDatum_toDatum hread).1⟩

end Table

end WebBaseline

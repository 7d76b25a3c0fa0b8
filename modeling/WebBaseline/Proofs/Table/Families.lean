import WebBaseline.Analyzer
import WebBaseline.Proofs.Script.Uses
import WebBaseline.Proofs.Table.Owners
import WebBaseline.Proofs.Text.Case
import WebBaseline.Table.Bundled

/-!
# Families of keys

The keys of all languages share one table.  A style sheet puts the name of its language in front of
every key, and so it names no feature of another language.  A script looks its paths up as they
are, and a page the names of its elements and attributes in lower case.  Either of them names a
feature of another language whenever it happens to spell one of its keys.
-/

namespace WebBaseline

/-! ### Keys of scripts -/

namespace Script

open Syntax

theorem exists_key_uses_iff {tree : Tree} {found : List Use} (h : uses tree = .ok found)
    {keys : List String} (hkeys : "" ∉ keys) :
    (∃ u ∈ found, u.key ∈ keys) ↔
      ∃ n ∈ tree.root.namedNodes, IsLookup n ∧
        ∃ key ∈ keys, pathOf? tree.source n = some key := by
  obtain ⟨-, -, rfl⟩ := uses_eq_ok_iff.mp h
  constructor
  · rintro ⟨u, hu, hkey⟩
    obtain ⟨n, hn, huse⟩ := List.mem_filterMap.mp hu
    obtain ⟨hlookup, path, hpath, -, rfl⟩ := useAt?_eq_some_iff.mp huse
    exact ⟨n, hn, hlookup, path, hkey, hpath⟩
  · rintro ⟨n, hn, hlookup, key, hkey, hpath⟩
    have hne : key ≠ "" := fun hempty ↦ hkeys (hempty ▸ hkey)
    have huse := useAt?_eq_some_iff.mpr ⟨hlookup, key, hpath, hne, rfl⟩
    exact ⟨_, List.mem_filterMap.mpr ⟨n, hn, huse⟩, hkey⟩

end Script

/-! ### Keys of pages -/

namespace Markup

theorem mem_map_fst_putAttribute {entries : List (String × String)} {e : String × String}
    {name : String} :
    name ∈ (putAttribute entries e).map Prod.fst ↔ name = e.1 ∨ name ∈ entries.map Prod.fst := by
  induction entries with
  | nil => simp [putAttribute]
  | cons entry rest ih =>
      rw [putAttribute]
      split
      · rename_i hsame
        simp [hsame]
      · simp only [List.map_cons, List.mem_cons, ih]
        exact or_left_comm

theorem mem_map_fst_foldl_putAttribute {written entries : List (String × String)}
    {name : String} :
    name ∈ (written.foldl putAttribute entries).map Prod.fst ↔
      name ∈ written.map Prod.fst ∨ name ∈ entries.map Prod.fst := by
  induction written generalizing entries with
  | nil => simp
  | cons e rest ih =>
      rw [List.foldl_cons, ih, mem_map_fst_putAttribute, List.map_cons, List.mem_cons]
      exact or_left_comm.trans or_assoc.symm

/-- Repeated attributes are merged, but no name gets lost and none is made up. -/
theorem mem_map_fst_attributesOf {t : Tag} {name : String} :
    name ∈ (attributesOf t).map Prod.fst ↔ name ∈ t.attributes.map Prod.fst := by
  have hnames : (attributesOf t).map Prod.fst =
      (t.attributes.foldl putAttribute []).map Prod.fst := by
    rw [attributesOf, List.map_map]
    refine List.map_congr_left fun e _ ↦ ?_
    rw [Function.comp_apply]
    split <;> rfl
  rw [hnames, mem_map_fst_foldl_putAttribute]
  simp

/-- The keys that an element stands for. -/
def Spells (t : Tag) (key : String) : Prop :=
  key = Text.lower t.name ∨
    ∃ name ∈ t.attributes.map Prod.fst, key = Text.lower t.name ++ "." ++ Text.lower name

theorem mem_map_key_usesOf {places : Array (Nat × Nat)} {t : Tag} {key : String} :
    key ∈ (usesOf places t).map (·.key) ↔ Spells t key := by
  have hattribute : key ∈ ((attributesOf t).map fun e ↦
      Text.lower t.name ++ "." ++ Text.lower e.1) ↔
      ∃ name ∈ t.attributes.map Prod.fst, key = Text.lower t.name ++ "." ++ Text.lower name := by
    simp only [← mem_map_fst_attributesOf]
    simp only [List.mem_map, exists_exists_and_eq_and, eq_comm (a := key)]
  rw [Spells, ← hattribute, usesOf, List.map_cons, List.map_map, List.mem_cons]
  rfl

theorem exists_key_uses_iff {places : Array (Nat × Nat)} {tags : List Tag} {keys : List String} :
    (∃ u ∈ tags.flatMap (usesOf places), u.key ∈ keys) ↔
      ∃ t ∈ tags, ∃ key ∈ keys, Spells t key := by
  constructor
  · rintro ⟨u, hu, hkey⟩
    obtain ⟨t, ht, hu⟩ := List.mem_flatMap.mp hu
    exact ⟨t, ht, u.key, hkey, mem_map_key_usesOf.mp (List.mem_map_of_mem hu)⟩
  · rintro ⟨t, ht, key, hkey, hspells⟩
    have hmem : key ∈ (usesOf places t).map (·.key) := mem_map_key_usesOf.mpr hspells
    obtain ⟨u, hu, rfl⟩ := List.mem_map.mp hmem
    exact ⟨u, List.mem_flatMap.mpr ⟨t, ht, hu⟩, hkey⟩

theorem Spells.lower_eq {t : Tag} {key : String} (h : Spells t key) : Text.lower key = key := by
  rcases h with rfl | ⟨e, -, rfl⟩
  · exact Text.lower_lower t.name
  · refine Text.lower_of_isLower fun c hc ↦ ?_
    have hdot : Text.IsLower '.' := by decide +kernel
    simp only [String.toList_append, List.mem_append] at hc
    rcases hc with (hc | hc) | hc
    · exact Text.isLower_of_mem_lower hc
    · obtain rfl : c = '.' := by simpa using hc
      exact hdot
    · exact Text.isLower_of_mem_lower hc

end Markup

/-! ### Keys of style sheets -/

namespace Css

open Syntax

/-- Every key of a style sheet starts with the name of the language. -/
theorem exists_key_eq_of_mem_usesOf {source : ByteArray} {n : Node} {u : Use}
    (h : u ∈ usesOf source n) : ∃ rest, u.key = "css." ++ rest := by
  have hrest : ∀ kind name : String, ("css." ++ kind) ++ name = "css." ++ (kind ++ name) :=
    fun kind name ↦ String.append_assoc
  rw [usesOf] at h
  split at h
  · rw [declarationUses] at h
    split at h
    · simp at h
    · rename_i name hname
      dsimp only at h
      split at h
      · obtain rfl := List.mem_singleton.mp h
        exact ⟨_, hrest "properties." _⟩
      · rcases List.mem_pair.mp h with rfl | rfl
        · exact ⟨_, hrest "properties." _⟩
        · rw [useAt, String.append_assoc, String.append_assoc]
          exact ⟨_, hrest "properties." _⟩
  · split at h
    · split at h
      · obtain rfl := List.mem_singleton.mp h
        exact ⟨_, hrest "selectors." _⟩
      · simp at h
    · split at h
      · obtain rfl := List.mem_singleton.mp h
        exact ⟨_, hrest "at-rules." _⟩
      · simp at h

end Css

/-! ### The bundled table -/

namespace Table

theorem consistent_bundled : Consistent bundled.features :=
  ⟨by decide +kernel, by decide +kernel⟩

theorem empty_not_mem_bundled : ∀ f ∈ bundled.features, "" ∉ f.keys := by decide +kernel

-- Bytes stand here for characters, which take the kernel far longer.
theorem group_of_css_key : ∀ f ∈ bundled.features, f.group ≠ "css" → ∀ key ∈ f.keys,
    "css.".toByteArray.data.toList.isPrefixOf key.toByteArray.data.toList = false := by
  decide +kernel

/-- The features of scripts that have a key in lower case. -/
def lowerScriptFeatures : List String := ["fetch", "async-clipboard", "web-share", "scheduler"]

theorem mem_lowerScriptFeatures : ∀ f ∈ bundled.features, f.group = "javascript" →
    (∃ key ∈ f.keys, Text.lower key = key) → f.id ∈ lowerScriptFeatures := by
  decide +kernel

end Table

/-! ### Crossings -/

namespace Report

/-- Some issue of the uses names the feature. -/
def Names (language : Language) (file : String) (table : Table) (level : Level) (uses : List Use)
    (f : Feature) : Prop :=
  f.id ∈ (issues language file table level uses).map (·.featureId)

theorem names_iff {t : Table} (ht : Table.Consistent t.features) {f : Feature}
    (hf : f ∈ t.features) {language : Language} {file : String} {level : Level}
    {uses : List Use} :
    Names language file t level uses f ↔
      level.reports f.tier = true ∧ ∃ u ∈ uses, u.key ∈ f.keys := by
  rw [Names, List.mem_map]
  constructor
  · rintro ⟨i, hi, hid⟩
    obtain ⟨u, hu, g, hlookup, hreports, rfl⟩ := exists_use_of_mem_issues hi
    obtain ⟨hg, hkey⟩ := (Table.lookup_eq_some_iff ht).mp hlookup
    obtain rfl : g = f := Table.eq_of_id ht hg hf hid
    exact ⟨hreports, u, hu, hkey⟩
  · rintro ⟨hreports, u, hu, hkey⟩
    -- The use itself may be a repetition: the issue is that of the first use of its marker.
    have hmarker : u.marker ∈ (firsts uses).map Use.marker := by
      rw [map_marker_firsts, List.mem_eraseDups]
      exact List.mem_map_of_mem hu
    obtain ⟨v, hv, hsame⟩ := List.mem_map.mp hmarker
    have hkeys : v.key = u.key := congrArg Prod.fst hsame
    have hlookup : t.lookup v.key = some f := by
      rw [hkeys]
      exact (Table.lookup_eq_some_iff ht).mpr ⟨hf, hkey⟩
    refine ⟨issueOf language file f v, ?_, rfl⟩
    rw [issues_eq_filterMap]
    refine List.mem_filterMap.mpr ⟨v, hv, ?_⟩
    rw [issue?, reported?_eq_some_iff.mpr ⟨hlookup, hreports⟩, Option.map_some]

theorem group_of_css_use {tree : Syntax.Tree} {found : List Use}
    (h : Css.uses? tree = some found) {f : Feature} (hf : f ∈ Table.bundled.features)
    (hkey : ∃ u ∈ found, u.key ∈ f.keys) : f.group = "css" := by
  obtain ⟨u, hu, hkey⟩ := hkey
  rw [Css.uses?] at h
  split at h
  · cases h
  · obtain rfl := Option.some.inj h
    obtain ⟨n, -, hn⟩ := List.mem_flatMap.mp hu
    obtain ⟨rest, hrest⟩ := Css.exists_key_eq_of_mem_usesOf hn
    by_contra hgroup
    have hstarts :
        "css.".toByteArray.data.toList.isPrefixOf u.key.toByteArray.data.toList = true := by
      rw [hrest, String.toByteArray_append, ByteArray.data_append, Array.toList_append]
      exact List.isPrefixOf_iff_prefix.mpr (List.prefix_append _ _)
    rw [Table.group_of_css_key f hf hgroup u.key hkey] at hstarts
    exact Bool.false_ne_true hstarts

/-- With the bundled table, a script names a feature, of whatever language, exactly when the level
reports it and a call or a member of the script spells one of its keys.  A page names a feature
exactly when the level reports it and an element of the page spells one of its keys.  The keys
that elements can spell are in lower case, and of the features of scripts only four have such a
key.  A style sheet names features of style sheets alone. -/
theorem names_iff_spelled {f : Feature} (hf : f ∈ Table.bundled.features) (level : Level)
    (file : String) :
    (∀ tree found, Script.uses tree = .ok found →
      (Names .javascript file Table.bundled level found f ↔
        level.reports f.tier = true ∧ ∃ n ∈ tree.root.namedNodes, Script.IsLookup n ∧
          ∃ key ∈ f.keys, Script.pathOf? tree.source n = some key)) ∧
    (∀ (places : Array (Nat × Nat)) (tags : List Markup.Tag),
      (Names .html file Table.bundled level (tags.flatMap (Markup.usesOf places)) f ↔
        level.reports f.tier = true ∧ ∃ t ∈ tags, ∃ key ∈ f.keys, Markup.Spells t key)) ∧
    (∀ t, ∀ key ∈ f.keys, Markup.Spells t key →
      Text.lower key = key ∧ (f.group = "javascript" → f.id ∈ Table.lowerScriptFeatures)) ∧
    (∀ tree found, Css.uses? tree = some found →
      Names .css file Table.bundled level found f → f.group = "css") := by
  refine ⟨?_, ?_, ?_, ?_⟩
  · intro tree found hfound
    rw [names_iff Table.consistent_bundled hf,
      Script.exists_key_uses_iff hfound (Table.empty_not_mem_bundled f hf)]
  · intro places tags
    rw [names_iff Table.consistent_bundled hf, Markup.exists_key_uses_iff]
  · intro t key hkey hspells
    have hlower := hspells.lower_eq
    exact ⟨hlower, fun hgroup ↦ Table.mem_lowerScriptFeatures f hf hgroup ⟨key, hkey, hlower⟩⟩
  · intro tree found hfound hnames
    have hkey := ((names_iff Table.consistent_bundled hf).mp hnames).2
    exact group_of_css_use hfound hf hkey

/-- A script that calls `fencedframe` names the feature of that element, as the element does.  A
style sheet with a property of that name does not. -/
theorem names_iff_spelled_fencedframe :
    let callee : Syntax.Node := .mk "identifier" true false 0 11 ⟨0, 0⟩ [] []
    let call : Syntax.Node := .mk "call_expression" true false 0 13 ⟨0, 0⟩ [("function", 0)]
      [callee, .mk "arguments" true false 11 13 ⟨0, 11⟩ [] []]
    let script : Syntax.Tree := { source := "fencedframe()".toUTF8, root := call, faulty := false }
    let property : Syntax.Node := .mk "property_name" true false 0 11 ⟨0, 0⟩ [] []
    let sheet : Syntax.Tree :=
      { source := "fencedframe".toUTF8
        root := .mk "declaration" true false 0 11 ⟨0, 0⟩ [] [property]
        faulty := false }
    let scriptUses : List Use := [{ key := "fencedframe", line := 1, column := 1 }]
    let sheetUses : List Use :=
      [{ key := "css.properties.fencedframe", line := 1, column := 1
         property := some "fencedframe" }]
    ∃ f ∈ Table.bundled.features, f.group = "html" ∧
      Script.uses script = .ok scriptUses ∧
      Names .javascript "a.js" Table.bundled .limited scriptUses f ∧
      Names .html "a.html" Table.bundled .limited
        ([⟨"FencedFrame", [], 0⟩].flatMap (Markup.usesOf #[(1, 1)])) f ∧
      Css.uses? sheet = some sheetUses ∧
      ¬ Names .css "a.css" Table.bundled .limited sheetUses f := by
  intro callee call script property sheet scriptUses sheetUses
  let f : Feature :=
    { id := "fencedframe"
      name := "<fencedframe>"
      description := "Privacy-preserving embedded frames"
      group := "html"
      tier := .limited
      keys := ["fencedframe"]
      support := [("chrome", "115"), ("edge", "115")]
      spec := some "https://wicg.github.io/fenced-frame/" }
  have hf : f ∈ Table.bundled.features := by decide +kernel
  have hscript : Script.uses script = .ok scriptUses :=
    Script.uses_eq_ok_iff.mpr ⟨rfl, by decide, by decide +kernel⟩
  have hsheet : Css.uses? sheet = some sheetUses := by decide +kernel
  obtain ⟨hnames, -, -, -⟩ := names_iff_spelled hf .limited "a.js"
  obtain ⟨-, hspells, -, -⟩ := names_iff_spelled hf .limited "a.html"
  obtain ⟨-, -, -, hgroup⟩ := names_iff_spelled hf .limited "a.css"
  refine ⟨f, hf, rfl, hscript, ?_, ?_, hsheet, ?_⟩
  · exact (hnames script scriptUses hscript).mpr (by decide +kernel)
  · refine (hspells _ _).mpr ⟨rfl, _, List.mem_singleton_self _, "fencedframe", by simp [f], ?_⟩
    exact Or.inl (by decide +kernel)
  · intro hcss
    have hlanguage : f.group = "css" := hgroup sheet sheetUses hsheet hcss
    exact absurd hlanguage (by decide)

/-- A script that reads a member of an `iframe` names a feature of pages, and a page names a feature
of scripts and one of style sheets by its elements. -/
theorem families_cross :
    (Analyzer.script.analyze "iframe.credentialless" "a.js" Table.bundled .limited).map
        (fun r ↦ r.1.map fun i ↦ (Table.bundled.get? i.featureId).map (·.group)) =
      some [some "html"] ∧
    (Analyzer.markup.analyze "<navigator share><css.properties.field-sizing>" "a.html"
        Table.bundled .limited).map
        (fun r ↦ r.1.map fun i ↦ (Table.bundled.get? i.featureId).map (·.group)) =
      some [some "javascript", some "css"] := by
  refine ⟨?_, ?_⟩ <;> decide +kernel

end Report

end WebBaseline

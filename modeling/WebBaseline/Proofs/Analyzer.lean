import WebBaseline.Analyzer
import WebBaseline.Options.Basic
import WebBaseline.Proofs.Glob.Segments
import WebBaseline.Proofs.Search

/-!
# Selected and handled files

Files are selected by patterns over their paths from the root, and an analyzer is chosen by the
ending of the last name alone, in any case.  Every extension that an analyzer handles has a dot at
its start and no other, and so the ending of a name that is longer than an extension is the
extension exactly if the name ends in it.  The two choices therefore part only where capital letters
or a bare extension are concerned.
-/

namespace WebBaseline

/-! ### Endings of names -/

namespace Path

theorem afterLastDot_eq_none_iff {cs : List Char} : afterLastDot cs = none ↔ '.' ∉ cs := by
  induction cs with
  | nil => simp [afterLastDot]
  | cons c rest ih =>
      rw [afterLastDot]
      cases hrest : afterLastDot rest with
      | some tail =>
          have hdot : '.' ∈ rest := by
            apply Decidable.of_not_not
            intro hnot
            rw [ih.mpr hnot] at hrest
            cases hrest
          simp [hdot]
      | none =>
          have hnot := ih.mp hrest
          rw [List.mem_cons, not_or, and_iff_left hnot]
          by_cases hc : c = '.'
          · simp [hc]
          · simp [hc, Ne.symm hc]

theorem afterLastDot_append {stem body : List Char} (h : '.' ∉ body) :
    afterLastDot (stem ++ '.' :: body) = some ('.' :: body) := by
  induction stem with
  | nil => simp [afterLastDot, afterLastDot_eq_none_iff.mpr h]
  | cons c stem ih => rw [List.cons_append, afterLastDot, ih]

theorem suffix_of_afterLastDot {cs tail : List Char} (h : afterLastDot cs = some tail) :
    tail <:+ cs := by
  induction cs with
  | nil => cases h
  | cons c rest ih =>
      rw [afterLastDot] at h
      split at h
      · rename_i tail' htail
        cases h
        exact (ih htail).trans (List.suffix_cons c rest)
      · split at h
        · cases h
          exact List.suffix_rfl
        · cases h

/-- The ending of a name is a given one exactly if the name is longer and ends in it. -/
theorem suffixOfName_eq_iff {name e : String} {body : List Char} (he : e.toList = '.' :: body)
    (hbody : body ≠ []) (hdot : '.' ∉ body) :
    suffixOfName name = e ↔ e.toList <:+ name.toList ∧ e.length < name.length := by
  rw [← String.length_toList, ← String.length_toList, he]
  constructor
  · intro h
    rw [suffixOfName] at h
    split at h
    · rename_i tail htail
      split at h
      · rename_i hlength
        rw [← h, String.toList_ofList] at he
        subst he
        exact ⟨suffix_of_afterLastDot htail, (by simpa using hlength : _ ∧ _).1⟩
      · rw [← h] at he
        cases he
    · rw [← h] at he
      cases he
  · rintro ⟨⟨stem, hstem⟩, hlength⟩
    have hlong : 1 < ('.' :: body).length := by
      have hpos := List.length_pos_iff.mpr hbody
      rw [List.length_cons]
      omega
    rw [suffixOfName, ← hstem, afterLastDot_append hdot]
    rw [← hstem] at hlength
    simp only [hlength, hlong, decide_true, Bool.and_self, if_true]
    rw [← he, String.ofList_toList]

end Path

/-! ### Patterns for extensions -/

namespace Glob

theorem covers_ending_iff {e : List Char} (he : '*' ∉ e) {path : List (List Char)} :
    Covers [['*', '*'], '*' :: e] path ↔ ∃ name, path.getLast? = some name ∧ e <:+ name := by
  have hstars : '*' :: e ≠ ['*', '*'] := by
    intro h
    apply he
    rw [(List.cons.inj h).2]
    exact List.mem_cons_self
  rw [covers_folders_iff (List.cons_ne_nil _ _)]
  simp only [covers_name_iff hstars, covers_nil_iff, stands_star_iff, stands_iff_eq he]
  constructor
  · rintro ⟨skipped, _, rfl, name, _, rfl, ⟨run, _, rfl, rfl⟩, rfl⟩
    exact ⟨_, List.getLast?_concat, List.suffix_append _ _⟩
  · rintro ⟨name, hlast, run, rfl⟩
    obtain ⟨front, rfl⟩ := List.getLast?_eq_some_iff.mp hlast
    exact ⟨front, [run ++ e], rfl, run ++ e, [], rfl, ⟨run, e, rfl, rfl⟩, rfl⟩

/-- A pattern for an extension anywhere accepts the paths whose last segment ends in it. -/
theorem accepts_ending_iff {e : String} (hstar : '*' ∉ e.toList) (hslash : '/' ∉ e.toList)
    (path : String) :
    accepts ("**/*" ++ e) path = true ↔
      ∃ name, (path.toList.splitOn '/').getLast? = some name ∧ e.toList <:+ name := by
  have hpieces : ∀ s ∈ [['*', '*'], '*' :: e.toList], '/' ∉ s := by simpa using hslash
  have htext : ("**/*" ++ e).toList = ['/'].intercalate [['*', '*'], '*' :: e.toList] := by simp
  have hsplit : ("**/*" ++ e).toList.splitOn '/' = [['*', '*'], '*' :: e.toList] := by
    rw [htext, List.splitOn_intercalate '/' hpieces (by simp)]
  have hparted : ¬ ['*', '*'] <:+: '*' :: e.toList := by
    intro h
    rcases List.infix_cons_iff.mp h with h | h
    · obtain ⟨-, hrest⟩ := List.cons_prefix_cons.mp h
      exact hstar (hrest.subset List.mem_cons_self)
    · exact hstar (h.subset List.mem_cons_self)
  rw [accepts_iff_covers, hsplit, covers_ending_iff hstar]
  rw [hsplit]
  simpa using ⟨.inl rfl, .inr hparted⟩

end Glob

/-! ### Paths from a root -/

section Segments

variable {segments : List String} (hne : segments ≠ [])
  (hsegments : ∀ s ∈ segments, s ≠ "" ∧ s ≠ "." ∧ '/' ∉ s.toList)

include hne hsegments

theorem Path.ofText_relative : Path.ofText (Search.relative segments) = ⟨"", segments⟩ := by
  have hcanonical : Path.Canonical ⟨"", segments⟩ := ⟨Or.inl rfl, hsegments⟩
  have htext : Path.toText ⟨"", segments⟩ = Search.relative segments := by
    simp [Path.toText, hne, Search.relative]
  rw [← htext]
  exact Path.ofText_toText hcanonical

theorem splitOn_relative :
    (Search.relative segments).toList.splitOn '/' = segments.map String.toList := by
  have hslash : ∀ s ∈ segments.map String.toList, '/' ∉ s := by
    intro s hs
    obtain ⟨segment, hsegment, rfl⟩ := List.mem_map.mp hs
    exact (hsegments segment hsegment).2.2
  rw [Search.relative, String.toList_intercalate]
  exact List.splitOn_intercalate '/' hslash (by simpa using hne)

end Segments

namespace Analyzer

/-! ### Extensions -/

/-- A dot and a word in small letters without dots, stars and slashes. -/
structure IsExtension (e : String) : Prop where
  dotted : e.toList.head? = some '.'
  long : 1 < e.toList.length
  plain : '.' ∉ e.toList.tail ∧ '*' ∉ e.toList ∧ '/' ∉ e.toList
  lower : Text.lower e = e

theorem isExtension_of_mem : ∀ e ∈ all.flatMap extensions, IsExtension e := by
  have hall : ∀ e ∈ all.flatMap extensions, e.toList.head? = some '.' ∧ 1 < e.toList.length ∧
      ('.' ∉ e.toList.tail ∧ '*' ∉ e.toList ∧ '/' ∉ e.toList) ∧ Text.lower e = e := by
    decide +kernel
  intro e he
  obtain ⟨hdotted, hlong, hplain, hlower⟩ := hall e he
  exact ⟨hdotted, hlong, hplain, hlower⟩

theorem IsExtension.suffixOfName_eq_iff {e : String} (h : IsExtension e) {name : String} :
    Path.suffixOfName name = e ↔ e.toList <:+ name.toList ∧ e.length < name.length := by
  obtain ⟨body, hbody⟩ := List.head?_eq_some_iff.mp h.dotted
  have hlong := h.long
  have hplain := h.plain.1
  rw [hbody] at hlong hplain
  apply Path.suffixOfName_eq_iff hbody
  · rintro rfl
    exact absurd hlong (lt_irrefl 1)
  · exact hplain

/-- A name ends in one extension at most. -/
theorem IsExtension.eq_of_suffix {e e' : String} (h : IsExtension e) (h' : IsExtension e')
    {name : List Char} (hname : e.toList <:+ name) (hname' : e'.toList <:+ name) : e = e' := by
  have hinner : ∀ {a b : String}, IsExtension a → IsExtension b → a.toList <:+ b.toList →
      a = b := by
    intro a b ha hb hab
    obtain ⟨body, hbody⟩ := List.head?_eq_some_iff.mp ha.dotted
    obtain ⟨body', hbody'⟩ := List.head?_eq_some_iff.mp hb.dotted
    have hplain := hb.plain.1
    rw [hbody'] at hab hplain
    rcases List.suffix_cons_iff.mp hab with heq | hsuffix
    · exact String.toList_inj.mp (heq.trans hbody'.symm)
    · rw [hbody] at hsuffix
      exact absurd (hsuffix.subset List.mem_cons_self) hplain
  rcases List.suffix_or_suffix_of_suffix hname hname' with hsuffix | hsuffix
  · exact hinner h h' hsuffix
  · exact (hinner h' h hsuffix).symm

/-- A name that ends in an extension, and in none that is as long as the name, has an extension as
its ending. -/
theorem suffixOfName_mem_iff {name : String} :
    Path.suffixOfName name ∈ all.flatMap extensions ↔
      (∃ e ∈ all.flatMap extensions, e.toList <:+ name.toList) ∧
        ∀ e ∈ all.flatMap extensions, e.toList <:+ name.toList → e.length < name.length := by
  constructor
  · intro he
    have hextension := isExtension_of_mem _ he
    obtain ⟨hends, hlength⟩ := hextension.suffixOfName_eq_iff.mp rfl
    refine ⟨⟨_, he, hends⟩, fun e he' hends' ↦ ?_⟩
    rwa [(isExtension_of_mem e he').eq_of_suffix hextension hends' hends]
  · rintro ⟨⟨e, he, hends⟩, hlonger⟩
    have hextension := isExtension_of_mem e he
    rwa [hextension.suffixOfName_eq_iff.mpr ⟨hends, hlonger e he hends⟩]

/-- The default patterns are those for the extensions that some analyzer handles. -/
theorem defaultInclude_eq :
    Options.defaultInclude = (all.flatMap extensions).map fun e ↦ "**/*" ++ e := by
  decide +kernel

theorem matchesAny_default (path : String) :
    Glob.matchesAny Options.defaultInclude path =
      .ok (Options.defaultInclude.any fun p ↦ Glob.accepts p path) := by
  have hblank : ∀ p ∈ Options.defaultInclude, Text.isBlankText p = false := by decide +kernel
  exact Glob.matchesAny_of_not_blank hblank path

/-- No two analyzers share an extension. -/
theorem eq_of_mem_extensions {a b : Analyzer} (ha : a ∈ all) (hb : b ∈ all) {e : String}
    (hea : e ∈ a.extensions) (heb : e ∈ b.extensions) : a = b := by
  have hstyle : ∀ e ∈ css.extensions, e ∉ script.extensions ∧ e ∉ markup.extensions := by decide
  have hscript : ∀ e ∈ script.extensions, e ∉ markup.extensions := by decide
  simp only [all, List.mem_cons, List.not_mem_nil, or_false] at ha hb
  rcases ha with rfl | rfl | rfl <;> rcases hb with rfl | rfl | rfl
  · rfl
  · exact absurd heb (hstyle e hea).1
  · exact absurd heb (hstyle e hea).2
  · exact absurd hea (hstyle e heb).1
  · rfl
  · exact absurd heb (hscript e hea)
  · exact absurd hea (hstyle e heb).2
  · exact absurd hea (hscript e heb)
  · rfl

/-- The analyzer of the ending is the only one that has an extension in which the name ends. -/
theorem exists_suffix_iff_eq {a b : Analyzer} (ha : a ∈ all) (hb : b ∈ all) {name : String}
    (hname : Path.suffixOfName name ∈ a.extensions) :
    (∃ e ∈ b.extensions, e.toList <:+ name.toList) ↔ b = a := by
  have he := isExtension_of_mem _ (List.mem_flatMap.mpr ⟨a, ha, hname⟩)
  obtain ⟨hends, -⟩ := he.suffixOfName_eq_iff.mp rfl
  constructor
  · rintro ⟨e, heb, hends'⟩
    have he' := isExtension_of_mem e (List.mem_flatMap.mpr ⟨b, hb, heb⟩)
    rw [he'.eq_of_suffix he hends' hends] at heb
    exact eq_of_mem_extensions hb ha heb hname
  · rintro rfl
    exact ⟨_, hname, hends⟩

theorem handles_iff (a : Analyzer) (path : Path) :
    a.handles path = true ↔ Text.lower path.suffix ∈ a.extensions := by
  rw [handles, List.contains_iff_mem]

theorem eq_of_handles {a b : Analyzer} (ha : a ∈ all) (hb : b ∈ all) {path : Path}
    (hpath : a.handles path = true) (hpath' : b.handles path = true) : a = b :=
  eq_of_mem_extensions ha hb ((handles_iff a path).mp hpath) ((handles_iff b path).mp hpath')

theorem mem_of_forPath {analyzers : List Analyzer} {path : Path} {a : Analyzer}
    (h : forPath analyzers path = some a) : a ∈ analyzers ∧ a.handles path = true := by
  have hfound : (analyzers.find? fun b ↦ b.handles path) = some a := h
  have hhandles := List.find?_some hfound
  exact ⟨List.mem_of_find?_eq_some hfound, hhandles⟩

/-- Whatever the order in which the analyzers are asked, the one that handles a file is found. -/
theorem forPath_eq_some_iff {analyzers : List Analyzer} (h : analyzers.Perm all) {path : Path}
    {a : Analyzer} : forPath analyzers path = some a ↔ a ∈ all ∧ a.handles path = true := by
  constructor
  · intro hfound
    obtain ⟨ha, hhandles⟩ := mem_of_forPath hfound
    exact ⟨h.mem_iff.mp ha, hhandles⟩
  · rintro ⟨ha, hhandles⟩
    cases hfound : forPath analyzers path with
    | none => exact absurd hhandles (List.find?_eq_none.mp hfound a (h.mem_iff.mpr ha))
    | some b =>
        obtain ⟨hb, hhandles'⟩ := mem_of_forPath hfound
        rw [eq_of_handles (h.mem_iff.mp hb) ha hhandles' hhandles]

theorem forPath_eq_of_perm {analyzers : List Analyzer} (h : analyzers.Perm all) (path : Path) :
    forPath analyzers path = forPath all path := by
  apply Option.ext
  intro a
  rw [forPath_eq_some_iff h, forPath_eq_some_iff (List.Perm.refl all)]

/-! ### Selected and handled files -/

section Names

variable {segments : List String} (hne : segments ≠ [])
  (hsegments : ∀ s ∈ segments, s ≠ "" ∧ s ≠ "." ∧ '/' ∉ s.toList)
  {name : String} (hname : segments.getLast? = some name)

include hne hsegments hname

theorem suffix_relative :
    (Path.ofText (Search.relative segments)).suffix = Path.suffixOfName name := by
  rw [Path.ofText_relative hne hsegments, Path.suffix, Path.name, List.getLastD_eq_getLast?, hname,
    Option.getD_some]

/-- Some default pattern matches a path exactly if its last segment ends in an extension. -/
theorem matchesAny_default_iff :
    Glob.matchesAny Options.defaultInclude (Search.relative segments) = .ok true ↔
      ∃ e ∈ all.flatMap extensions, e.toList <:+ name.toList := by
  have haccepts : ∀ e ∈ all.flatMap extensions,
      Glob.accepts ("**/*" ++ e) (Search.relative segments) = true ↔ e.toList <:+ name.toList := by
    intro e he
    obtain ⟨-, hstar, hslash⟩ := (isExtension_of_mem e he).plain
    rw [Glob.accepts_ending_iff hstar hslash, splitOn_relative hne hsegments, List.getLast?_map,
      hname, Option.map_some]
    simp
  rw [matchesAny_default, Except.ok.injEq, List.any_eq_true, defaultInclude_eq]
  constructor
  · rintro ⟨_, hp, hmatch⟩
    obtain ⟨e, he, rfl⟩ := List.mem_map.mp hp
    exact ⟨e, he, (haccepts e he).mp hmatch⟩
  · rintro ⟨e, he, hends⟩
    exact ⟨_, List.mem_map.mpr ⟨e, he, rfl⟩, (haccepts e he).mpr hends⟩

end Names

/-- A path from the root is one that a default pattern matches, and its last segment is longer than
the extension that it ends in, exactly if some analyzer handles the path and its ending is in small
letters; the analyzer is then the one that the extension belongs to.  Where the root lies does not
matter, and neither does the order in which the analyzers are asked, since no path is handled by
two. -/
theorem default_patterns_iff_handled :
    (∀ (segments : List String) (name : String), segments.getLast? = some name →
      (∀ s ∈ segments, s ≠ "" ∧ s ≠ "." ∧ s ≠ ".." ∧ '/' ∉ s.toList) →
      let relative := Search.relative segments
      let path := Path.ofText relative
      (Glob.matchesAny Options.defaultInclude relative = .ok true ∧
          (∀ e ∈ all.flatMap extensions, e.toList <:+ name.toList → e.length < name.length) ↔
        (∃ a, forPath all path = some a) ∧ Text.lower path.suffix = path.suffix) ∧
      (∀ a, forPath all path = some a → Text.lower path.suffix = path.suffix →
        ∀ b ∈ all, (∃ e ∈ b.extensions, e.toList <:+ name.toList) ↔ b = a) ∧
      ∀ root : Path, forPath all (root.below segments) = forPath all path) ∧
    ∀ path : Path,
      (∀ a ∈ all, a.handles path = true →
        forPath all path = some a ∧ ∀ b ∈ all, b.handles path = true → b = a) ∧
      ∀ analyzers : List Analyzer, analyzers.Perm all →
        forPath analyzers path = forPath all path := by
  constructor
  · intro segments name hname hall relative path
    have hne : segments ≠ [] := by
      rintro rfl
      cases hname
    have hsegments : ∀ s ∈ segments, s ≠ "" ∧ s ≠ "." ∧ '/' ∉ s.toList := by
      intro s hs
      obtain ⟨hempty, hdot, -, hslash⟩ := hall s hs
      exact ⟨hempty, hdot, hslash⟩
    have hsuffix : path.suffix = Path.suffixOfName name := suffix_relative hne hsegments hname
    have hhandled : ∀ a, forPath all path = some a ↔
        a ∈ all ∧ Text.lower (Path.suffixOfName name) ∈ a.extensions := by
      intro a
      rw [forPath_eq_some_iff (List.Perm.refl all), handles_iff, hsuffix]
    rw [matchesAny_default_iff hne hsegments hname, ← suffixOfName_mem_iff, hsuffix]
    refine ⟨⟨?_, ?_⟩, ?_, ?_⟩
    · intro he
      have hlower := (isExtension_of_mem _ he).lower
      obtain ⟨a, ha, hea⟩ := List.mem_flatMap.mp he
      refine ⟨⟨a, (hhandled a).mpr ⟨ha, ?_⟩⟩, hlower⟩
      rwa [hlower]
    · rintro ⟨⟨a, ha⟩, hlower⟩
      obtain ⟨hmem, hea⟩ := (hhandled a).mp ha
      rw [hlower] at hea
      exact List.mem_flatMap.mpr ⟨a, hmem, hea⟩
    · intro a ha hlower b hb
      obtain ⟨hmem, hea⟩ := (hhandled a).mp ha
      rw [hlower] at hea
      exact exists_suffix_iff_eq hmem hb hea
    · intro root
      have hbelow : (root.below segments).suffix = path.suffix := by
        rw [hsuffix, Path.suffix, Path.name, Path.below, List.getLastD_eq_getLast?,
          List.getLast?_append, hname, Option.some_or, Option.getD_some]
      simp only [forPath, handles, hbelow]
  · intro path
    refine ⟨?_, fun analyzers h ↦ forPath_eq_of_perm h path⟩
    intro a ha hhandles
    refine ⟨(forPath_eq_some_iff (List.Perm.refl all)).mpr ⟨ha, hhandles⟩, ?_⟩
    intro b hb hhandles'
    exact eq_of_handles hb ha hhandles' hhandles

/-- The last segment of the first path has two dots and stands in a folder with an extension, that
of the second path is a bare extension. -/
theorem default_patterns_iff_handled_dotted :
    let valid (segments : List String) : Prop :=
      ∀ s ∈ segments, s ≠ "" ∧ s ≠ "." ∧ s ≠ ".." ∧ '/' ∉ s.toList
    ["lib.css", "app.min.tsx"].getLast? = some "app.min.tsx" ∧ valid ["lib.css", "app.min.tsx"] ∧
      Glob.matchesAny Options.defaultInclude "lib.css/app.min.tsx" = .ok true ∧
      forPath all (Path.ofText "lib.css/app.min.tsx") = some script ∧
      ["lib", ".css"].getLast? = some ".css" ∧ valid ["lib", ".css"] ∧
      Glob.matchesAny Options.defaultInclude "lib/.css" = .ok true ∧
      forPath all (Path.ofText "lib/.css") = none := by
  intro valid
  have hlast : ["lib.css", "app.min.tsx"].getLast? = some "app.min.tsx" := rfl
  have hbare : ["lib", ".css"].getLast? = some ".css" := rfl
  have hvalid : valid ["lib.css", "app.min.tsx"] := by decide
  have hvalid' : valid ["lib", ".css"] := by decide
  have hmatch : Glob.matchesAny Options.defaultInclude "lib.css/app.min.tsx" = .ok true := by
    rw [matchesAny_default]
    exact congrArg Except.ok (by decide +kernel)
  have hmatch' : Glob.matchesAny Options.defaultInclude "lib/.css" = .ok true := by
    rw [matchesAny_default]
    exact congrArg Except.ok (by decide +kernel)
  obtain ⟨hpaths, -⟩ := default_patterns_iff_handled
  obtain ⟨hiff, hof, -⟩ := hpaths _ _ hlast hvalid
  obtain ⟨hiff', -⟩ := hpaths _ _ hbare hvalid'
  refine ⟨hlast, hvalid, hmatch, ?_, hbare, hvalid', hmatch', ?_⟩
  · obtain ⟨⟨a, ha⟩, hlower⟩ := hiff.mp ⟨hmatch, by decide +kernel⟩
    have hscript : script ∈ all := by simp [all]
    rw [(hof a ha hlower script hscript).mp ⟨".tsx", by decide, by decide⟩]
    exact ha
  · cases hfound : forPath all (Path.ofText "lib/.css") with
    | none => rfl
    | some a =>
        have hlonger := (hiff'.mpr ⟨⟨a, hfound⟩, by decide +kernel⟩).2 ".css" (by decide)
        exact absurd (hlonger (by decide)) (by decide)

end Analyzer

end WebBaseline

import WebBaseline.Proofs.Glob.Pruning
import WebBaseline.Proofs.Lists
import WebBaseline.Proofs.Path

/-!
# Patterns by segments

A matcher compares a pattern and a path character by character.  In a pattern with no two stars side
by side, other than as a whole segment, the two can be compared segment by segment: two stars stand
for some whole segments, and any other segment stands for one segment of the path.
-/

namespace WebBaseline.Glob

/-! ### Segments -/

/-- A segment of a pattern and a text: every star stands for some run of characters, everything else
for itself. -/
inductive Stands : List Char → List Char → Prop where
  | nil : Stands [] []
  | star {segment text : List Char} (run : List Char) (h : Stands segment text) :
      Stands ('*' :: segment) (run ++ text)
  | literal {c : Char} {segment text : List Char} (hc : c ≠ '*') (h : Stands segment text) :
      Stands (c :: segment) (c :: text)

/-- Segments of a pattern and of a path.  Two stars stand for any number of segments, but at the end
of a pattern for at least one. -/
inductive Covers : List (List Char) → List (List Char) → Prop where
  | nil : Covers [] []
  | rest {path : List (List Char)} (hpath : path ≠ []) : Covers [['*', '*']] path
  | folders {segments path : List (List Char)} (skipped : List (List Char)) (hne : segments ≠ [])
      (h : Covers segments path) : Covers (['*', '*'] :: segments) (skipped ++ path)
  | name {segment name : List Char} {segments path : List (List Char)}
      (hstars : segment ≠ ['*', '*']) (hname : Stands segment name) (h : Covers segments path) :
      Covers (segment :: segments) (name :: path)

section Stands

variable {segment text : List Char}

@[simp] theorem stands_nil_iff : Stands [] text ↔ text = [] := by
  constructor
  · intro h
    cases h
    rfl
  · rintro rfl
    exact .nil

theorem stands_star_iff :
    Stands ('*' :: segment) text ↔ ∃ run more, text = run ++ more ∧ Stands segment more := by
  constructor
  · intro h
    cases h with
    | star run h => exact ⟨run, _, rfl, h⟩
    | literal hc h => exact absurd rfl hc
  · rintro ⟨run, more, rfl, h⟩
    exact .star run h

theorem stands_literal_iff {c : Char} (hc : c ≠ '*') :
    Stands (c :: segment) text ↔ ∃ more, text = c :: more ∧ Stands segment more := by
  constructor
  · intro h
    cases h with
    | star run h => exact absurd rfl hc
    | literal _ h => exact ⟨_, rfl, h⟩
  · rintro ⟨more, rfl, h⟩
    exact .literal hc h

/-- A segment without stars stands for itself. -/
theorem stands_iff_eq (h : '*' ∉ segment) : Stands segment text ↔ text = segment := by
  induction segment generalizing text with
  | nil => exact stands_nil_iff
  | cons c segment ih =>
      rw [List.mem_cons, not_or] at h
      obtain ⟨hc, hsegment⟩ := h
      rw [stands_literal_iff (Ne.symm hc)]
      simp [ih hsegment]

end Stands

section Covers

variable {segment : List Char} {segments path : List (List Char)}

@[simp] theorem covers_nil_iff : Covers [] path ↔ path = [] := by
  constructor
  · intro h
    cases h
    rfl
  · rintro rfl
    exact .nil

theorem covers_rest_iff : Covers [['*', '*']] path ↔ path ≠ [] := by
  constructor
  · intro h
    cases h with
    | rest hpath => exact hpath
    | folders skipped hne h => exact absurd rfl hne
    | name hstars hname h => exact absurd rfl hstars
  · exact .rest

theorem covers_folders_iff (hne : segments ≠ []) :
    Covers (['*', '*'] :: segments) path ↔
      ∃ skipped kept, path = skipped ++ kept ∧ Covers segments kept := by
  constructor
  · intro h
    cases h with
    | rest hpath => exact absurd rfl hne
    | folders skipped _ h => exact ⟨skipped, _, rfl, h⟩
    | name hstars hname h => exact absurd rfl hstars
  · rintro ⟨skipped, kept, rfl, h⟩
    exact .folders skipped hne h

theorem covers_name_iff (hstars : segment ≠ ['*', '*']) :
    Covers (segment :: segments) path ↔
      ∃ name more, path = name :: more ∧ Stands segment name ∧ Covers segments more := by
  constructor
  · intro h
    cases h with
    | rest hpath => exact absurd rfl hstars
    | folders skipped hne h => exact absurd rfl hstars
    | name _ hname h => exact ⟨_, _, rfl, hname, h⟩
  · rintro ⟨name, more, rfl, hname, h⟩
    exact .name hstars hname h

/-- Every segment takes something of a path, or one behind it does. -/
theorem Covers.ne_nil (h : Covers segments path) (hne : segments ≠ []) : path ≠ [] := by
  induction h with
  | nil => exact absurd rfl hne
  | rest hpath => exact hpath
  | folders skipped hrest _ ih => exact List.append_ne_nil_of_right_ne_nil skipped (ih hrest)
  | name _ _ _ _ => exact List.cons_ne_nil _ _

end Covers

/-! ### Texts cut at slashes -/

section Slashes

variable {text piece : List Char} {pieces : List (List Char)}

theorem slash_not_mem_of_mem_splitOn (h : piece ∈ text.splitOn '/') : '/' ∉ piece := by
  rw [← Path.splitSlash_nil_right] at h
  exact Path.slash_not_mem_of_mem_splitSlash List.not_mem_nil h

theorem intercalate_append {front : List (List Char)} (hfront : front ≠ [])
    (hpieces : pieces ≠ []) :
    ['/'].intercalate (front ++ pieces) =
      ['/'].intercalate front ++ '/' :: ['/'].intercalate pieces := by
  induction front with
  | nil => exact absurd rfl hfront
  | cons first front ih =>
      by_cases hmore : front = []
      · subst hmore
        rw [List.singleton_append, List.intercalate_cons_of_ne_nil hpieces,
          List.intercalate_singleton, List.append_assoc]
        rfl
      · have happend : front ++ pieces ≠ [] := List.append_ne_nil_of_left_ne_nil hmore pieces
        rw [List.cons_append, List.intercalate_cons_of_ne_nil happend, ih hmore,
          List.intercalate_cons_of_ne_nil hmore]
        simp

/-- The pieces of a text can be parted only where a slash parts the text. -/
theorem splitOn_eq_append_iff {front : List (List Char)} (hfront : front ≠ [])
    (hpieces : pieces ≠ []) :
    text.splitOn '/' = front ++ pieces ↔
      ∃ start more, text = start ++ '/' :: more ∧ start.splitOn '/' = front ∧
        more.splitOn '/' = pieces := by
  constructor
  · intro h
    have hslash : ∀ piece ∈ front ++ pieces, '/' ∉ piece := by
      intro piece hpiece
      rw [← h] at hpiece
      exact slash_not_mem_of_mem_splitOn hpiece
    rw [List.forall_mem_append] at hslash
    refine ⟨['/'].intercalate front, ['/'].intercalate pieces, ?_,
      List.splitOn_intercalate '/' hslash.1 hfront, List.splitOn_intercalate '/' hslash.2 hpieces⟩
    rw [← intercalate_append hfront hpieces, ← h, List.intercalate_splitOn]
  · rintro ⟨start, more, rfl, rfl, rfl⟩
    exact List.splitOn_append_cons_self start more

theorem splitOn_eq_singleton_iff : text.splitOn '/' = [piece] ↔ text = piece ∧ '/' ∉ piece := by
  constructor
  · intro h
    have htext : ['/'].intercalate (text.splitOn '/') = text := List.intercalate_splitOn '/'
    rw [h, List.intercalate_singleton] at htext
    have hpiece : piece ∈ text.splitOn '/' := by
      rw [h]
      exact List.mem_singleton_self piece
    exact ⟨htext.symm, slash_not_mem_of_mem_splitOn hpiece⟩
  · rintro ⟨rfl, h⟩
    exact List.splitOn_eq_singleton h

theorem splitOn_eq_cons_iff (hpieces : pieces ≠ []) :
    text.splitOn '/' = piece :: pieces ↔
      ∃ more, text = piece ++ '/' :: more ∧ '/' ∉ piece ∧ more.splitOn '/' = pieces := by
  rw [← List.singleton_append, splitOn_eq_append_iff (List.cons_ne_nil _ _) hpieces]
  simp only [splitOn_eq_singleton_iff]
  constructor
  · rintro ⟨start, more, rfl, ⟨rfl, hslash⟩, rfl⟩
    exact ⟨more, rfl, hslash, rfl⟩
  · rintro ⟨more, rfl, hslash, rfl⟩
    exact ⟨piece, more, rfl, ⟨rfl, hslash⟩, rfl⟩

end Slashes

/-! ### The tokens of a segment -/

section Tokens

variable {segment text rest : List Char}

/-- The tokens of a segment without two stars side by side. -/
def segmentTokens (segment : List Char) : List Token :=
  segment.map fun c ↦ if c = '*' then .name else .literal c

theorem cut_segment {ts : List Token} (hstars : ¬ ['*', '*'] <:+: segment)
    (hrest : rest.head? ≠ some '*') (h : Cut rest ts) :
    Cut (segment ++ rest) (segmentTokens segment ++ ts) := by
  induction segment with
  | nil => exact h
  | cons c segment ih =>
      have hcut := ih fun hinner ↦ hstars (hinner.trans (List.suffix_cons c segment).isInfix)
      rw [segmentTokens, List.map_cons, List.cons_append, List.cons_append]
      by_cases hc : c = '*'
      · subst hc
        rw [if_pos rfl]
        refine .name ?_ hcut
        cases segment with
        | nil => exact hrest
        | cons d segment =>
            rintro hd
            obtain rfl : d = '*' := Option.some.inj hd
            exact hstars ⟨[], segment, rfl⟩
      · rw [if_neg hc]
        exact .literal hc hcut

theorem tokens_segment (hstars : ¬ ['*', '*'] <:+: segment) :
    tokens segment = segmentTokens segment := by
  have hcut : Cut (segment ++ []) (segmentTokens segment ++ []) := cut_segment hstars (by simp) .nil
  rw [List.append_nil, List.append_nil] at hcut
  exact (cut_iff.mp hcut).symm

theorem tokens_segment_slash (hstars : ¬ ['*', '*'] <:+: segment) (rest : List Char) :
    tokens (segment ++ '/' :: rest) = segmentTokens segment ++ .literal '/' :: tokens rest :=
  (cut_iff.mp (cut_segment hstars (by simp) (.literal (by decide) (cut_tokens rest)))).symm

/-- A star takes no slash, so a segment takes texts without slashes. -/
theorem spells_segmentTokens (hslash : '/' ∉ segment) :
    Spells (segmentTokens segment) text ↔ Stands segment text ∧ '/' ∉ text := by
  induction segment generalizing text with
  | nil =>
      rw [stands_nil_iff]
      constructor
      · rintro rfl
        exact ⟨rfl, List.not_mem_nil⟩
      · exact fun h ↦ h.1
  | cons c segment ih =>
      rw [List.mem_cons, not_or] at hslash
      obtain ⟨hc, hsegment⟩ := hslash
      rw [segmentTokens, List.map_cons, ← segmentTokens, Spells]
      simp only [ih hsegment]
      by_cases hstar : c = '*'
      · subst hstar
        rw [if_pos rfl, stands_star_iff]
        constructor
        · rintro ⟨run, more, rfl, hrun, hmore, hnot⟩
          exact ⟨⟨run, more, rfl, hmore⟩, fun h ↦ (List.mem_append.mp h).elim hrun hnot⟩
        · rintro ⟨⟨run, more, rfl, hmore⟩, hnot⟩
          rw [List.mem_append, not_or] at hnot
          exact ⟨run, more, rfl, hnot.1, hmore, hnot.2⟩
      · rw [if_neg hstar, stands_literal_iff hstar]
        constructor
        · rintro ⟨_, more, rfl, rfl, hmore, hnot⟩
          refine ⟨⟨more, rfl, hmore⟩, ?_⟩
          rw [List.singleton_append, List.mem_cons, not_or]
          exact ⟨hc, hnot⟩
        · rintro ⟨⟨more, rfl, hmore⟩, hnot⟩
          rw [List.mem_cons, not_or] at hnot
          exact ⟨[c], more, rfl, rfl, hmore, hnot.2⟩

theorem spells_segment_slash (hslash : '/' ∉ segment) {ts : List Token} :
    Spells (segmentTokens segment ++ .literal '/' :: ts) text ↔
      ∃ name more, text = name ++ '/' :: more ∧ '/' ∉ name ∧ Stands segment name ∧
        Spells ts more := by
  rw [spells_append]
  simp only [spells_segmentTokens hslash, Spells, Token.Takes]
  constructor
  · rintro ⟨name, _, rfl, ⟨hname, hnot⟩, _, more, rfl, rfl, hmore⟩
    exact ⟨name, more, rfl, hnot, hname, hmore⟩
  · rintro ⟨name, more, rfl, hnot, hname, hmore⟩
    exact ⟨name, '/' :: more, rfl, ⟨hname, hnot⟩, ['/'], more, rfl, rfl, hmore⟩

end Tokens

/-! ### Segment by segment -/

section Segments

variable {segment text : List Char} {segments : List (List Char)}

/-- Two stars before a slash take whole segments with their slashes. -/
theorem spells_folders_iff {ts : List Token} (hne : segments ≠ [])
    (ih : ∀ more, Spells ts more ↔ Covers segments (more.splitOn '/')) :
    Spells (.folders :: ts) text ↔ Covers (['*', '*'] :: segments) (text.splitOn '/') := by
  rw [covers_folders_iff hne]
  constructor
  · rintro ⟨_, more, rfl, rfl | ⟨start, rfl⟩, hmore⟩
    · exact ⟨[], more.splitOn '/', rfl, (ih more).mp hmore⟩
    · refine ⟨start.splitOn '/', more.splitOn '/', ?_, (ih more).mp hmore⟩
      rw [List.append_assoc, List.singleton_append, List.splitOn_append_cons_self]
  · rintro ⟨skipped, kept, hsplit, hkept⟩
    by_cases hskipped : skipped = []
    · subst hskipped
      rw [List.nil_append] at hsplit
      subst hsplit
      exact ⟨[], text, rfl, .inl rfl, (ih text).mpr hkept⟩
    · obtain ⟨start, more, rfl, -, rfl⟩ :=
        (splitOn_eq_append_iff hskipped (hkept.ne_nil hne)).mp hsplit
      exact ⟨start ++ ['/'], more, by simp, .inr ⟨start, rfl⟩, (ih more).mpr hkept⟩

/-- Any other segment before a slash takes one segment. -/
theorem spells_name_iff {ts : List Token} (hslash : '/' ∉ segment) (hstars : segment ≠ ['*', '*'])
    (hne : segments ≠ []) (ih : ∀ more, Spells ts more ↔ Covers segments (more.splitOn '/')) :
    Spells (segmentTokens segment ++ .literal '/' :: ts) text ↔
      Covers (segment :: segments) (text.splitOn '/') := by
  rw [spells_segment_slash hslash, covers_name_iff hstars]
  constructor
  · rintro ⟨name, more, rfl, hnot, hname, hmore⟩
    exact ⟨name, more.splitOn '/', List.splitOn_append_cons_self_of_not_mem hnot more, hname,
      (ih more).mp hmore⟩
  · rintro ⟨name, others, hsplit, hname, hothers⟩
    obtain ⟨more, rfl, hnot, rfl⟩ := (splitOn_eq_cons_iff (hothers.ne_nil hne)).mp hsplit
    exact ⟨name, more, rfl, hnot, hname, (ih more).mpr hothers⟩

theorem spells_last_iff (hslash : '/' ∉ segment) (hstars : segment ≠ ['*', '*']) :
    Spells (segmentTokens segment) text ↔ Covers [segment] (text.splitOn '/') := by
  rw [spells_segmentTokens hslash, covers_name_iff hstars]
  simp only [covers_nil_iff]
  constructor
  · rintro ⟨htext, hnot⟩
    exact ⟨text, [], List.splitOn_eq_singleton hnot, htext, rfl⟩
  · rintro ⟨name, _, hsplit, hname, rfl⟩
    obtain ⟨rfl, hnot⟩ := splitOn_eq_singleton_iff.mp hsplit
    exact ⟨hname, hnot⟩

/-- A segment is two stars, or no two of its stars stand side by side. -/
def Whole (segment : List Char) : Prop := segment = ['*', '*'] ∨ ¬ ['*', '*'] <:+: segment

instance (segment : List Char) : Decidable (Whole segment) := inferInstanceAs (Decidable (_ ∨ _))

theorem ne_stars_of_parted (h : ¬ ['*', '*'] <:+: segment) : segment ≠ ['*', '*'] := by
  rintro rfl
  exact h List.infix_rfl

theorem spells_iff_covers (hne : segments ≠ []) (hslash : ∀ s ∈ segments, '/' ∉ s)
    (hwhole : ∀ s ∈ segments, Whole s) (text : List Char) :
    Spells (tokens (['/'].intercalate segments)) text ↔ Covers segments (text.splitOn '/') := by
  induction segments generalizing text with
  | nil => exact absurd rfl hne
  | cons segment segments ih =>
      have hsegment := hslash segment List.mem_cons_self
      by_cases hmore : segments = []
      · subst hmore
        rw [List.intercalate_singleton]
        rcases hwhole segment List.mem_cons_self with rfl | hstars
        · rw [covers_rest_iff]
          exact ⟨fun _ ↦ List.splitOn_ne_nil _ _, fun _ ↦ ⟨text, [], by simp, trivial, rfl⟩⟩
        · rw [tokens_segment hstars]
          exact spells_last_iff hsegment (ne_stars_of_parted hstars)
      · have hrest := ih hmore (fun s hs ↦ hslash s (List.mem_cons_of_mem segment hs))
          fun s hs ↦ hwhole s (List.mem_cons_of_mem segment hs)
        have htext : ['/'].intercalate (segment :: segments) =
            segment ++ '/' :: ['/'].intercalate segments := by
          rw [List.intercalate_cons_of_ne_nil hmore]
          simp
        rw [htext]
        rcases hwhole segment List.mem_cons_self with rfl | hstars
        · exact spells_folders_iff hmore hrest
        · rw [tokens_segment_slash hstars]
          exact spells_name_iff hsegment (ne_stars_of_parted hstars) hmore hrest

theorem accepts_iff_covers {pattern : String} (hwhole : ∀ s ∈ pattern.toList.splitOn '/', Whole s)
    (path : String) :
    accepts pattern path = true ↔
      Covers (pattern.toList.splitOn '/') (path.toList.splitOn '/') := by
  rw [accepts_iff, ← spells_iff_covers (List.splitOn_ne_nil _ _)
    (fun _ ↦ slash_not_mem_of_mem_splitOn) hwhole, List.intercalate_splitOn]

end Segments

/-! ### A name anywhere -/

/-- Two stars on both sides of a name stand for any segments before it and for at least one behind
it. -/
theorem covers_around_iff {name : List Char} (hname : '*' ∉ name) {path : List (List Char)} :
    Covers [['*', '*'], name, ['*', '*']] path ↔ name ∈ path.dropLast := by
  have hstars : name ≠ ['*', '*'] := by
    rintro rfl
    exact hname List.mem_cons_self
  rw [covers_folders_iff (by simp), mem_dropLast_iff]
  simp only [covers_name_iff hstars, covers_rest_iff, stands_iff_eq hname]
  constructor
  · rintro ⟨skipped, _, rfl, _, back, rfl, rfl, hback⟩
    exact ⟨skipped, back, rfl, hback⟩
  · rintro ⟨front, back, rfl, hback⟩
    exact ⟨front, name :: back, rfl, name, back, rfl, rfl, hback⟩

theorem splitOn_around {name : String} (hslash : '/' ∉ name.toList) :
    ("**/" ++ name ++ "/**").toList.splitOn '/' = [['*', '*'], name.toList, ['*', '*']] := by
  have hpieces : ∀ s ∈ [['*', '*'], name.toList, ['*', '*']], '/' ∉ s := by simpa using hslash
  have htext : ("**/" ++ name ++ "/**").toList =
      ['/'].intercalate [['*', '*'], name.toList, ['*', '*']] := by simp
  rw [htext, List.splitOn_intercalate '/' hpieces (by simp)]

/-- A pattern that is not blank, and in which two stars stand side by side only as a whole segment,
matches a path exactly if its segments cover those of the path.  So a name between two stars and two
stars matches the paths in which a segment other than the last is the name. -/
theorem isMatch_iff_covers :
    (∀ pattern, Text.isBlankText pattern = false →
      (∀ s ∈ pattern.toList.splitOn '/', s = ['*', '*'] ∨ ¬ ['*', '*'] <:+: s) →
      ∀ path, ∃ answer, isMatch pattern path = .ok answer ∧
        (answer = true ↔ Covers (pattern.toList.splitOn '/') (path.toList.splitOn '/'))) ∧
    ∀ name : String, '*' ∉ name.toList → '/' ∉ name.toList →
      ∀ path, ∃ answer, isMatch ("**/" ++ name ++ "/**") path = .ok answer ∧
        (answer = true ↔ name.toList ∈ (path.toList.splitOn '/').dropLast) := by
  constructor
  · intro pattern hblank hwhole path
    exact ⟨_, isMatch_of_not_blank hblank path, accepts_iff_covers hwhole path⟩
  · intro name hstar hslash path
    have hform : coversFolder ("**/" ++ name ++ "/**") = true :=
      coversFolder_iff.mpr (.inr ⟨_, rfl⟩)
    refine ⟨_, isMatch_of_not_blank (not_blank_of_coversFolder hform) path, ?_⟩
    have hname : Whole name.toList := .inr fun h ↦ hstar (h.subset List.mem_cons_self)
    have hsplit := splitOn_around hslash
    rw [accepts_iff_covers, hsplit, covers_around_iff hstar]
    rw [hsplit]
    simpa using ⟨.inl rfl, hname, .inl rfl⟩

/-- The two stars in the middle cover no segment of the first path, one of the second, and two of
the third, of which one is empty. -/
theorem isMatch_iff_covers_folders :
    let pattern := "web/**/*.c*s"
    let segments := pattern.toList.splitOn '/'
    Text.isBlankText pattern = false ∧
      (∀ s ∈ segments, s = ['*', '*'] ∨ ¬ ['*', '*'] <:+: s) ∧
      (∀ path ∈ ["web/a.css", "web/x/a.cs", "web//x/a.css"],
        Covers segments (path.toList.splitOn '/')) ∧
      ¬ Covers segments ("web/x".toList.splitOn '/') ∧
      '*' ∉ "build".toList ∧ '/' ∉ "build".toList ∧
      isMatch "**/build/**" "web/build/" = .ok true ∧
      isMatch "**/build/**" "web/build" = .ok false := by
  intro pattern segments
  have hblank : Text.isBlankText pattern = false := by decide +kernel
  have hwhole : ∀ s ∈ segments, s = ['*', '*'] ∨ ¬ ['*', '*'] <:+: s := by decide +kernel
  have hstar : '*' ∉ "build".toList := by decide +kernel
  have hslash : '/' ∉ "build".toList := by decide +kernel
  obtain ⟨hsegments, hname⟩ := isMatch_iff_covers
  have hcovers : ∀ path, accepts pattern path = true ↔
      Covers segments (path.toList.splitOn '/') := by
    intro path
    obtain ⟨answer, hanswer, hiff⟩ := hsegments pattern hblank hwhole path
    rw [isMatch_of_not_blank hblank, Except.ok.injEq] at hanswer
    rw [hanswer]
    exact hiff
  refine ⟨hblank, hwhole, fun path hpath ↦ ?_, fun h ↦ ?_, hstar, hslash, ?_, ?_⟩
  · have hall : ∀ path ∈ ["web/a.css", "web/x/a.cs", "web//x/a.css"],
        accepts pattern path = true := by decide +kernel
    exact (hcovers path).mp (hall path hpath)
  · have hnot : accepts pattern "web/x" = false := by decide +kernel
    rw [(hcovers "web/x").mpr h] at hnot
    cases hnot
  · obtain ⟨answer, hanswer, hiff⟩ := hname "build" hstar hslash "web/build/"
    rw [hiff.mpr (by decide +kernel)] at hanswer
    exact hanswer
  · obtain ⟨answer, hanswer, hiff⟩ := hname "build" hstar hslash "web/build"
    have hfalse : answer = false :=
      Bool.eq_false_iff.mpr fun h ↦ absurd (hiff.mp h) (by decide +kernel)
    rw [hfalse] at hanswer
    exact hanswer

end WebBaseline.Glob

import Mathlib.Data.List.Induction
import WebBaseline.Proofs.Glob.Cutting

/-!
# Patterns and whole folders

A folder is passed over when a pattern for whole folders accepts its path with a slash behind it.
One answer stands for everything below the folder: such a pattern accepts the path of a folder
exactly if it accepts every path that goes on from there.
-/

namespace WebBaseline.Glob

/-! ### Asking patterns that are not blank -/

section NotBlank

variable {patterns : List String} (h : ∀ p ∈ patterns, Text.isBlankText p = false)

include h

theorem matchesAny_of_not_blank (path : String) :
    matchesAny patterns path = .ok (patterns.any fun p ↦ accepts p path) := by
  induction patterns with
  | nil => rfl
  | cons p rest ih =>
      have hrest := ih fun q hq ↦ h q (List.mem_cons_of_mem p hq)
      rw [matchesAny, isMatch_of_not_blank (h p List.mem_cons_self), List.any_cons]
      cases accepts p path with
      | true => rfl
      | false => simpa using hrest

theorem prunes_of_not_blank (directory : String) :
    prunes patterns directory =
      .ok (patterns.any fun p ↦ coversFolder p && accepts p (directory ++ "/")) := by
  have hcovers : ∀ p ∈ patterns.filter coversFolder, Text.isBlankText p = false :=
    fun p hp ↦ h p (List.mem_of_mem_filter hp)
  rw [prunes, matchesAny_of_not_blank hcovers, List.any_filter]

end NotBlank

/-! ### Patterns for whole folders -/

theorem coversFolder_iff {pattern : String} :
    coversFolder pattern = true ↔ pattern = "**" ∨ ∃ front, pattern = front ++ "/**" := by
  rw [coversFolder, Bool.or_eq_true, decide_eq_true_eq, List.isSuffixOf_iff_suffix]
  apply or_congr_right
  constructor
  · rintro ⟨front, hfront⟩
    refine ⟨String.ofList front, ?_⟩
    rw [← String.toList_inj, String.toList_append, String.toList_ofList]
    exact hfront.symm
  · rintro ⟨front, rfl⟩
    exact ⟨front.toList, by rw [String.toList_append]; rfl⟩

theorem not_blank_of_coversFolder {pattern : String} (h : coversFolder pattern = true) :
    Text.isBlankText pattern = false := by
  have hstar : '*' ∈ pattern.toList := by
    rcases coversFolder_iff.mp h with rfl | ⟨front, rfl⟩
    · decide
    · rw [String.toList_append, List.mem_append]
      exact .inr (by decide)
  rw [Text.isBlankText, List.all_eq_false]
  exact ⟨'*', hstar, by decide⟩

/-! ### What is accepted below a folder -/

/-- No literal takes two letters, and what stands for whole folders ends in a slash.  So what is
spelled with either of two letters behind it is spelled without them. -/
theorem spells_of_snoc_of_snoc {ts : List Token} {text : List Char} {a b : Char} (hne : a ≠ b)
    (ha : a ≠ '/') (hb : b ≠ '/') (hta : Spells ts (text ++ [a])) (htb : Spells ts (text ++ [b])) :
    Spells ts text := by
  -- The last token that takes something gives up its last character.
  induction ts using List.reverseRecOn with
  | nil => simp [Spells] at hta
  | append_singleton ts t ih =>
      have hlast : ∀ u, Spells (ts ++ [t]) u ↔ Extended (Spells ts) t u := by
        intro u
        simp [spells_append, Extended, Spells]
      have hshort : Spells ts text → t.Takes [] → Spells (ts ++ [t]) text :=
        fun h hnil ↦ (hlast text).mpr ⟨text, [], by simp, h, hnil⟩
      rw [hlast] at hta htb
      cases t with
      | literal c =>
          rw [extended_literal] at hta htb
          exact absurd (hta.2.trans htb.2.symm) hne
      | name =>
          rw [extended_name] at hta htb
          rcases hta with hta | ⟨h, -⟩
          · rcases htb with htb | ⟨h, -⟩
            · exact hshort (ih hta htb) (by simp [Token.Takes])
            · exact (hlast text).mpr h
          · exact (hlast text).mpr h
      | anything =>
          rw [extended_anything] at hta htb
          rcases hta with hta | h
          · rcases htb with htb | h
            · exact hshort (ih hta htb) trivial
            · exact (hlast text).mpr h
          · exact (hlast text).mpr h
      | folders =>
          rw [extended_folders] at hta htb
          have hta := hta.resolve_right fun h ↦ ha h.2
          have htb := htb.resolve_right fun h ↦ hb h.2
          exact hshort (ih hta htb) (.inl rfl)

theorem accepts_of_accepts_below {pattern text : String}
    (h : ∀ rest, rest ≠ "" → accepts pattern (text ++ rest) = true) :
    accepts pattern text = true := by
  have hletter : ∀ c : Char, Spells (tokens pattern.toList) (text.toList ++ [c]) := by
    intro c
    have hc := (accepts_iff _ _).mp (h (String.singleton c) (by simp))
    rwa [String.toList_append, String.toList_singleton] at hc
  exact (accepts_iff _ _).mpr (spells_of_snoc_of_snoc (a := 'a') (b := 'b') (by decide) (by decide)
    (by decide) (hletter 'a') (hletter 'b'))

theorem prunes_singleton {pattern : String} (h : coversFolder pattern = true) (directory : String) :
    prunes [pattern] directory = .ok (accepts pattern (directory ++ "/")) := by
  rw [prunes_of_not_blank (by simpa using not_blank_of_coversFolder h)]
  simp [h]

/-- Passing a folder over is exact.  A pattern that is two stars, or that ends with them behind a
slash, passes a folder over exactly if it matches whatever lies below the folder.  Patterns of any
form that are not blank always tell whether they pass a folder over, and if they do, then one of
them matches whatever lies below it. -/
theorem prunes_iff_matches_below :
    (∀ pattern directory, (pattern = "**" ∨ ∃ front, pattern = front ++ "/**") →
      ∃ answer, prunes [pattern] directory = .ok answer ∧
        (answer = true ↔
          ∀ rest, rest ≠ "" → isMatch pattern (directory ++ "/" ++ rest) = .ok true)) ∧
    ∀ patterns directory, (∀ p ∈ patterns, Text.isBlankText p = false) →
      ∃ answer, prunes patterns directory = .ok answer ∧
        (answer = true → ∀ rest, matchesAny patterns (directory ++ "/" ++ rest) = .ok true) := by
  constructor
  · intro pattern directory hform
    have hcovers := coversFolder_iff.mpr hform
    refine ⟨_, prunes_singleton hcovers directory, ?_⟩
    simp only [isMatch_of_not_blank (not_blank_of_coversFolder hcovers), Except.ok.injEq]
    constructor
    · intro h rest _
      exact accepts_append hcovers h rest
    · exact accepts_of_accepts_below
  · intro patterns directory hblank
    refine ⟨_, prunes_of_not_blank hblank directory, ?_⟩
    intro h rest
    obtain ⟨p, hp, hprunes⟩ := List.any_eq_true.mp h
    rw [Bool.and_eq_true] at hprunes
    rw [matchesAny_of_not_blank hblank, Except.ok.injEq, List.any_eq_true]
    exact ⟨p, hp, accepts_append hprunes.1 hprunes.2 rest⟩

/-- The second pattern passes a folder over wherever it stands, but not one whose name only starts
like the name in the pattern. -/
theorem prunes_iff_matches_below_nested :
    let patterns := ["*.css", "**/build/**"]
    (∀ p ∈ patterns, Text.isBlankText p = false) ∧
      (∀ rest, matchesAny patterns ("web/build" ++ "/" ++ rest) = .ok true) ∧
      "**/build/**" = "**/build" ++ "/**" ∧
      ¬ ∀ rest, rest ≠ "" → isMatch "**/build/**" ("web/builds" ++ "/" ++ rest) = .ok true := by
  intro patterns
  have hblank : ∀ p ∈ patterns, Text.isBlankText p = false := by decide
  have hform : "**/build/**" = "**/build" ++ "/**" := rfl
  obtain ⟨hexact, hsound⟩ := prunes_iff_matches_below
  obtain ⟨answer, hanswer, hbelow⟩ := hsound patterns "web/build" hblank
  obtain ⟨answer', hanswer', hiff⟩ := hexact "**/build/**" "web/builds" (.inr ⟨_, hform⟩)
  have htrue : prunes patterns "web/build" = .ok true := by rfl
  have hfalse : prunes ["**/build/**"] "web/builds" = .ok false := by rfl
  refine ⟨hblank, hbelow ?_, hform, fun hall ↦ ?_⟩
  · exact Except.ok.inj (hanswer.symm.trans htrue)
  · have hanswer' : answer' = false := Except.ok.inj (hanswer'.symm.trans hfalse)
    rw [hiff.mpr hall] at hanswer'
    cases hanswer'

end WebBaseline.Glob

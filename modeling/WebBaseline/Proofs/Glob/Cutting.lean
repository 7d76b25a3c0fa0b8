import Mathlib.Data.List.Forall2
import Mathlib.Data.List.TakeWhile
import WebBaseline.Proofs.Glob

/-!
# Cutting patterns and paths

A pattern is cut from left to right, and at each place the longest wildcard that stands there is
taken; every pattern can be cut in one way only.  A path is matched when it can be cut as well, into
one piece for each token of the pattern.  Matching searches all cuts of the path, and it is refused
for blank patterns alone.
-/

namespace WebBaseline.Glob

/-! ### Cutting a pattern -/

/-- A pattern and its tokens.  Two stars are a token only where no slash follows them, one star only
where no second star does. -/
inductive Cut : List Char → List Token → Prop where
  | nil : Cut [] []
  | folders {rest : List Char} {ts : List Token} (h : Cut rest ts) :
      Cut ('*' :: '*' :: '/' :: rest) (.folders :: ts)
  | anything {rest : List Char} {ts : List Token} (hslash : rest.head? ≠ some '/')
      (h : Cut rest ts) : Cut ('*' :: '*' :: rest) (.anything :: ts)
  | name {rest : List Char} {ts : List Token} (hstar : rest.head? ≠ some '*') (h : Cut rest ts) :
      Cut ('*' :: rest) (.name :: ts)
  | literal {c : Char} {rest : List Char} {ts : List Token} (hc : c ≠ '*') (h : Cut rest ts) :
      Cut (c :: rest) (.literal c :: ts)

theorem cut_tokens (pattern : List Char) : Cut pattern (tokens pattern) := by
  fun_induction tokens pattern with
  | case1 rest ih => exact .folders ih
  | case2 rest hslash ih =>
      refine .anything ?_ ih
      intro hhead
      obtain ⟨more, rfl⟩ := List.head?_eq_some_iff.mp hhead
      exact hslash more rfl
  | case3 rest _ hstar ih =>
      refine .name ?_ ih
      intro hhead
      obtain ⟨more, rfl⟩ := List.head?_eq_some_iff.mp hhead
      exact hstar more rfl
  | case4 c rest _ _ hc ih =>
      exact .literal hc ih
  | case5 => exact .nil

/-- The rules exclude each other, so that the tokens of a pattern are given by its characters. -/
theorem Cut.unique {pattern : List Char} {ts us : List Token} (hts : Cut pattern ts)
    (hus : Cut pattern us) : ts = us := by
  induction hts generalizing us with
  | nil =>
      cases hus
      rfl
  | folders _ ih =>
      cases hus with
      | folders h => rw [ih h]
      | anything hslash _ => simp at hslash
      | name hstar _ => simp at hstar
      | literal hc _ => simp at hc
  | anything hslash _ ih =>
      cases hus with
      | folders _ => simp at hslash
      | anything _ h => rw [ih h]
      | name hstar _ => simp at hstar
      | literal hc _ => simp at hc
  | name hstar _ ih =>
      cases hus with
      | folders _ => simp at hstar
      | anything _ _ => simp at hstar
      | name _ h => rw [ih h]
      | literal hc _ => simp at hc
  | literal hc _ ih =>
      cases hus with
      | folders _ => simp at hc
      | anything _ _ => simp at hc
      | name _ _ => simp at hc
      | literal _ h => rw [ih h]

/-! ### Cutting a path -/

theorem spells_iff_pieces {ts : List Token} {text : List Char} :
    Spells ts text ↔ ∃ pieces, List.Forall₂ Token.Takes ts pieces ∧ text = pieces.flatten := by
  induction ts generalizing text with
  | nil => simp [Spells]
  | cons t ts ih =>
      simp only [Spells, ih]
      constructor
      · rintro ⟨piece, _, rfl, hpiece, pieces, hpieces, rfl⟩
        exact ⟨piece :: pieces, .cons hpiece hpieces, rfl⟩
      · rintro ⟨pieces, hpieces, rfl⟩
        cases hpieces with
        | cons hpiece hrest => exact ⟨_, _, rfl, hpiece, _, hrest, rfl⟩

/-! ### Matching -/

/-- Blank patterns are those of which trimming leaves nothing. -/
theorem trim_eq_empty_iff {pattern : String} :
    Text.trim pattern = "" ↔ Text.isBlankText pattern = true := by
  -- what is dropped at the front is blank, so only the rest decides
  have hrest : (pattern.toList.dropWhile Text.isBlank).all Text.isBlank =
      Text.isBlankText pattern := by
    calc (pattern.toList.dropWhile Text.isBlank).all Text.isBlank
        = (pattern.toList.takeWhile Text.isBlank ++
            pattern.toList.dropWhile Text.isBlank).all Text.isBlank := by
          rw [List.all_append, List.all_takeWhile, Bool.true_and]
      _ = Text.isBlankText pattern := by
          rw [List.takeWhile_append_dropWhile, Text.isBlankText]
  rw [Text.trim, Text.trimChars, ← String.toList_inj, String.toList_ofList, String.toList_empty,
    List.reverse_eq_nil_iff, List.dropWhile_eq_nil_iff, ← List.all_eq_true, List.all_reverse, hrest]

theorem isMatch_of_blank {pattern : String} (h : Text.isBlankText pattern = true) (path : String) :
    isMatch pattern path = .error (.blank (.text pattern)) := by
  rw [isMatch, if_pos h]

theorem isMatch_of_not_blank {pattern : String} (h : Text.isBlankText pattern = false)
    (path : String) : isMatch pattern path = .ok (accepts pattern path) := by
  rw [isMatch, if_neg (by simp [h])]

theorem cut_iff {pattern : List Char} {ts : List Token} :
    Cut pattern ts ↔ ts = tokens pattern := by
  constructor
  · intro h
    exact h.unique (cut_tokens pattern)
  · rintro rfl
    exact cut_tokens pattern

/-- A blank pattern is refused.  Any other pattern is cut into tokens, and it matches the paths that
can be cut into pieces, one for each token. -/
theorem isMatch_iff_pieces (pattern path : String) :
    (∀ e, isMatch pattern path = .error e ↔
      Text.trim pattern = "" ∧ e = .blank (.text pattern)) ∧
    ∃ ts, (∀ us, Cut pattern.toList us ↔ us = ts) ∧
      (isMatch pattern path = .ok true ↔ Text.trim pattern ≠ "" ∧
        ∃ pieces, List.Forall₂ Token.Takes ts pieces ∧ path.toList = pieces.flatten) ∧
      (isMatch pattern path = .ok false ↔ Text.trim pattern ≠ "" ∧
        ¬ ∃ pieces, List.Forall₂ Token.Takes ts pieces ∧ path.toList = pieces.flatten) := by
  have hpieces : accepts pattern path = true ↔ ∃ pieces,
      List.Forall₂ Token.Takes (tokens pattern.toList) pieces ∧ path.toList = pieces.flatten :=
    (accepts_iff pattern path).trans spells_iff_pieces
  rw [Ne, trim_eq_empty_iff]
  cases hblank : Text.isBlankText pattern with
  | true =>
      rw [isMatch_of_blank hblank]
      exact ⟨by simp [eq_comm], _, fun _ ↦ cut_iff, by simp, by simp⟩
  | false =>
      rw [isMatch_of_not_blank hblank]
      refine ⟨by simp, _, fun _ ↦ cut_iff, ?_, ?_⟩
      · simp [hpieces]
      · simp [← hpieces]

/-- Two stars and a slash that follow a star are read from the first star on. -/
example : tokens "***/a".toList = [.anything, .name, .literal '/', .literal 'a'] := by decide

end WebBaseline.Glob

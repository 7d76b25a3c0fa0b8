import Mathlib.Data.List.Chain
import WebBaseline.Text.Words

/-!
# Collapsed texts

Collapsing cuts a text at its white space and joins the words with single spaces.  The joined words
are read back as they were, so collapsing a second time changes nothing, and what is joined of
collapsed texts is collapsed.
-/

namespace WebBaseline.Text

/-! ### Words -/

/-- No character is white space. -/
def Solid (s : String) : Prop := ∀ c ∈ s.toList, isBlank c = false

-- The characters of the text are tried, not all characters there are.
instance (s : String) : Decidable (Solid s) := List.decidableBAll (isBlank · = false) s.toList

/-- Characters in a row with no white space among them. -/
structure IsWord (w : String) : Prop where
  ne_empty : w ≠ ""
  not_blank : Solid w

/-- White space parts the words before it from those behind it. -/
theorem wordsOf_append_cons {c : Char} (hc : isBlank c = true) (front back current : List Char) :
    wordsOf (front ++ c :: back) current = wordsOf front current ++ wordsOf back [] := by
  fun_induction wordsOf front current with
  | case1 current h => simp [wordsOf, hc, h]
  | case2 current h => simp [wordsOf, hc, h]
  | case3 d rest current hd h ih => simpa [wordsOf, hd, h] using ih
  | case4 d rest current hd h ih => simpa [wordsOf, hd, h] using ih
  | case5 d rest current hd ih => simpa [wordsOf, hd] using ih

theorem wordsOf_of_not_blank {cs current : List Char} (h : ∀ c ∈ cs, isBlank c = false) :
    wordsOf cs current =
      if (current.reverse ++ cs).isEmpty then [] else [current.reverse ++ cs] := by
  induction cs generalizing current with
  | nil => simp [wordsOf]
  | cons c cs ih =>
      obtain ⟨hc, hcs⟩ := List.forall_mem_cons.mp h
      rw [wordsOf, if_neg (by simp [hc]), ih hcs]
      simp

theorem isWord_of_mem_wordsOf {cs current w : List Char}
    (hcurrent : ∀ c ∈ current, isBlank c = false) (h : w ∈ wordsOf cs current) :
    w ≠ [] ∧ ∀ c ∈ w, isBlank c = false := by
  have hword : ∀ current : List Char, (∀ c ∈ current, isBlank c = false) →
      ¬ current.isEmpty = true →
        current.reverse ≠ [] ∧ ∀ c ∈ current.reverse, isBlank c = false := by
    intro current hcurrent hne
    exact ⟨by simpa using hne, fun c hc ↦ hcurrent c (List.mem_reverse.mp hc)⟩
  fun_induction wordsOf cs current with
  | case1 current hempty => cases h
  | case2 current hempty =>
      rw [List.mem_singleton.mp h]
      exact hword current hcurrent hempty
  | case3 d rest current hd hempty ih => exact ih (by simp) h
  | case4 d rest current hd hempty ih =>
      rcases List.mem_cons.mp h with rfl | h
      · exact hword current hcurrent hempty
      · exact ih (by simp) h
  | case5 d rest current hd ih =>
      exact ih (List.forall_mem_cons.mpr ⟨by simpa using hd, hcurrent⟩) h

theorem isWord_of_mem_words {s w : String} (h : w ∈ words s) : IsWord w := by
  obtain ⟨cs, hcs, rfl⟩ := List.mem_map.mp h
  obtain ⟨hne, hblank⟩ := isWord_of_mem_wordsOf (by simp) hcs
  exact ⟨by simpa using hne, by simpa [Solid] using hblank⟩

theorem IsWord.words_eq {w : String} (h : IsWord w) : words w = [w] := by
  rw [words, wordsOf_of_not_blank h.not_blank, if_neg (by simp [h.ne_empty])]
  simp

theorem words_append_space (a b : String) : words (a ++ " " ++ b) = words a ++ words b := by
  have htext : (a ++ " " ++ b).toList = a.toList ++ ' ' :: b.toList := by simp
  rw [words, htext, wordsOf_append_cons (by decide), List.map_append, words, words]

/-- Texts joined by single spaces have the words of each of them. -/
theorem words_intercalate (xs : List String) : words (" ".intercalate xs) = xs.flatMap words := by
  induction xs with
  | nil => rfl
  | cons x rest ih =>
      by_cases hrest : rest = []
      · simp [hrest]
      · rw [String.intercalate_cons_of_ne_nil hrest, words_append_space, ih, List.flatMap_cons]

theorem intercalate_eq_empty_iff {xs : List String} (h : ∀ x ∈ xs, x ≠ "") :
    " ".intercalate xs = "" ↔ xs = [] := by
  cases xs with
  | nil => simp
  | cons x rest =>
      have hx := h x List.mem_cons_self
      by_cases hrest : rest = []
      · simp [hrest, hx]
      · rw [String.intercalate_cons_of_ne_nil hrest]
        simp

theorem collapse_eq_empty_iff {s : String} : collapse s = "" ↔ words s = [] :=
  intercalate_eq_empty_iff fun _ hw ↦ (isWord_of_mem_words hw).ne_empty

/-! ### Collapsing again -/

theorem words_collapse (s : String) : words (collapse s) = words s := by
  rw [collapse, words_intercalate]
  calc (words s).flatMap words = (words s).flatMap fun w ↦ [w] :=
        List.flatMap_congr fun w hw ↦ (isWord_of_mem_words hw).words_eq
    _ = words s := List.flatMap_singleton' _

theorem collapse_collapse (s : String) : collapse (collapse s) = collapse s := by
  rw [collapse, words_collapse, collapse]

theorem IsWord.collapse_eq {w : String} (h : IsWord w) : collapse w = w := by
  rw [collapse, h.words_eq, String.intercalate_singleton]

theorem collapse_of_solid {s : String} (h : Solid s) : collapse s = s := by
  by_cases hs : s = ""
  · rw [hs]
    rfl
  · exact IsWord.collapse_eq ⟨hs, h⟩

/-- Collapsed texts that are not empty, joined by single spaces, are collapsed. -/
theorem collapse_intercalate {xs : List String} (hne : ∀ x ∈ xs, x ≠ "")
    (h : ∀ x ∈ xs, collapse x = x) : collapse (" ".intercalate xs) = " ".intercalate xs := by
  have hwords : ∀ x ∈ xs, words x ≠ [] := by
    intro x hx hnil
    rw [← collapse_eq_empty_iff, h x hx] at hnil
    exact hne x hx hnil
  rw [collapse, words_intercalate]
  induction xs with
  | nil => rfl
  | cons x rest ih =>
      obtain ⟨hx, hrest⟩ := List.forall_mem_cons.mp h
      obtain ⟨hxwords, hrestwords⟩ := List.forall_mem_cons.mp hwords
      have hjoin := ih (List.forall_mem_cons.mp hne).2 hrest hrestwords
      by_cases hnil : rest = []
      · subst hnil
        rw [List.flatMap_singleton, String.intercalate_singleton]
        exact hx
      · have hmore : rest.flatMap words ≠ [] := by
          rw [Ne, List.flatMap_eq_nil_iff]
          intro hall
          obtain ⟨y, more, rfl⟩ := List.exists_cons_of_ne_nil hnil
          exact hrestwords y List.mem_cons_self (hall y List.mem_cons_self)
        rw [List.flatMap_cons, String.intercalate_append_of_ne_nil hxwords hmore, hjoin,
          String.intercalate_cons_of_ne_nil hnil, ← collapse, hx]

/-! ### How collapsed texts look -/

/-- White space of single spaces only, each between two characters that are none. -/
structure Collapsed (s : String) : Prop where
  space : ∀ c ∈ s.toList, isBlank c = true → c = ' '
  apart : s.toList.IsChain fun c d ↦ isBlank c = true → isBlank d = false
  first : ∀ c ∈ s.toList.head?, isBlank c = false
  last : ∀ c ∈ s.toList.getLast?, isBlank c = false

theorem collapsed_empty : Collapsed "" :=
  ⟨by simp, by simp, by simp, by simp⟩

theorem IsWord.collapsed {w : String} (h : IsWord w) : Collapsed w where
  space c hc hblank := by
    rw [h.not_blank c hc] at hblank
    cases hblank
  apart := by
    refine List.Pairwise.isChain (List.pairwise_of_forall_mem_list ?_)
    intro c _ d hd _
    exact h.not_blank d hd
  first c hc := h.not_blank c (List.mem_of_mem_head? hc)
  last c hc := h.not_blank c (List.mem_of_mem_getLast? hc)

theorem Collapsed.append_space {a b : String} (ha : Collapsed a) (hb : Collapsed b) (hane : a ≠ "")
    (hbne : b ≠ "") : Collapsed (a ++ " " ++ b) := by
  have htext : (a ++ " " ++ b).toList = a.toList ++ ' ' :: b.toList := by simp
  have hane : a.toList ≠ [] := by simpa using hane
  have hbne : b.toList ≠ [] := by simpa using hbne
  refine ⟨?_, ?_, ?_, ?_⟩
  · rw [htext, List.forall_mem_append, List.forall_mem_cons]
    exact ⟨ha.space, fun _ ↦ rfl, hb.space⟩
  · rw [htext, List.isChain_append, List.isChain_cons]
    refine ⟨ha.apart, ⟨fun d hd _ ↦ hb.first d hd, hb.apart⟩, ?_⟩
    intro c hc _ _ hblank
    rw [ha.last c hc] at hblank
    cases hblank
  · rw [htext, List.head?_append_of_ne_nil _ hane]
    exact ha.first
  · rw [htext, List.getLast?_append_of_ne_nil _ (by simp), List.getLast?_cons_of_ne_nil hbne]
    exact hb.last

theorem collapsed_collapse (s : String) : Collapsed (collapse s) := by
  have hwords : ∀ w ∈ words s, IsWord w := fun _ ↦ isWord_of_mem_words
  rw [collapse]
  generalize words s = ws at hwords
  induction ws with
  | nil => exact collapsed_empty
  | cons w rest ih =>
      obtain ⟨hw, hrest⟩ := List.forall_mem_cons.mp hwords
      by_cases hnil : rest = []
      · rw [hnil, String.intercalate_singleton]
        exact hw.collapsed
      · rw [String.intercalate_cons_of_ne_nil hnil]
        refine hw.collapsed.append_space (ih hrest) hw.ne_empty ?_
        rwa [Ne, intercalate_eq_empty_iff fun v hv ↦ (hrest v hv).ne_empty]

end WebBaseline.Text

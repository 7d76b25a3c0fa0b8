import Mathlib.Algebra.GroupWithZero.Nat
import Mathlib.Data.List.TakeWhile
import WebBaseline.Display.Layout
import WebBaseline.Proofs.Display.Console

/-!
# Lines that fit

A text of one line that is no wider than its place is put there unchanged.  Its words are measured
one by one when it is broken into lines, and together they are no wider than the text: a joiner or a
selector takes away from a word only what stands in the same word.
-/

namespace WebBaseline.Display

variable {cs : List Char}

/-! ### Widths of parts -/

theorem widthAfter_joiner (last : Option Char) (c : Char) (rest : List Char) :
    widthAfter last ('\u200d' :: c :: rest) = widthAfter last rest := by
  rw [widthAfter]

theorem widthAfter_selector (last : Option Char) (rest : List Char) :
    widthAfter last ('\ufe0f' :: rest) = (if widens last then 1 else 0) + widthAfter none rest := by
  rw [widthAfter]

theorem widthAfter_cons {c : Char} (hjoiner : c ≠ '\u200d') (hselector : c ≠ '\ufe0f')
    (last : Option Char) (rest : List Char) :
    widthAfter last (c :: rest) =
      if cells c = 0 then widthAfter last rest else cells c + widthAfter (some c) rest := by
  rw [widthAfter]
  · intro h
    exact absurd h hjoiner
  · intro head more h
    exact absurd h hjoiner
  · exact hselector

theorem ne_joiner {c : Char} {rest : List Char} (hlone : c = '\u200d' → rest = [] → False)
    (hbefore : ∀ d more, c = '\u200d' → rest = d :: more → False) : c ≠ '\u200d' := by
  intro hc
  cases rest with
  | nil => exact hlone hc rfl
  | cons d more => exact hbefore d more hc rfl

/-- Only a picture selector asks for the character before it. -/
theorem widthAfter_none_le (last : Option Char) (cs : List Char) :
    widthAfter none cs ≤ widthAfter last cs := by
  fun_induction widthAfter last cs with
  | case1 => exact Nat.le_refl 0
  | case2 => exact Nat.le_refl 0
  | case3 last c rest ih => rwa [widthAfter_joiner]
  | case4 last rest ih =>
      rw [widthAfter_selector]
      exact Nat.add_le_add_right (Nat.zero_le _) _
  | case5 last c rest hlone hbefore hselector hcells ih =>
      rwa [widthAfter_cons (ne_joiner hlone hbefore) hselector, if_pos hcells]
  | case6 last c rest hlone hbefore hselector hcells ih =>
      rw [widthAfter_cons (ne_joiner hlone hbefore) hselector, if_neg hcells]

theorem widthAfter_le_append (last : Option Char) (cs more : List Char) :
    widthAfter last cs ≤ widthAfter last (cs ++ more) := by
  fun_induction widthAfter last cs with
  | case1 => exact Nat.zero_le _
  | case2 => exact Nat.zero_le _
  | case3 last c rest ih => rwa [List.cons_append, List.cons_append, widthAfter_joiner]
  | case4 last rest ih =>
      rw [List.cons_append, widthAfter_selector]
      exact Nat.add_le_add_left ih _
  | case5 last c rest hlone hbefore hselector hcells ih =>
      rwa [List.cons_append, widthAfter_cons (ne_joiner hlone hbefore) hselector, if_pos hcells]
  | case6 last c rest hlone hbefore hselector hcells ih =>
      rw [List.cons_append, widthAfter_cons (ne_joiner hlone hbefore) hselector, if_neg hcells]
      exact Nat.add_le_add_left ih _

/-- A text ends in white space or is empty. -/
def EndsBlank (cs : List Char) : Prop := ∀ c ∈ cs.getLast?, Text.isBlank c = true

theorem EndsBlank.tail {c : Char} {rest : List Char} (h : EndsBlank (c :: rest)) :
    EndsBlank rest := by
  intro d hd
  cases rest with
  | nil => cases hd
  | cons e more => exact h d (by rwa [List.getLast?_cons_cons])

/-- A part that ends in white space keeps its width in front of any other part. -/
theorem widthAfter_add_le (last : Option Char) (more : List Char) (h : EndsBlank cs) :
    widthAfter last cs + width more ≤ widthAfter last (cs ++ more) := by
  fun_induction widthAfter last cs with
  | case1 last =>
      rw [Nat.zero_add, List.nil_append]
      exact widthAfter_none_le last more
  | case2 last => exact absurd (h '\u200d' rfl) (by decide)
  | case3 last c rest ih =>
      rw [List.cons_append, List.cons_append, widthAfter_joiner]
      exact ih h.tail.tail
  | case4 last rest ih =>
      rw [List.cons_append, widthAfter_selector, Nat.add_assoc]
      exact Nat.add_le_add_left (ih h.tail) _
  | case5 last c rest hlone hbefore hselector hcells ih =>
      rw [List.cons_append, widthAfter_cons (ne_joiner hlone hbefore) hselector, if_pos hcells]
      exact ih h.tail
  | case6 last c rest hlone hbefore hselector hcells ih =>
      rw [List.cons_append, widthAfter_cons (ne_joiner hlone hbefore) hselector, if_neg hcells,
        Nat.add_assoc]
      exact Nat.add_le_add_left (ih h.tail) _

/-! ### Words -/

theorem trimEnd_append (cs : List Char) :
    trimEnd cs ++ (cs.reverse.takeWhile Text.isBlank).reverse = cs := by
  rw [trimEnd, ← List.reverse_append, List.takeWhile_append_dropWhile, List.reverse_reverse]

theorem width_trimEnd_le (cs : List Char) : width (trimEnd cs) ≤ width cs := by
  have hle := widthAfter_le_append none (trimEnd cs) (cs.reverse.takeWhile Text.isBlank).reverse
  rwa [trimEnd_append] at hle

/-- The parts of a text, all but the last of which end in white space. -/
inductive Parts : List (List Char) → Prop
  | nil : Parts []
  | single (part : List Char) : Parts [part]
  | cons {part next : List Char} {more : List (List Char)} (hpart : EndsBlank part)
      (hmore : Parts (next :: more)) : Parts (part :: next :: more)

def widths (parts : List (List Char)) : Nat := (parts.map width).sum

theorem Parts.widths_le {parts : List (List Char)} (h : Parts parts) :
    widths parts ≤ width parts.flatten := by
  induction h with
  | nil => exact Nat.zero_le _
  | single part => simp [widths]
  | @cons part next more hpart hmore ih =>
      have hle := widthAfter_add_le none (next :: more).flatten hpart
      rw [List.flatten_cons]
      exact Nat.le_trans (Nat.add_le_add_left ih (width part)) hle

theorem flatten_go (cs : List Char) : (wordsWithBlanks.go cs).flatten = cs := by
  fun_induction wordsWithBlanks.go cs with
  | case1 => rfl
  | case2 c rest hrest ih =>
      rw [hrest] at ih
      rw [← ih]
      rfl
  | case3 c rest more hrest ih
  | case4 c rest more d tail hbreak hrest ih
  | case5 c rest more d tail hbreak hrest ih =>
      rw [hrest] at ih
      rw [← ih]
      rfl

theorem ne_nil_of_mem_go (cs : List Char) : ∀ word ∈ wordsWithBlanks.go cs, word ≠ [] := by
  fun_induction wordsWithBlanks.go cs with
  | case1 => simp
  | case2 c rest hrest ih => simp
  | case3 c rest more hrest ih => exact absurd rfl (ih [] (by rw [hrest]; exact List.mem_cons_self))
  | case4 c rest more d tail hbreak hrest ih =>
      rw [hrest] at ih
      exact List.forall_mem_cons.mpr ⟨List.cons_ne_nil c [], ih⟩
  | case5 c rest more d tail hbreak hrest ih =>
      rw [hrest] at ih
      exact List.forall_mem_cons.mpr ⟨List.cons_ne_nil c _, (List.forall_mem_cons.mp ih).2⟩

/-- A longer first part. -/
theorem Parts.append {part : List Char} {more : List (List Char)} (h : Parts (part :: more))
    (hpart : part ≠ []) (front : List Char) : Parts ((front ++ part) :: more) := by
  cases h with
  | single => exact Parts.single _
  | cons hblank hmore =>
      refine Parts.cons (fun c hc ↦ hblank c ?_) hmore
      rwa [List.getLast?_append, List.getLast?_eq_some_getLast hpart, Option.some_or,
        ← List.getLast?_eq_some_getLast hpart] at hc

theorem parts_go (cs : List Char) : Parts (wordsWithBlanks.go cs) := by
  fun_induction wordsWithBlanks.go cs with
  | case1 => exact Parts.nil
  | case2 c rest hrest ih => exact Parts.single [c]
  | case3 c rest more hrest ih =>
      exact absurd rfl (ne_nil_of_mem_go rest [] (by rw [hrest]; exact List.mem_cons_self))
  | case4 c rest more d tail hbreak hrest ih =>
      rw [hrest] at ih
      refine Parts.cons (fun e he ↦ ?_) ih
      obtain rfl := Option.some.inj he
      exact (Bool.and_eq_true_iff.mp hbreak).1
  | case5 c rest more d tail hbreak hrest ih =>
      rw [hrest] at ih
      exact ih.append (List.cons_ne_nil d tail) [c]

theorem wordsWithBlanks_spec (h : ∃ c ∈ cs, Text.isBlank c = false) :
    ∃ first more, wordsWithBlanks cs = first :: more ∧ (first :: more).flatten = cs ∧
      Parts (first :: more) := by
  have hne : cs.dropWhile Text.isBlank ≠ [] := by
    intro hnil
    obtain ⟨c, hc, hblank⟩ := h
    rw [List.dropWhile_eq_nil_iff.mp hnil c hc] at hblank
    cases hblank
  have hflatten := flatten_go (cs.dropWhile Text.isBlank)
  have hparts := parts_go (cs.dropWhile Text.isBlank)
  have hwords := ne_nil_of_mem_go (cs.dropWhile Text.isBlank)
  rw [wordsWithBlanks]
  split
  · rename_i hnil
    exact absurd hnil hne
  · cases hgo : wordsWithBlanks.go (cs.dropWhile Text.isBlank) with
    | nil =>
        rw [hgo] at hflatten
        exact absurd hflatten.symm hne
    | cons first more =>
        rw [hgo] at hflatten hparts hwords
        refine ⟨cs.takeWhile Text.isBlank ++ first, more, rfl, ?_,
          hparts.append (hwords first List.mem_cons_self) _⟩
        rw [List.flatten_cons, List.append_assoc, ← List.flatten_cons, hflatten,
          List.takeWhile_append_dropWhile]

/-- Words that fit one line together are put on it. -/
theorem fillLines_of_widths_le {available : Nat} {words : List (List Char)} (overflow : Overflow)
    (started : Bool) {used : Nat} (line : List Char) (h : used + widths words ≤ available) :
    fillLines available overflow started used line words = [line.reverse ++ words.flatten] := by
  induction words generalizing started used line with
  | nil => rw [fillLines, List.flatten_nil, List.append_nil]
  | cons word rest ih =>
      rw [widths, List.map_cons, List.sum_cons, ← widths, ← Nat.add_assoc] at h
      have htrim := width_trimEnd_le word
      have hfits : used + width (trimEnd word) ≤ available := by omega
      rw [fillLines, if_pos hfits, ih true _ h, List.reverse_append, List.reverse_reverse,
        List.flatten_cons, List.append_assoc]

theorem broken_of_width_le {available : Nat} (overflow : Overflow)
    (h : ∃ c ∈ cs, Text.isBlank c = false) (hwidth : width cs ≤ available) :
    broken available overflow cs = [cs] := by
  obtain ⟨first, more, hwords, hflatten, hparts⟩ := wordsWithBlanks_spec h
  have hle := hparts.widths_le
  rw [hflatten] at hle
  have hfits : 0 + widths (first :: more) ≤ available := by omega
  rw [broken, hwords]
  exact (fillLines_of_widths_le overflow false [] hfits).trans (by rw [hflatten]; rfl)

/-! ### Lines -/

theorem splitAtAny_of_forall {ends : Char → Bool} (h : ∀ c ∈ cs, ends c = false)
    (current : List Char) : splitAtAny ends cs current = [current.reverse ++ cs] := by
  induction cs generalizing current with
  | nil => rw [splitAtAny, List.append_nil]
  | cons c rest ih =>
      have hrest := ih fun d hd ↦ h d (List.mem_cons_of_mem c hd)
      rw [splitAtAny, h c List.mem_cons_self, if_neg Bool.false_ne_true, hrest, List.reverse_cons,
        List.append_assoc, List.singleton_append]

theorem expandTabs_of_forall (h : ∀ c ∈ cs, c ≠ '\t') (position : Nat) (part : List Char) :
    expandTabs position part cs = part.reverse ++ cs := by
  induction cs generalizing part with
  | nil => rw [expandTabs, List.append_nil]
  | cons c rest ih =>
      have hrest := ih fun d hd ↦ h d (List.mem_cons_of_mem c hd)
      rw [expandTabs, if_neg (h c List.mem_cons_self), hrest, List.reverse_cons, List.append_assoc,
        List.singleton_append]

theorem widest_of_oneLine (h : OneLine cs) : widest cs = width cs := by
  rw [widest, splitAtAny_of_forall fun c hc ↦ (h c hc).1]
  exact Nat.zero_max (width cs)

theorem placed_of_width_le {available : Nat} (overflow : Overflow)
    (hlast : ∃ c ∈ cs.getLast?, Text.isBlank c = false) (hwidth : width cs ≤ available) :
    placed available .left overflow cs = padded available cs := by
  obtain ⟨c, hc, hblank⟩ := hlast
  have hnone : cs.reverse.takeWhile Text.isBlank = [] := by
    have hhead : cs.reverse.head? = some c := List.head?_reverse.trans hc
    obtain ⟨rest, hrest⟩ := List.head?_eq_some_iff.mp hhead
    rw [hrest, List.takeWhile_cons_of_neg (by simp [hblank])]
  have hdrop : dropBeyond available cs = cs := by
    rw [dropBeyond, hnone, List.length_nil, Nat.zero_min, Nat.sub_zero, List.take_length]
  rw [placed, hdrop]
  exact congrArg (padded available) (if_pos hwidth)

/-- A text that fits stands in its place as it is, with spaces behind it. -/
theorem laidOut_of_width_le {available : Nat} (overflow : Overflow) (hline : OneLine cs)
    (hlast : ∃ c ∈ cs.getLast?, Text.isBlank c = false) (hwidth : width cs ≤ available) :
    laidOut available .left overflow cs = [padded available cs] := by
  have hfeed : ∀ c ∈ cs, decide (c = '\n') = false := by
    intro c hc
    apply decide_eq_false
    rintro rfl
    exact absurd (hline '\n' hc).1 (by decide)
  have hexpand := expandTabs_of_forall (fun c hc ↦ (hline c hc).2) 0 []
  have hblank : ∃ c ∈ cs, Text.isBlank c = false := by
    obtain ⟨c, hc, hblank⟩ := hlast
    exact ⟨c, List.mem_of_getLast? hc, hblank⟩
  rw [laidOut, splitAtAny_of_forall hfeed, List.reverse_nil, List.nil_append,
    List.flatMap_singleton, hexpand, List.reverse_nil, List.nil_append,
    broken_of_width_le overflow hblank hwidth, List.map_singleton,
    placed_of_width_le overflow hlast hwidth]

end WebBaseline.Display

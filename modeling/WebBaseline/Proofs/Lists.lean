import Mathlib.Data.List.Forall2
import Mathlib.Data.List.Infix
import Mathlib.Order.Lattice

/-!
# Lists

Facts about lists that several parts of the library need: lists related place by place, lists
sorted by a key, places in filtered lists, and lists put together around marks.
-/

namespace WebBaseline

variable {α β : Type}

/-! ### Related place by place -/

section Pairing

variable {R S : α → β → Prop} {as : List α} {bs : List β}

theorem forall₂_imp_of_mem (h : ∀ a ∈ as, ∀ b ∈ bs, R a b → S a b) (hall : List.Forall₂ R as bs) :
    List.Forall₂ S as bs := by
  rw [List.forall₂_iff_zip] at hall ⊢
  refine ⟨hall.1, fun hmem ↦ ?_⟩
  obtain ⟨ha, hb⟩ := List.of_mem_zip hmem
  exact h _ ha _ hb (hall.2 hmem)

theorem exists_of_mem_right (hall : List.Forall₂ R as bs) {b : β} (hb : b ∈ bs) :
    ∃ a ∈ as, R a b := by
  induction hall with
  | nil => cases hb
  | @cons a c as bs ha _ ih =>
      obtain rfl | hb := List.mem_cons.mp hb
      · exact ⟨a, List.mem_cons_self, ha⟩
      · obtain ⟨d, hd, hrel⟩ := ih hb
        exact ⟨d, List.mem_cons_of_mem a hd, hrel⟩

/-- Two lists that are both related to a third one. -/
theorem forall₂_trans {γ : Type} {S : β → γ → Prop} {T : α → γ → Prop} {cs : List γ}
    (h : ∀ {a b c}, R a b → S b c → T a c) (hfirst : List.Forall₂ R as bs)
    (hsecond : List.Forall₂ S bs cs) : List.Forall₂ T as cs := by
  induction hfirst generalizing cs with
  | nil =>
      cases hsecond
      exact .nil
  | cons hrel _ ih =>
      cases hsecond with
      | cons hrel' hrest => exact .cons (h hrel hrel') (ih hrest)

theorem exists_forall₂_iff : (∃ bs, List.Forall₂ R as bs) ↔ ∀ a ∈ as, ∃ b, R a b := by
  induction as with
  | nil => simp
  | cons a rest ih =>
      rw [List.forall_mem_cons, ← ih]
      constructor
      · rintro ⟨_, ha | ⟨ha, hrest⟩⟩
        exact ⟨⟨_, ha⟩, _, hrest⟩
      · rintro ⟨⟨b, ha⟩, bs, hrest⟩
        exact ⟨b :: bs, List.Forall₂.cons ha hrest⟩

end Pairing

/-! ### Lists sorted by a key -/

section Keys

variable [LinearOrder β] {key : α → β} {l l' : List α}

theorem mem_iff_of_filter_eq
    (hfilter : ∀ k, (l.filter fun a ↦ key a = k) = l'.filter fun a ↦ key a = k) (a : α) :
    a ∈ l ↔ a ∈ l' := by
  have hkey : a ∈ (l.filter fun x ↦ key x = key a) ↔ a ∈ l'.filter fun x ↦ key x = key a := by
    rw [hfilter (key a)]
  simpa using hkey

/-- A sorted list is known by what it holds under each key, in order. -/
theorem eq_of_pairwise_of_filter_eq (h : l.Pairwise fun a b ↦ key a ≤ key b)
    (h' : l'.Pairwise fun a b ↦ key a ≤ key b)
    (hfilter : ∀ k, (l.filter fun a ↦ key a = k) = l'.filter fun a ↦ key a = k) : l = l' := by
  have hmem := mem_iff_of_filter_eq hfilter
  induction l generalizing l' with
  | nil =>
      apply Eq.symm
      apply List.eq_nil_iff_forall_not_mem.mpr
      intro a ha
      exact List.not_mem_nil ((hmem a).mpr ha)
  | cons a l ih =>
      cases l' with
      | nil => exact absurd ((hmem a).mp List.mem_cons_self) List.not_mem_nil
      | cons b l' =>
          obtain ⟨ha, hl⟩ := List.pairwise_cons.mp h
          obtain ⟨hb, hl'⟩ := List.pairwise_cons.mp h'
          -- each head has the smallest key, so the keys of the heads are one
          have hba : key b ≤ key a := by
            rcases List.mem_cons.mp ((hmem a).mp List.mem_cons_self) with heq | hrest
            · exact le_of_eq (congrArg key heq.symm)
            · exact hb a hrest
          have hab : key a ≤ key b := by
            rcases List.mem_cons.mp ((hmem b).mpr List.mem_cons_self) with heq | hrest
            · exact le_of_eq (congrArg key heq.symm)
            · exact ha b hrest
          have hkey : key b = key a := le_antisymm hba hab
          have hheads := hfilter (key a)
          rw [List.filter_cons_of_pos (by simp), List.filter_cons_of_pos (by simp [hkey])] at hheads
          obtain ⟨rfl, htails⟩ := List.cons.inj hheads
          have hrest : ∀ k, (l.filter fun x ↦ key x = k) = l'.filter fun x ↦ key x = k := by
            intro k
            by_cases hk : key a = k
            · subst hk
              exact htails
            · have hfull := hfilter k
              rwa [List.filter_cons_of_neg (by simp [hk]),
                List.filter_cons_of_neg (by simp [hk])] at hfull
          rw [ih hl hl' hrest (mem_iff_of_filter_eq hrest)]

end Keys

/-! ### Filtered lists -/

theorem find?_filter_of_found {xs : List α} {p q : α → Bool}
    (h : ∀ c, xs.find? q = some c → p c = true) : (xs.filter p).find? q = xs.find? q := by
  rw [List.find?_filter]
  cases hfind : xs.find? q with
  | none =>
      rw [List.find?_eq_none] at hfind ⊢
      intro c hc hboth
      exact hfind c hc (of_decide_eq_true hboth).2
  | some c =>
      have hp := h c hfind
      obtain ⟨hq, before, after, hxs, hbefore⟩ := List.find?_eq_some_iff_append.mp hfind
      rw [List.find?_eq_some_iff_append]
      refine ⟨by simp [hp, hq], before, after, hxs, ?_⟩
      intro d hd
      have hd : q d = false := by simpa using hbefore d hd
      simp [hd]

theorem getElem?_filter_countP {xs : List α} {p : α → Bool} {i : Nat}
    (h : ∀ c, xs[i]? = some c → p c = true) : (xs.filter p)[(xs.take i).countP p]? = xs[i]? := by
  -- The index drops by one for each element in front of it that goes away.
  induction xs generalizing i with
  | nil => simp
  | cons c rest ih =>
      cases i with
      | zero => simp [h c rfl]
      | succ i =>
          have hrest := ih (i := i) (by simpa using h)
          cases hc : p c with
          | true => simpa [hc] using hrest
          | false => simpa [hc] using hrest

/-! ### Lists put together -/

theorem not_mem_intercalate {c : α} {sep : List α} (hsep : c ∉ sep)
    {pieces : List (List α)} (h : ∀ l ∈ pieces, c ∉ l) : c ∉ sep.intercalate pieces := by
  induction pieces with
  | nil => simp
  | cons piece rest ih =>
      have hrest := ih fun l hl ↦ h l (List.mem_cons_of_mem _ hl)
      have hpiece := h piece List.mem_cons_self
      cases rest with
      | nil => simpa using hpiece
      | cons next more =>
          rw [List.intercalate_cons_cons]
          simp only [List.mem_append, not_or]
          exact ⟨⟨hpiece, hsep⟩, hrest⟩

theorem mem_dropLast_iff {x : α} {xs : List α} :
    x ∈ xs.dropLast ↔ ∃ front back, xs = front ++ x :: back ∧ back ≠ [] := by
  constructor
  · intro h
    obtain ⟨front, back, hsplit⟩ := List.append_of_mem h
    have hne : xs ≠ [] := by
      rintro rfl
      cases h
    refine ⟨front, back ++ [xs.getLast hne], ?_, by simp⟩
    rw [← List.cons_append, ← List.append_assoc, ← hsplit, List.dropLast_append_getLast]
  · rintro ⟨front, back, rfl, hback⟩
    rw [List.dropLast_append_of_ne_nil (List.cons_ne_nil x back),
      List.dropLast_cons_of_ne_nil hback]
    exact List.mem_append_right front List.mem_cons_self

/-- A list has one first mark. -/
theorem append_mark_inj {mark : α} {a b a' b' : List α} (ha : mark ∉ a) (ha' : mark ∉ a')
    (h : a ++ mark :: b = a' ++ mark :: b') : a = a' ∧ b = b' := by
  obtain ⟨cs, rfl, htail⟩ | ⟨cs, rfl, htail⟩ := List.append_eq_append_iff.mp h
  · cases cs with
    | nil => exact ⟨(List.append_nil a).symm, (List.cons.inj htail).2⟩
    | cons c more =>
        obtain rfl := (List.cons.inj htail).1
        exact absurd (List.mem_append_right a List.mem_cons_self) ha'
  · cases cs with
    | nil => exact ⟨List.append_nil a', (List.cons.inj htail).2.symm⟩
    | cons c more =>
        obtain rfl := (List.cons.inj htail).1
        exact absurd (List.mem_append_right a' List.mem_cons_self) ha

/-! ### Entries and sizes -/

theorem lookup_eq_none_iff_not_mem {entries : List (String × α)} {name : String} :
    entries.lookup name = none ↔ name ∉ entries.map Prod.fst := by
  rw [List.lookup_eq_none_iff, List.mem_map, not_exists]
  refine forall_congr' fun s ↦ ?_
  rw [bne_iff_ne, not_and, ne_comm, ne_eq]

theorem le_foldl_max (least : Nat) (heights : List Nat) : least ≤ heights.foldl max least := by
  induction heights generalizing least with
  | nil => exact Nat.le_refl least
  | cons height rest ih => exact Nat.le_trans (Nat.le_max_left least height) (ih (max least height))

end WebBaseline

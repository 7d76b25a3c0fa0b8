import WebBaseline.Path

/-!
# Paths and their texts

The path that a text names has no names that say nothing, and none of its names holds a slash.  Such
a path is named by its own text.
-/

namespace WebBaseline.Path

/-! ### Pieces between slashes -/

theorem splitSlash_eq_splitOn (cs current : List Char) :
    splitSlash cs current = (cs.splitOn '/').modifyHead (current.reverse ++ ·) := by
  fun_induction splitSlash cs current with
  | case1 current => simp
  | case2 rest current ih =>
      rw [ih, List.splitOn_cons_eq_if_modifyHead]
      cases hsplit : rest.splitOn '/' with
      | nil => exact absurd hsplit (List.splitOn_ne_nil _ _)
      | cons piece pieces => simp
  | case3 c rest current hslash ih =>
      have hc : (c == '/') = false := beq_eq_false_iff_ne.mpr hslash
      rw [ih, List.splitOn_cons_eq_if_modifyHead, hc]
      simp [List.modifyHead_modifyHead, Function.comp_def]

theorem splitSlash_nil_right (cs : List Char) : splitSlash cs [] = cs.splitOn '/' := by
  have hid : (fun l : List Char ↦ [].reverse ++ l) = id := rfl
  rw [splitSlash_eq_splitOn, hid, List.modifyHead_id, id]

theorem pieces_eq_map_splitOn (s : String) :
    pieces s = (s.toList.splitOn '/').map String.ofList := by
  rw [pieces, splitSlash_nil_right]

theorem slash_not_mem_of_mem_splitSlash {cs current piece : List Char} (hcurrent : '/' ∉ current)
    (h : piece ∈ splitSlash cs current) : '/' ∉ piece := by
  fun_induction splitSlash cs current with
  | case1 current =>
      rw [List.mem_singleton.mp h]
      simpa using hcurrent
  | case2 rest current ih =>
      rcases List.mem_cons.mp h with rfl | h
      · simpa using hcurrent
      · exact ih List.not_mem_nil h
  | case3 c rest current hslash ih =>
      refine ih ?_ h
      simp only [List.mem_cons, not_or]
      exact ⟨fun hc ↦ hslash hc.symm, hcurrent⟩

/-! ### Paths that texts name -/

/-- A path with one of the three roots and with names that say something. -/
structure Canonical (p : Path) : Prop where
  root : p.root = "" ∨ p.root = "/" ∨ p.root = "//"
  parts : ∀ n ∈ p.parts, n ≠ "" ∧ n ≠ "." ∧ '/' ∉ n.toList

theorem canonical_ofText (s : String) : (ofText s).Canonical where
  root := by
    simp only [ofText]
    unfold rootOf
    split <;> simp
  parts n hn := by
    obtain ⟨hmem, hn⟩ := List.mem_filter.mp hn
    obtain ⟨piece, hpiece, rfl⟩ := List.mem_map.mp hmem
    obtain ⟨hempty, hdot⟩ := of_decide_eq_true hn
    rw [String.toList_ofList]
    exact ⟨hempty, hdot, slash_not_mem_of_mem_splitSlash List.not_mem_nil hpiece⟩

section Canonical

variable {parts : List String} (hparts : ∀ n ∈ parts, n ≠ "" ∧ n ≠ "." ∧ '/' ∉ n.toList)

include hparts

/-- Names joined by slashes do not start with one. -/
theorem head?_intercalate_ne_slash :
    (['/'].intercalate (parts.map String.toList)).head? ≠ some '/' := by
  cases parts with
  | nil => simp
  | cons n rest =>
      obtain ⟨hempty, -, hslash⟩ := hparts n List.mem_cons_self
      cases hn : n.toList with
      | nil => exact absurd (String.toList_eq_nil_iff.mp hn) hempty
      | cons c cs =>
          rw [hn, List.mem_cons, not_or] at hslash
          have hc : c ≠ '/' := fun h ↦ hslash.1 h.symm
          cases rest with
          | nil => simpa [hn] using hc
          | cons m rest => simpa [hn] using hc

theorem filter_splitOn_intercalate :
    (((['/'].intercalate (parts.map String.toList)).splitOn '/').map String.ofList).filter
      (fun p ↦ p ≠ "" ∧ p ≠ ".") = parts := by
  by_cases hnil : parts = []
  · subst hnil
    decide
  · have hsplit : (['/'].intercalate (parts.map String.toList)).splitOn '/' =
        parts.map String.toList := by
      refine List.splitOn_intercalate '/' ?_ (by simpa using hnil)
      simpa using fun n hn ↦ (hparts n hn).2.2
    rw [hsplit, List.map_map, List.filter_eq_self.mpr]
    · simp [Function.comp_def]
    · simpa [Function.comp_def] using fun n hn ↦ ⟨(hparts n hn).1, (hparts n hn).2.1⟩

end Canonical

theorem rootOf_of_head? {cs : List Char} (h : cs.head? ≠ some '/') :
    rootOf cs = "" ∧ rootOf ('/' :: cs) = "/" ∧ rootOf ('/' :: '/' :: cs) = "//" := by
  cases cs with
  | nil => decide
  | cons c cs =>
      have hc : c ≠ '/' := by simpa using h
      simp [rootOf, hc]

/-- A canonical path is named by its own text. -/
theorem ofText_toText {p : Path} (h : p.Canonical) : ofText p.toText = p := by
  obtain ⟨root, parts⟩ := p
  have hparts : ∀ n ∈ parts, n ≠ "" ∧ n ≠ "." ∧ '/' ∉ n.toList := h.parts
  have hroot : root = "" ∨ root = "/" ∨ root = "//" := h.root
  obtain ⟨hnone, hone, htwo⟩ := rootOf_of_head? (head?_intercalate_ne_slash hparts)
  have hnames := filter_splitOn_intercalate hparts
  by_cases hdot : root = "" ∧ parts = []
  · obtain ⟨rfl, rfl⟩ := hdot
    decide
  · have htext : (toText ⟨root, parts⟩).toList =
        root.toList ++ ['/'].intercalate (parts.map String.toList) := by
      have hcond : (root = "" && parts.isEmpty) = false := by simpa using hdot
      simp [toText, hcond]
    rw [ofText, pieces_eq_map_splitOn, htext]
    -- the slashes of the root cut off empty names, which are dropped
    rcases hroot with rfl | rfl | rfl
    · rw [String.toList_empty, List.nil_append, hnone, hnames]
    · simp only [String.reduceToList, List.cons_append, List.nil_append, hone,
        List.splitOn_cons_eq_if_modifyHead, beq_self_eq_true, if_true, List.map_cons]
      rw [List.filter_cons_of_neg (by decide), hnames]
    · simp only [String.reduceToList, List.cons_append, List.nil_append, htwo,
        List.splitOn_cons_eq_if_modifyHead, beq_self_eq_true, if_true, List.map_cons]
      rw [List.filter_cons_of_neg (by decide), List.filter_cons_of_neg (by decide), hnames]

/-! ### Paths made of others -/

variable {p q : Path}

theorem Canonical.join (hp : p.Canonical) (hq : q.Canonical) : (p.join q).Canonical := by
  rw [Path.join]
  split
  · exact hq
  · refine ⟨hp.root, fun n hn ↦ ?_⟩
    rcases List.mem_append.mp hn with hn | hn
    · exact hp.parts n hn
    · exact hq.parts n hn

theorem Canonical.parent (h : p.Canonical) : p.parent.Canonical :=
  ⟨h.root, fun n hn ↦ h.parts n ((List.dropLast_sublist _).subset hn)⟩

@[simp] theorem parent_child (p : Path) (name : String) : (p.child name).parent = p := by
  simp [Path.parent, Path.child]

end WebBaseline.Path

import WebBaseline.Proofs.Syntax
import Mathlib.Data.List.Basic

/-!
# Walks of syntax trees

A walk keeps a list of the nodes that are still to be visited and passes over a node that is not
kept together with all that lies below it.  It finds what recursion over the tree finds: the node
itself, then the walks of its children.  Among all nodes of the tree in document order these are
the ones that are kept and lie below kept nodes only.
-/

namespace WebBaseline.Syntax.Node

variable {keep : Node → Bool} {n : Node}

/-! ### Walks by recursion -/

theorem preorderInto_before (keep : Node → Bool) (pending : List Node)
    (before found : Array Node) :
    preorderInto keep pending (before ++ found) = before ++ preorderInto keep pending found := by
  fun_induction preorderInto keep pending found with
  | case1 found => simp only [preorderInto]
  | case2 found n rest hn ih =>
      rw [preorderInto, if_pos hn, ← Array.append_push]
      exact ih
  | case3 found n rest hn ih =>
      rw [preorderInto, if_neg hn]
      exact ih

theorem preorderInto_append (keep : Node → Bool) (first last : List Node) (found : Array Node) :
    preorderInto keep (first ++ last) found =
      preorderInto keep last (preorderInto keep first found) := by
  fun_induction preorderInto keep first found with
  | case1 found => rfl
  | case2 found n rest hn ih =>
      rw [List.cons_append, preorderInto, if_pos hn, ← List.append_assoc]
      exact ih
  | case3 found n rest hn ih =>
      rw [List.cons_append, preorderInto, if_neg hn]
      exact ih

theorem toList_preorderInto (pending : List Node) (found : Array Node) :
    (preorderInto keep pending found).toList =
      found.toList ++ pending.flatMap (preorder keep) := by
  induction pending generalizing found with
  | nil => simp [preorderInto]
  | cons n rest ih =>
      have hn : (preorderInto keep [n] found).toList = found.toList ++ n.preorder keep := by
        have hbefore := preorderInto_before keep [n] found #[]
        rw [Array.append_empty] at hbefore
        rw [hbefore, Array.toList_append, preorder]
      have hsplit := preorderInto_append keep [n] rest found
      rw [List.singleton_append] at hsplit
      rw [hsplit, ih, hn, List.flatMap_cons, List.append_assoc]

theorem preorder_of_keep (h : keep n = true) :
    n.preorder keep = n :: n.children.flatMap (preorder keep) := by
  rw [preorder, preorderInto, if_pos h, List.append_nil, toList_preorderInto]
  rfl

theorem preorder_of_not_keep (h : keep n = false) : n.preorder keep = [] := by
  rw [preorder, preorderInto, if_neg (by simp [h]), preorderInto]

theorem flatMap_preorder_filter (keep : Node → Bool) (cs : List Node) :
    (cs.filter keep).flatMap (preorder keep) = cs.flatMap (preorder keep) := by
  induction cs with
  | nil => rfl
  | cons c rest ih =>
      cases hc : keep c with
      | true => rw [List.filter_cons_of_pos hc, List.flatMap_cons, ih, List.flatMap_cons]
      | false =>
          rw [List.filter_cons_of_neg (by simp [hc]), ih, List.flatMap_cons,
            preorder_of_not_keep hc, List.nil_append]

/-- The node, and the nodes below it that kept children lead to. -/
def reach (keep : Node → Bool) (n : Node) : List Node :=
  n :: n.children.flatMap (preorder keep)

theorem preorder_eq_reach (h : keep n = true) : n.preorder keep = n.reach keep :=
  preorder_of_keep h

theorem self_mem_reach (n : Node) : n ∈ n.reach keep := List.mem_cons_self

theorem mem_reach_iff {m : Node} :
    m ∈ n.reach keep ↔ m = n ∨ ∃ c ∈ n.children, keep c = true ∧ m ∈ c.reach keep := by
  rw [reach, List.mem_cons, ← flatMap_preorder_filter, List.mem_flatMap]
  apply or_congr_right
  constructor
  · rintro ⟨c, hc, hm⟩
    obtain ⟨hc, hkeep⟩ := List.mem_filter.mp hc
    rw [preorder_eq_reach hkeep] at hm
    exact ⟨c, hc, hkeep, hm⟩
  · rintro ⟨c, hc, hkeep, hm⟩
    refine ⟨c, List.mem_filter.mpr ⟨hc, hkeep⟩, ?_⟩
    rwa [preorder_eq_reach hkeep]

theorem reach_subset_of_mem {c : Node} (hc : c ∈ n.children) (hkeep : keep c = true) :
    c.reach keep ⊆ n.reach keep :=
  fun _ hm ↦ mem_reach_iff.mpr (.inr ⟨c, hc, hkeep, hm⟩)

theorem mem_reach_of_mem_children {m c : Node} (hm : m ∈ n.reach keep) (hc : c ∈ m.children)
    (hkeep : keep c = true) : c ∈ n.reach keep := by
  induction n using induction_on_children with
  | step n ih =>
      rcases mem_reach_iff.mp hm with rfl | ⟨d, hd, hkept, hm⟩
      · exact reach_subset_of_mem hc hkeep c.self_mem_reach
      · exact reach_subset_of_mem hd hkept (ih d hd hm)

theorem reach_mono {keep' : Node → Bool} (h : ∀ c, keep c = true → keep' c = true) :
    n.reach keep ⊆ n.reach keep' := by
  induction n using induction_on_children with
  | step n ih =>
      intro m hm
      rcases mem_reach_iff.mp hm with rfl | ⟨c, hc, hkeep, hm⟩
      · exact self_mem_reach m
      · exact reach_subset_of_mem hc (h c hkeep) (ih c hc hm)

theorem namedNodesOf_eq_flatMap_preorder {cs : List Node}
    (h : ∀ c ∈ cs, c.namedNodes = c.reach named) :
    namedNodesOf cs = cs.flatMap (preorder named) := by
  induction cs with
  | nil => rfl
  | cons c rest ih =>
      have hrest := ih fun d hd ↦ h d (List.mem_cons_of_mem c hd)
      rw [namedNodesOf, List.flatMap_cons, hrest]
      cases hc : c.named with
      | true => rw [if_pos rfl, h c List.mem_cons_self, preorder_eq_reach hc]
      | false => rw [if_neg Bool.false_ne_true, preorder_of_not_keep hc, List.nil_append]

theorem namedNodes_eq_reach (n : Node) : n.namedNodes = n.reach named := by
  induction n using induction_on_children with
  | step n ih =>
      rw [namedNodes_eq_cons, namedChildren, ← namedNodesOf_eq_flatMap,
        namedNodesOf_eq_flatMap_preorder ih, reach]

/-! ### All nodes of a tree -/

/-- A node as it stands in a tree, with the nodes above it. -/
structure Occurrence where
  node : Node
  above : List Node

mutual

/-- All nodes of a tree in document order, given what lies above the tree. -/
def occurrencesUnder (above : List Node) : Node → List Occurrence
  | n@(.mk _ _ _ _ _ _ _ children) => ⟨n, above⟩ :: occurrencesOf (n :: above) children

def occurrencesOf (above : List Node) : List Node → List Occurrence
  | [] => []
  | c :: rest => c.occurrencesUnder above ++ occurrencesOf above rest

end

def occurrences (root : Node) : List Occurrence := root.occurrencesUnder []

theorem occurrencesOf_eq_flatMap (above cs : List Node) :
    occurrencesOf above cs = cs.flatMap (occurrencesUnder above) := by
  induction cs with
  | nil => rfl
  | cons c rest ih => rw [occurrencesOf, ih, List.flatMap_cons]

theorem occurrencesUnder_eq_cons (above : List Node) (n : Node) :
    n.occurrencesUnder above =
      ⟨n, above⟩ :: n.children.flatMap (occurrencesUnder (n :: above)) := by
  obtain ⟨kind, named, missing, first, last, start, fields, children⟩ := n
  rw [occurrencesUnder, occurrencesOf_eq_flatMap]
  rfl

theorem above_subset_of_mem {above : List Node} {o : Occurrence}
    (h : o ∈ n.occurrencesUnder above) : above ⊆ o.above := by
  induction n using induction_on_children generalizing above with
  | step n ih =>
      rw [occurrencesUnder_eq_cons, List.mem_cons] at h
      rcases h with rfl | h
      · exact List.Subset.refl above
      · obtain ⟨c, hc, ho⟩ := List.mem_flatMap.mp h
        have hbelow : n :: above ⊆ o.above := ih c hc ho
        exact fun m hm ↦ hbelow (List.mem_cons_of_mem n hm)

/-- Whether an occurrence and all that lies above it is kept. -/
def Occurrence.kept (keep : Node → Bool) (o : Occurrence) : Bool :=
  (o.node :: o.above).all keep

theorem filter_kept_of_not_keep {above : List Node} (h : keep n = false) :
    (n.occurrencesUnder above).filter (Occurrence.kept keep) = [] := by
  apply List.filter_eq_nil_iff.mpr
  intro o ho hkept
  have hall : ∀ m ∈ o.node :: o.above, keep m = true := List.all_eq_true.mp hkept
  have hn : n ∈ o.node :: o.above := by
    rw [occurrencesUnder_eq_cons, List.mem_cons] at ho
    rcases ho with rfl | ho
    · exact List.mem_cons_self
    · obtain ⟨c, -, ho⟩ := List.mem_flatMap.mp ho
      exact List.mem_cons_of_mem o.node (above_subset_of_mem ho List.mem_cons_self)
  rw [hall n hn] at h
  cases h

theorem map_node_filter_kept {above : List Node} (habove : above.all keep = true) :
    ((n.occurrencesUnder above).filter (Occurrence.kept keep)).map (·.node) =
      n.preorder keep := by
  induction n using induction_on_children generalizing above with
  | step n ih =>
      cases hn : keep n with
      | false => rw [filter_kept_of_not_keep hn, preorder_of_not_keep hn, List.map_nil]
      | true =>
          have hbelow : (n :: above).all keep = true := by rw [List.all_cons, hn, habove]; rfl
          have hkept : Occurrence.kept keep ⟨n, above⟩ = true := hbelow
          rw [occurrencesUnder_eq_cons, List.filter_cons_of_pos hkept, List.map_cons,
            List.filter_flatMap, List.map_flatMap, preorder_of_keep hn]
          exact congrArg (n :: ·) (List.flatMap_congr fun c hc ↦ ih c hc hbelow)

/-- A walk leaves out the nodes that are not kept and those that lie below one of them. -/
theorem preorder_eq_filter_occurrences (n : Node) :
    n.preorder keep = (n.occurrences.filter (Occurrence.kept keep)).map (·.node) :=
  (map_node_filter_kept rfl).symm

end WebBaseline.Syntax.Node

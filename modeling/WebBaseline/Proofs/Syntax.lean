import WebBaseline.Syntax.Node

/-!
# Recursion over syntax trees

The children of a node are smaller than the node, and so is the child under a field.  The nodes
that are reached through named children stand in document order, each before what lies below it.
-/

namespace WebBaseline.Syntax.Node

theorem sizeOf_lt_of_mem {n c : Node} (h : c ∈ n.children) : sizeOf c < sizeOf n :=
  Nat.lt_trans (List.sizeOf_lt_of_mem h) n.sizeOf_children_lt

theorem mem_children_of_field? {n c : Node} {name : String} (h : n.field? name = some c) :
    c ∈ n.children := by
  rw [field?] at h
  split at h
  · exact List.mem_of_getElem? h
  · simp at h

theorem sizeOf_lt_of_field? {n c : Node} {name : String} (h : n.field? name = some c) :
    sizeOf c < sizeOf n :=
  sizeOf_lt_of_mem (mem_children_of_field? h)

theorem mem_namedChildren {n c : Node} : c ∈ n.namedChildren ↔ c ∈ n.children ∧ c.named = true :=
  List.mem_filter

/-- What holds of a node whenever it holds of its children holds of every node. -/
theorem induction_on_children {motive : Node → Prop}
    (step : ∀ n : Node, (∀ c ∈ n.children, motive c) → motive n) (n : Node) : motive n :=
  step n fun c hc ↦
    have : sizeOf c < sizeOf n := sizeOf_lt_of_mem hc
    induction_on_children step c
termination_by sizeOf n

mutual

/-- The node and all nodes that named children lead to, in document order. -/
def namedNodes : Node → List Node
  | n@(.mk _ _ _ _ _ _ _ children) => n :: namedNodesOf children

/-- The nodes of the named ones among some trees. -/
def namedNodesOf : List Node → List Node
  | [] => []
  | c :: rest => if c.named then c.namedNodes ++ namedNodesOf rest else namedNodesOf rest

end

theorem namedNodesOf_eq_flatMap (cs : List Node) :
    namedNodesOf cs = (cs.filter named).flatMap namedNodes := by
  induction cs with
  | nil => simp only [namedNodesOf, List.filter_nil, List.flatMap_nil]
  | cons c rest ih =>
      rw [namedNodesOf, ih]
      cases hc : c.named with
      | true => rw [List.filter_cons_of_pos hc, List.flatMap_cons, if_pos rfl]
      | false => rw [List.filter_cons_of_neg (by simp [hc]), if_neg Bool.false_ne_true]

theorem namedNodes_eq_cons (n : Node) :
    n.namedNodes = n :: n.namedChildren.flatMap namedNodes := by
  obtain ⟨kind, named, missing, first, last, start, fields, children⟩ := n
  rw [namedNodes, namedNodesOf_eq_flatMap]
  rfl

theorem self_mem_namedNodes (n : Node) : n ∈ n.namedNodes := by
  rw [namedNodes_eq_cons]
  exact List.mem_cons_self

theorem mem_namedNodes_of_mem {n c m : Node} (hc : c ∈ n.namedChildren) (hm : m ∈ c.namedNodes) :
    m ∈ n.namedNodes := by
  rw [namedNodes_eq_cons]
  exact List.mem_cons_of_mem n (List.mem_flatMap.mpr ⟨c, hc, hm⟩)

end WebBaseline.Syntax.Node

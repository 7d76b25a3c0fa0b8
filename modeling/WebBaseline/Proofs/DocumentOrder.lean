import WebBaseline.Proofs.Report
import WebBaseline.Proofs.Syntax.Walk
import WebBaseline.Result
import Mathlib.Data.Prod.Lex

/-!
# Document order

Places in a source are compared by line and then by column.  In a tree whose nodes are well placed
no child starts before its parent, and nothing in the subtree of a child starts after a later child.
A walk of such a tree meets its nodes in the order of their places.  Reporting keeps the order of
the uses, and issues of one file that are in order are not moved by sorting.
-/

namespace WebBaseline

open Syntax

/-! ### Places -/

/-- The line and the column at which a node starts, both counted from one. -/
def Syntax.Node.place (n : Node) : ℤ ×ₗ ℤ :=
  toLex ((n.start.row : ℤ) + 1, (n.start.column : ℤ) + 1)

def Use.place (u : Use) : ℤ ×ₗ ℤ := toLex (u.line, u.column)

def Issue.place (i : Issue) : ℤ ×ₗ ℤ := toLex (i.line, i.column)

/-! ### Well placed trees -/

namespace Syntax.Node

variable {keep : Node → Bool} {n : Node}

/-- The kept children of a node start at or after the node, and what kept nodes lead to from one of
them starts at or before the next. -/
structure PlacedAt (keep : Node → Bool) (n : Node) : Prop where
  below : ∀ c ∈ n.children, keep c = true → n.place ≤ c.place
  beside : (n.children.filter keep).Pairwise fun a b ↦ ∀ m ∈ a.preorder keep, m.place ≤ b.place

instance (keep : Node → Bool) (n : Node) : Decidable (PlacedAt keep n) :=
  decidable_of_iff
    ((∀ c ∈ n.children, keep c = true → n.place ≤ c.place) ∧
      (n.children.filter keep).Pairwise fun a b ↦ ∀ m ∈ a.preorder keep, m.place ≤ b.place)
    ⟨fun h ↦ ⟨h.1, h.2⟩, fun h ↦ ⟨h.1, h.2⟩⟩

def WellPlaced (keep : Node → Bool) (root : Node) : Prop :=
  ∀ n ∈ root.reach keep, PlacedAt keep n

instance (keep : Node → Bool) (root : Node) : Decidable (WellPlaced keep root) :=
  inferInstanceAs (Decidable (∀ n ∈ root.reach keep, PlacedAt keep n))

theorem WellPlaced.child (h : n.WellPlaced keep) {c : Node} (hc : c ∈ n.children)
    (hkeep : keep c = true) : c.WellPlaced keep :=
  fun m hm ↦ h m (reach_subset_of_mem hc hkeep hm)

/-- A tree that is well placed stays so when fewer nodes are kept. -/
theorem WellPlaced.mono {keep' : Node → Bool} (h : n.WellPlaced keep')
    (hkeep : ∀ c, keep c = true → keep' c = true) : n.WellPlaced keep := by
  intro m hm
  obtain ⟨hbelow, hbeside⟩ := h m (reach_mono hkeep hm)
  refine ⟨fun c hc hc' ↦ hbelow c hc (hkeep c hc'), ?_⟩
  have hfilter : m.children.filter keep = (m.children.filter keep').filter keep := by
    rw [List.filter_filter]
    refine List.filter_congr fun c _ ↦ ?_
    cases hc : keep c with
    | false => rfl
    | true => rw [hkeep c hc]; rfl
  rw [hfilter]
  refine (hbeside.filter keep).imp_of_mem ?_
  intro a b ha _ hab d hd
  have ha : keep a = true := (List.mem_filter.mp ha).2
  rw [preorder_eq_reach ha] at hd
  rw [preorder_eq_reach (hkeep a ha)] at hab
  exact hab d (reach_mono hkeep hd)

theorem WellPlaced.place_le (h : n.WellPlaced keep) {m : Node} (hm : m ∈ n.reach keep) :
    n.place ≤ m.place := by
  induction n using induction_on_children with
  | step n ih =>
      rcases mem_reach_iff.mp hm with rfl | ⟨c, hc, hkeep, hm⟩
      · exact le_rfl
      · have hchild : n.place ≤ c.place := (h n n.self_mem_reach).below c hc hkeep
        exact hchild.trans (ih c hc (h.child hc hkeep) hm)

/-- A walk of a well placed tree meets its nodes in the order of their places. -/
theorem WellPlaced.pairwise_reach (h : n.WellPlaced keep) :
    (n.reach keep).Pairwise fun a b ↦ a.place ≤ b.place := by
  induction n using induction_on_children with
  | step n ih =>
      refine List.pairwise_cons.mpr ⟨fun m hm ↦ ?_, ?_⟩
      · exact h.place_le (List.mem_cons_of_mem n hm)
      · -- Below the node, order within a child is the induction, order between children is given.
        rw [← flatMap_preorder_filter, List.pairwise_flatMap]
        constructor
        · intro c hc
          obtain ⟨hc, hkeep⟩ := List.mem_filter.mp hc
          rw [preorder_eq_reach hkeep]
          exact ih c hc (h.child hc hkeep)
        · have hbeside := (h n n.self_mem_reach).beside
          refine hbeside.imp_of_mem ?_
          intro a b _ hb hab x hx y hy
          obtain ⟨hb, hkeep⟩ := List.mem_filter.mp hb
          rw [preorder_eq_reach hkeep] at hy
          exact (hab x hx).trans ((h.child hb hkeep).place_le hy)

end Syntax.Node

/-! ### Issues -/

namespace Report

variable {language : Language} {file : String} {table : Table} {level : Level} {uses : List Use}

/-- Reporting keeps the order of the uses. -/
theorem pairwise_place_issues (language : Language) (file : String) (table : Table)
    (level : Level) (h : uses.Pairwise fun u v ↦ u.place ≤ v.place) :
    (issues language file table level uses).Pairwise fun i j ↦ i.place ≤ j.place := by
  have hplace : ∀ u i, issue? language file table level u = some i → i.place = u.place := by
    intro u i hi
    obtain ⟨f, -, rfl⟩ := Option.map_eq_some_iff.mp hi
    rfl
  rw [issues_eq_filterMap]
  refine (h.sublist (firsts_sublist uses)).filterMap _ ?_
  intro u v huv i hi j hj
  rw [hplace u i hi, hplace v j hj]
  exact huv

theorem file_of_mem_issues {i : Issue} (h : i ∈ issues language file table level uses) :
    i.file = file := by
  obtain ⟨u, -, f, -, -, rfl⟩ := exists_use_of_mem_issues h
  rfl

end Report

theorem Issue.le_of_place_le {a b : Issue} (hfile : a.file = b.file) (h : a.place ≤ b.place) :
    a.le b = true := by
  rcases Prod.Lex.toLex_le_toLex.mp h with hline | ⟨hline, hcolumn⟩
  · have hline : a.line < b.line := hline
    simp [Issue.le, hfile, hline]
  · have hline : a.line = b.line := hline
    have hcolumn : a.column ≤ b.column := hcolumn
    simp [Issue.le, hfile, hline, hcolumn]

/-- Issues of one file that are in order are not moved by sorting. -/
theorem ScanResult.sorted_eq_self {r : ScanResult} {file : String}
    (hfile : ∀ i ∈ r.issues, i.file = file)
    (h : r.issues.Pairwise fun i j ↦ i.place ≤ j.place) : r.sorted = r := by
  have hle : r.issues.Pairwise fun i j ↦ i.le j = true := by
    refine h.imp_of_mem ?_
    intro i j hi hj hij
    exact Issue.le_of_place_le ((hfile i hi).trans (hfile j hj).symm) hij
  rw [ScanResult.sorted, List.mergeSort_of_pairwise hle]

end WebBaseline

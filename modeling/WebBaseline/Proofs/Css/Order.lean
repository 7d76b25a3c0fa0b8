import WebBaseline.Analyzer
import WebBaseline.Proofs.Css.Uses
import WebBaseline.Proofs.DocumentOrder
import WebBaseline.Table.Bundled
import Mathlib.Data.List.Pairwise

/-!
# Document order in style sheets

Declarations and at-rules are reported at their own start, so that in a well placed tree their uses
are in document order.  A pseudo-class is reported at its colon, but before anything that lies below
its selector.  The uses of a sheet are in document order exactly if nothing that lies below the
selector of a pseudo-class is reported in front of its colon.
-/

namespace WebBaseline.Css

open Syntax

variable {source : ByteArray} {n : Node}

/-! ### The uses of a subtree -/

def usesIn (source : ByteArray) (n : Node) : List Use := (soundNodes n).flatMap (usesOf source)

/-- The uses of what lies below a node. -/
def usesBelow (source : ByteArray) (n : Node) : List Use := n.children.flatMap (usesIn source)

theorem usesIn_of_broken (h : broken n = true) : usesIn source n = [] := by
  rw [usesIn, soundNodes_of_broken h, List.flatMap_nil]

theorem usesIn_of_sound (h : broken n = false) :
    usesIn source n = usesOf source n ++ usesBelow source n := by
  rw [usesIn, soundNodes_of_sound h, List.flatMap_cons, List.flatMap_assoc]
  rfl

/-! ### The places of uses -/

theorem FirstClass.mem {cs : List Node} {colon name : Node} (h : FirstClass cs colon name) :
    colon ∈ cs := by
  obtain ⟨before, between, after, rfl, -⟩ := h
  simp

/-- The colon at which a pseudo-class is reported. -/
def reportedColon? (n : Node) : Option Node :=
  if n.kind = "pseudo_class_selector" then (firstClass? none n.children).map Prod.fst else none

theorem mem_children_of_reportedColon? {colon : Node} (h : reportedColon? n = some colon) :
    colon ∈ n.children := by
  rw [reportedColon?] at h
  split at h
  · obtain ⟨found, hfound, rfl⟩ := Option.map_eq_some_iff.mp h
    exact (firstClass?_eq_some_iff.mp hfound).mem
  · cases h

theorem reportedColon?_of_kind_ne (h : n.kind ≠ "pseudo_class_selector") :
    reportedColon? n = none := by
  rw [reportedColon?, if_neg h]

theorem exists_mem_usesOf (source : ByteArray) {colon : Node} (h : reportedColon? n = some colon) :
    ∃ u, u ∈ usesOf source n := by
  rw [reportedColon?] at h
  split at h
  · rename_i hkind
    obtain ⟨found, hfound, -⟩ := Option.map_eq_some_iff.mp h
    rw [usesOf_pseudoClass hkind, hfound]
    exact ⟨_, List.mem_singleton_self _⟩
  · cases h

theorem Yields.place_eq {us : List Use} (h : Yields source n us) :
    ∀ u ∈ us, u.place = ((reportedColon? n).getD n).place := by
  cases h with
  | property hkind =>
      rw [reportedColon?_of_kind_ne (by simp [hkind])]
      intro u hu
      rw [List.mem_singleton.mp hu]
      rfl
  | valued hkind =>
      rw [reportedColon?_of_kind_ne (by simp [hkind])]
      intro u hu
      rcases List.mem_pair.mp hu with rfl | rfl <;> rfl
  | pseudoClass hkind hfirst =>
      rw [reportedColon?, if_pos hkind, hfirst.eq_some]
      intro u hu
      rw [List.mem_singleton.mp hu]
      rfl
  | atRule hkind =>
      rw [reportedColon?_of_kind_ne (hkind.kind_ne (by decide) (by decide))]
      intro u hu
      rw [List.mem_singleton.mp hu]
      rfl

/-- A use stands at the start of its node, or at the colon of its pseudo-class. -/
theorem place_of_mem_usesOf {u : Use} (h : u ∈ usesOf source n) :
    u.place = ((reportedColon? n).getD n).place :=
  (yields_usesOf (List.ne_nil_of_mem h)).place_eq u h

theorem pairwise_usesOf (source : ByteArray) (n : Node) :
    (usesOf source n).Pairwise fun u v ↦ u.place ≤ v.place := by
  apply List.pairwise_of_forall_mem_list
  intro u hu v hv
  rw [place_of_mem_usesOf hu, place_of_mem_usesOf hv]

/-- A use stands where some node of its subtree starts. -/
theorem exists_place_eq {u : Use} (h : u ∈ usesIn source n) :
    ∃ m ∈ n.reach fun _ ↦ true, u.place = m.place := by
  obtain ⟨m, hm, hu⟩ := List.mem_flatMap.mp h
  have hm : m ∈ n.reach fun _ ↦ true :=
    Node.reach_mono (fun _ _ ↦ rfl) ((soundNodes_sublist_reach n).subset hm)
  rw [place_of_mem_usesOf hu]
  cases hcolon : reportedColon? m with
  | none => exact ⟨m, hm, rfl⟩
  | some colon =>
      -- The colon need not be visited itself, since a broken one is reported all the same.
      have hmem := mem_children_of_reportedColon? hcolon
      exact ⟨colon, Node.mem_reach_of_mem_children hm hmem rfl, rfl⟩

/-! ### Order -/

section WellPlaced

variable (hplaced : n.WellPlaced fun _ ↦ true)

include hplaced

theorem place_le_of_mem_usesIn {u : Use} (h : u ∈ usesIn source n) : n.place ≤ u.place := by
  obtain ⟨m, hm, hu⟩ := exists_place_eq h
  rw [hu]
  exact hplaced.place_le hm

theorem place_le_of_mem_usesBelow {u : Use} (h : u ∈ usesBelow source n) : n.place ≤ u.place := by
  obtain ⟨c, hc, hu⟩ := List.mem_flatMap.mp h
  have hchild : n.place ≤ c.place := (hplaced n n.self_mem_reach).below c hc rfl
  exact hchild.trans (place_le_of_mem_usesIn (hplaced.child hc rfl) hu)

/-- The uses of one child come before those of the next. -/
theorem pairwise_children (source : ByteArray) :
    n.children.Pairwise fun a b ↦
      ∀ u ∈ usesIn source a, ∀ v ∈ usesIn source b, u.place ≤ v.place := by
  have hbeside := (hplaced n n.self_mem_reach).beside
  rw [List.filter_eq_self.mpr fun _ _ ↦ rfl] at hbeside
  refine hbeside.imp_of_mem ?_
  intro a b _ hb hab u hu v hv
  obtain ⟨m, hm, hu⟩ := exists_place_eq hu
  rw [← Node.preorder_eq_reach rfl] at hm
  rw [hu]
  exact (hab m hm).trans (place_le_of_mem_usesIn (hplaced.child hb rfl) hv)

end WellPlaced

/-- Nothing that lies below the selector of a pseudo-class is reported in front of its colon. -/
def ColonLeads (source : ByteArray) (n : Node) : Prop :=
  ∀ colon ∈ reportedColon? n, ∀ u ∈ usesBelow source n, colon.place ≤ u.place

instance (source : ByteArray) (n : Node) : Decidable (ColonLeads source n) :=
  inferInstanceAs (Decidable
    (∀ colon ∈ reportedColon? n, ∀ u ∈ usesBelow source n, colon.place ≤ u.place))

theorem colonLeads_iff (hplaced : n.WellPlaced fun _ ↦ true) :
    (∀ u ∈ usesOf source n, ∀ v ∈ usesBelow source n, u.place ≤ v.place) ↔
      ColonLeads source n := by
  constructor
  · intro h colon hcolon v hv
    obtain ⟨u, hu⟩ := exists_mem_usesOf source hcolon
    have huv := h u hu v hv
    rw [place_of_mem_usesOf hu, hcolon] at huv
    exact huv
  · intro h u hu v hv
    rw [place_of_mem_usesOf hu]
    cases hcolon : reportedColon? n with
    | none => exact place_le_of_mem_usesBelow hplaced hv
    | some colon => exact h colon hcolon v hv

theorem pairwise_usesIn_iff (hplaced : n.WellPlaced fun _ ↦ true) :
    (usesIn source n).Pairwise (fun u v ↦ u.place ≤ v.place) ↔
      ∀ m ∈ soundNodes n, ColonLeads source m := by
  induction n using Node.induction_on_children with
  | step n ih =>
      cases hn : broken n with
      | true => simp [usesIn_of_broken hn, soundNodes_of_broken hn]
      | false =>
          -- The uses of the node itself come first, so only they can stand behind a later one.
          have hbelow : (usesBelow source n).Pairwise (fun u v ↦ u.place ≤ v.place) ↔
              ∀ m ∈ n.children.flatMap soundNodes, ColonLeads source m := by
            rw [usesBelow, List.pairwise_flatMap,
              and_iff_left (pairwise_children hplaced source)]
            constructor
            · intro h m hm
              obtain ⟨c, hc, hm⟩ := List.mem_flatMap.mp hm
              exact (ih c hc (hplaced.child hc rfl)).mp (h c hc) m hm
            · intro h c hc
              refine (ih c hc (hplaced.child hc rfl)).mpr fun m hm ↦ ?_
              exact h m (List.mem_flatMap.mpr ⟨c, hc, hm⟩)
          rw [usesIn_of_sound hn, soundNodes_of_sound hn, List.pairwise_append,
            List.forall_mem_cons, and_iff_right (pairwise_usesOf source n), hbelow,
            colonLeads_iff hplaced, and_comm]

/-- The nodes of a walk that are no pseudo-classes have their uses in document order. -/
theorem pairwise_uses_of_others (hplaced : n.WellPlaced fun _ ↦ true) (source : ByteArray) :
    (((soundNodes n).filter fun m ↦ m.kind ≠ "pseudo_class_selector").flatMap
      (usesOf source)).Pairwise fun u v ↦ u.place ≤ v.place := by
  have hnodes : (soundNodes n).Pairwise fun a b ↦ a.place ≤ b.place := by
    have hreach : ((n.reach fun m ↦ !broken m).Pairwise fun a b ↦ a.place ≤ b.place) :=
      (hplaced.mono fun _ _ ↦ rfl).pairwise_reach
    exact hreach.sublist (soundNodes_sublist_reach n)
  have hplace : ∀ m : Node, m.kind ≠ "pseudo_class_selector" → ∀ u ∈ usesOf source m,
      u.place = m.place := by
    intro m hkind u hu
    rw [place_of_mem_usesOf hu, reportedColon?_of_kind_ne hkind]
    rfl
  rw [List.pairwise_flatMap]
  refine ⟨fun m _ ↦ pairwise_usesOf source m, ?_⟩
  refine (hnodes.filter _).imp_of_mem ?_
  intro a b ha hb hab u hu v hv
  have ha := of_decide_eq_true (List.mem_filter.mp ha).2
  have hb := of_decide_eq_true (List.mem_filter.mp hb).2
  rw [hplace a ha u hu, hplace b hb v hv]
  exact hab

theorem analyze_of_uses? {content file : String} {table : Table} {level : Level}
    {found : List Use} (h : uses? (read content) = some found) :
    Analyzer.css.analyze content file table level =
      some (Report.issues .css file table level found, []) := by
  have hdetect : Analyzer.css.detect content file = { uses := found, ending := .complete } := by
    simp only [Analyzer.css, h]
  rw [Analyzer.analyze, hdetect]
  rfl

/-- In a well placed tree the uses of a style sheet are in document order exactly if nothing that
lies below the selector of a pseudo-class is reported in front of its colon.  The issues are then in
document order as well, whatever the table and the level.  The uses of declarations and at-rules are
always in document order among themselves. -/
theorem uses?_in_document_order_iff {tree : Tree} (hplaced : tree.root.WellPlaced fun _ ↦ true)
    {found : List Use} (hfound : uses? tree = some found) :
    (found.Pairwise (fun u v ↦ u.place ≤ v.place) ↔
      ∀ n ∈ soundNodes tree.root, ColonLeads tree.source n) ∧
    (found.Pairwise (fun u v ↦ u.place ≤ v.place) →
      ∀ (file : String) (table : Table) (level : Level),
        let issues := Report.issues .css file table level found
        (issues.Pairwise fun i j ↦ i.place ≤ j.place) ∧
        ∀ content, read content = tree →
          Analyzer.css.analyze content file table level = some (issues, [])) ∧
    (((soundNodes tree.root).filter fun n ↦ n.kind ≠ "pseudo_class_selector").flatMap
      (usesOf tree.source)).Pairwise fun u v ↦ u.place ≤ v.place := by
  have hsound : ¬ Hopeless tree := by
    rw [← uses?_eq_none_iff, hfound]
    simp
  obtain rfl : usesIn tree.source tree.root = found := by
    rw [uses?_of_not_hopeless hsound] at hfound
    exact Option.some.inj hfound
  refine ⟨pairwise_usesIn_iff hplaced, ?_, pairwise_uses_of_others hplaced tree.source⟩
  intro huses file table level issues
  refine ⟨Report.pairwise_place_issues .css file table level huses, ?_⟩
  rintro content rfl
  exact analyze_of_uses? hfound

/-- A pseudo-class in the arguments of another and one in a selector of its own are reported in the
order of their colons. -/
theorem uses?_in_document_order_iff_listed :
    let tree := read "a:h(b:x),c:y\x7bd:e\x7d"
    let found : List Use :=
      [{ key := "css.selectors.h", line := 1, column := 2 },
        { key := "css.selectors.x", line := 1, column := 6 },
        { key := "css.selectors.y", line := 1, column := 11 },
        { key := "css.properties.d", line := 1, column := 14, property := some "d"
          value := some "e" },
        { key := "css.properties.d.e", line := 1, column := 14, property := some "d"
          value := some "e" }]
    (tree.root.WellPlaced fun _ ↦ true) ∧ uses? tree = some found ∧
      (∀ n ∈ soundNodes tree.root, ColonLeads tree.source n) ∧
      found.Pairwise fun u v ↦ u.place ≤ v.place := by
  intro tree found
  have htree : (tree.root.WellPlaced fun _ ↦ true) ∧ uses? tree = some found ∧
      ∀ n ∈ soundNodes tree.root, ColonLeads tree.source n := by
    decide +kernel
  obtain ⟨hplaced, hfound, hleads⟩ := htree
  refine ⟨hplaced, hfound, hleads, ?_⟩
  exact (uses?_in_document_order_iff hplaced hfound).1.mpr hleads

/-- Of two pseudo-classes in one selector the second is reported first, since the selector of the
first lies below that of the second. -/
theorem chained_pseudo_classes_out_of_order :
    let tree := read "a:x:y\x7b\x7d"
    let found : List Use :=
      [{ key := "css.selectors.y", line := 1, column := 4 },
        { key := "css.selectors.x", line := 1, column := 2 }]
    ((tree.root.WellPlaced fun _ ↦ true) ∧ uses? tree = some found ∧
      ¬ found.Pairwise fun u v ↦ u.place ≤ v.place) ∧
    (Analyzer.css.analyze "a:has(b):focus-visible\x7b\x7d" "a.css" Table.bundled .widely).map
        (fun answer ↦ answer.1.map Issue.marker) =
      some [("css.selectors.focus-visible", 1, 9), ("css.selectors.has", 1, 2)] := by
  refine ⟨?_, ?_⟩ <;> decide +kernel

end WebBaseline.Css

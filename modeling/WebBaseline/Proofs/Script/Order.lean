import WebBaseline.Analyzer
import WebBaseline.Proofs.DocumentOrder
import WebBaseline.Proofs.Script.Uses
import WebBaseline.Table.Bundled

/-!
# Document order in scripts

Every use of a script stands at the start of its node, and the uses follow the walk of the named
nodes.  In a well placed tree they are therefore in document order, and so are the issues.
-/

namespace WebBaseline.Script

open Syntax

variable {source : ByteArray} {n : Node}

theorem place_of_useAt? {u : Use} (h : useAt? source n = some u) : u.place = n.place := by
  obtain ⟨-, path, -, -, rfl⟩ := useAt?_eq_some_iff.mp h
  rfl

theorem pairwise_place_uses {tree : Tree} (hplaced : tree.root.WellPlaced Node.named)
    {found : List Use} (hfound : uses tree = .ok found) :
    found.Pairwise fun u v ↦ u.place ≤ v.place := by
  obtain ⟨-, -, rfl⟩ := uses_eq_ok_iff.mp hfound
  rw [Node.namedNodes_eq_reach]
  refine hplaced.pairwise_reach.filterMap _ ?_
  intro a b hab u hu v hv
  rw [place_of_useAt? hu, place_of_useAt? hv]
  exact hab

theorem analyze_of_uses {content file : String} {table : Table} {level : Level} {found : List Use}
    (h : uses (read (Analyzer.dialectOf file) content) = .ok found) :
    Analyzer.script.analyze content file table level =
      some (Report.issues .javascript file table level found, []) := by
  have hdetect : Analyzer.script.detect content file = { uses := found, ending := .complete } := by
    simp only [Analyzer.script, h]
  rw [Analyzer.analyze, hdetect]
  rfl

/-- In a well placed tree the uses of a script are in document order.  So are its issues, whatever
the table and the level, and sorting them moves none. -/
theorem uses_in_document_order {tree : Tree} (hplaced : tree.root.WellPlaced Node.named)
    {found : List Use} (hfound : uses tree = .ok found) :
    (found.Pairwise fun u v ↦ u.place ≤ v.place) ∧
    ∀ (file : String) (table : Table) (level : Level),
      let issues := Report.issues .javascript file table level found
      (issues.Pairwise fun i j ↦ i.place ≤ j.place) ∧
      (∀ scanned, ({ issues, scanned } : ScanResult).sorted = { issues, scanned }) ∧
      ∀ content, read (Analyzer.dialectOf file) content = tree →
        Analyzer.script.analyze content file table level = some (issues, []) := by
  have huses := pairwise_place_uses hplaced hfound
  refine ⟨huses, ?_⟩
  intro file table level issues
  have hissues := Report.pairwise_place_issues .javascript file table level huses
  refine ⟨hissues, fun scanned ↦ ?_, ?_⟩
  · exact ScanResult.sorted_eq_self (fun i hi ↦ Report.file_of_mem_issues hi) hissues
  · rintro content rfl
    exact analyze_of_uses hfound

/-- A call stands on a line of its own in the arguments of another and shares its place with the
member that it calls. -/
theorem uses_in_document_order_nested :
    let content : String := "fetch(\n navigator.share());"
    let tree := read .script content
    let found : List Use :=
      [{ key := "fetch", line := 1, column := 1 },
        { key := "navigator.share", line := 2, column := 2 },
        { key := "navigator.share", line := 2, column := 2 }]
    let issues := Report.issues .javascript "a.js" Table.bundled .widely found
    tree.root.WellPlaced Node.named ∧ uses tree = .ok found ∧
      (found.Pairwise fun u v ↦ u.place ≤ v.place) ∧
      ({ issues, scanned := 1 } : ScanResult).sorted = { issues, scanned := 1 } ∧
      Analyzer.script.analyze content "a.js" Table.bundled .widely = some (issues, []) ∧
      issues.map Issue.marker = [("fetch", 1, 1), ("navigator.share", 2, 2)] := by
  intro content tree found issues
  have htree : tree.root.WellPlaced Node.named ∧ tree.faulty = false ∧
      (∀ m ∈ tree.root.namedNodes, FieldsNamed m) ∧
      tree.root.namedNodes.filterMap (useAt? tree.source) = found := by
    decide +kernel
  obtain ⟨hplaced, hread⟩ := htree
  have hfound : uses tree = .ok found := uses_eq_ok_iff.mpr hread
  have hdialect : Analyzer.dialectOf "a.js" = .script := by decide +kernel
  obtain ⟨huses, hissues⟩ := uses_in_document_order hplaced hfound
  obtain ⟨-, hsorted, hanalyze⟩ := hissues "a.js" Table.bundled .widely
  refine ⟨hplaced, hfound, huses, hsorted 1, hanalyze content (by rw [hdialect]), ?_⟩
  decide +kernel

end WebBaseline.Script

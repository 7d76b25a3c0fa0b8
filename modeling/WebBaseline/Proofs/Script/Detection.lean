import WebBaseline.Proofs.Script.Building
import WebBaseline.Proofs.Script.Calls
import WebBaseline.Proofs.Script.Resolving

/-!
# Uses found in passes

Building leaves the outline that the recursion over the syntax tree gives, walking it meets the
outlines in document order, and the rounds find the path of each.  One after the other the passes
find what `uses` finds and fail where it fails.  So what holds of the uses of a tree holds of what
the passes find in any numbering of it.
-/

namespace WebBaseline.Script

open Syntax

variable {source : ByteArray} {root : Numbered} {faulty : Bool} {found : List Use}

theorem resolvedUse?_eq_useOf? : resolvedUse? = useOf? := by
  funext n
  rw [resolvedUse?, n.resolve?_eq_path?]
  rfl

variable (hnodup : root.numbers.Nodup)

include hnodup

/-- The passes find the uses of the tree without its numbers. -/
theorem detect_eq_uses :
    detect source root faulty = uses { source, root := root.node, faulty } := by
  rw [detect, uses]
  cases faulty with
  | true => rfl
  | false =>
      rw [← Outline.toOption_build source root hnodup, resolvedUse?_eq_useOf?]
      cases Outline.build source root <;> rfl

/-- The passes come to their end if the tree was read without a fault and what its paths need are
named children, and only then.  They find the uses of the nodes that named children lead to. -/
theorem detect_eq_ok_iff :
    detect source root faulty = .ok found ↔
      faulty = false ∧ (∀ m ∈ root.node.namedNodes, FieldsNamed m) ∧
        root.node.namedNodes.filterMap (useAt? source) = found := by
  rw [detect_eq_uses hnodup]
  exact uses_eq_ok_iff

variable (hfound : detect source root faulty = .ok found)

include hfound

theorem pairwise_place_detect (hplaced : root.node.WellPlaced Node.named) :
    found.Pairwise fun u v ↦ u.place ≤ v.place := by
  rw [detect_eq_uses hnodup] at hfound
  exact pairwise_place_uses hplaced hfound

/-- No issue goes missing with the calls of members. -/
theorem issues_detect (hcallee : ∀ m ∈ root.node.namedNodes, CalleeFirst m) (file : String)
    (table : Table) (level : Level) :
    Report.issues .javascript file table level found =
      Report.issues .javascript file table level (directUses source root.node) := by
  obtain ⟨-, -, rfl⟩ := (detect_eq_ok_iff hnodup).mp hfound
  apply Report.issues_congr
  exact firsts_filterMap_namedNodes hcallee

end WebBaseline.Script

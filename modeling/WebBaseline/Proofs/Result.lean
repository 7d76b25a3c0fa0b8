import WebBaseline.Result
import Mathlib.Data.Finset.Card

/-!
# Counts of a result

The counts of a summary read different fields of the issues.  Where the severity of each issue is
that of its tier they agree with each other, and a tier that no issue has counts nothing.  The
files with issues are counted as a set of names.
-/

namespace WebBaseline

theorem Tier.severity_injective : Function.Injective Tier.severity := by
  intro s t h
  cases s <;> cases t <;> simp_all [Tier.severity]

namespace Summary

theorem total_eq_tiers (issues : List Issue) :
    (ofIssues issues).total =
      (ofIssues issues).limited + (ofIssues issues).newly + (ofIssues issues).widely := by
  simp only [ofIssues]
  induction issues with
  | nil => rfl
  | cons i rest ih =>
      simp only [List.length_cons, List.countP_cons]
      cases i.tier <;> simp <;> omega

/-- Counting a severity counts the tier that it belongs to. -/
theorem countP_severity {issues : List Issue} (h : ∀ i ∈ issues, i.severity = i.tier.severity)
    (t : Tier) :
    issues.countP (fun i ↦ i.severity = t.severity) = issues.countP fun i ↦ i.tier = t := by
  refine List.countP_congr fun i hi ↦ ?_
  simp only [h i hi, Tier.severity_injective.eq_iff]

theorem countP_tier_eq_zero {issues : List Issue} {level : Level}
    (h : ∀ i ∈ issues, level.reports i.tier = true) {t : Tier} (ht : level.reports t = false) :
    (issues.countP fun i ↦ i.tier = t) = 0 := by
  refine List.countP_eq_zero.mpr fun i hi hit ↦ ?_
  have htier : i.tier = t := of_decide_eq_true hit
  have hreports := h i hi
  rw [htier, ht] at hreports
  exact absurd hreports (by simp)

end Summary

theorem nodup_eraseDups (names : List String) : names.eraseDups.Nodup := by
  -- the tail of the result comes from a filtered tail, which is no part of the list
  induction hn : names.length using Nat.strong_induction_on generalizing names with
  | h n ih =>
      cases names with
      | nil => exact List.nodup_nil
      | cons name rest =>
          rw [List.eraseDups_cons, List.nodup_cons, List.mem_eraseDups]
          have hlt : (rest.filter fun m ↦ !m == name).length < n := by
            have hle := List.length_filter_le (fun m ↦ !m == name) rest
            rw [List.length_cons] at hn
            omega
          exact ⟨by simp, ih _ hlt _ rfl⟩

namespace ScanResult

theorem withIssues_eq_card (r : ScanResult) :
    r.withIssues = (r.issues.map (·.file)).toFinset.card := by
  rw [withIssues, ← List.toFinset_card_of_nodup (nodup_eraseDups _)]
  congr 1
  ext name
  simp only [List.mem_toFinset, List.mem_eraseDups]

theorem withIssues_eq_zero_iff (r : ScanResult) : r.withIssues = 0 ↔ r.issues = [] := by
  rw [withIssues_eq_card, Finset.card_eq_zero, List.toFinset_eq_empty_iff, List.map_eq_nil_iff]

/-- There are no more files with issues than names that the issues can have. -/
theorem withIssues_le_length {r : ScanResult} {names : List String}
    (h : ∀ i ∈ r.issues, i.file ∈ names) : r.withIssues ≤ names.length := by
  rw [withIssues_eq_card]
  have hsubset : (r.issues.map (·.file)).toFinset ⊆ names.toFinset := by
    intro name hname
    obtain ⟨i, hi, rfl⟩ := List.mem_map.mp (List.mem_toFinset.mp hname)
    exact List.mem_toFinset.mpr (h i hi)
  calc
    (r.issues.map (·.file)).toFinset.card ≤ names.toFinset.card := Finset.card_le_card hsubset
    _ ≤ names.length := List.toFinset_card_le names

end ScanResult

end WebBaseline

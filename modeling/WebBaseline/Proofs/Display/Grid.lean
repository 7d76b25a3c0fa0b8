import Mathlib.Algebra.Order.BigOperators.Group.List
import Mathlib.Algebra.Order.Group.Nat
import WebBaseline.Display.Terminal
import WebBaseline.Proofs.Display.Layout
import WebBaseline.Proofs.Lists

/-!
# Grids that fit the terminal

On a terminal that is wide enough every column is as wide as its widest cell, and the first cell of
a row that stands on one line is shown at the start of the row.
-/

namespace WebBaseline.Display.Grid

variable {g : Grid}

/-! ### Columns -/

theorem total_eq_sum (widths : List Nat) : total widths = widths.sum := by
  rw [total, List.sum_eq_foldl]

theorem fitted_of_total_le {available : Nat} (steps : Nat) {widths : List Nat}
    (h : total widths ≤ available) : fitted available steps widths = widths := by
  cases steps with
  | zero => rfl
  | succ steps =>
      have hnone : total widths - available = 0 := Nat.sub_eq_zero_of_le h
      rw [fitted]
      exact if_pos hnone

theorem widths_of_fitsIn {width : Nat} (h : g.FitsIn width) : g.widths width = g.naturalWidths := by
  rw [FitsIn] at h
  have htotal : total (g.naturalWidths.map (· + 2)) ≤ width - g.borders := by omega
  have hcolumns : (g.naturalWidths.map fun w ↦ min (width - g.borders) (w + 2)) =
      g.naturalWidths.map (· + 2) := by
    apply List.map_congr_left
    intro w hw
    have hmem : w + 2 ∈ g.naturalWidths.map (· + 2) := List.mem_map_of_mem hw
    have hle := List.single_le_sum (fun _ _ ↦ Nat.zero_le _) _ hmem
    rw [← total_eq_sum] at hle
    exact Nat.min_eq_right (Nat.le_trans hle htotal)
  rw [widths]
  simp only [hcolumns]
  rw [fitted_of_total_le _ htotal, List.map_map]
  exact List.map_id'' (fun w ↦ Nat.add_sub_cancel w 2) _

theorem exists_foldl_zipWith_max (w : Nat) (more : List Nat) {rows : List (List (List Char))}
    (hrows : ∀ row ∈ rows, row ≠ []) :
    ∃ w' more', rows.foldl (fun widths row ↦ List.zipWith max widths (row.map widest)) (w :: more) =
        w' :: more' ∧ w ≤ w' ∧ ∀ row ∈ rows, ∀ cell ∈ row.head?, widest cell ≤ w' := by
  induction rows generalizing w more with
  | nil => exact ⟨w, more, rfl, Nat.le_refl w, by simp⟩
  | cons row rest ih =>
      cases row with
      | nil => exact absurd rfl (hrows [] List.mem_cons_self)
      | cons cell cells =>
          obtain ⟨w', more', hfold, hle, hrest⟩ :=
            ih (max w (widest cell)) (List.zipWith max more (cells.map widest))
              fun row hrow ↦ hrows row (List.mem_cons_of_mem _ hrow)
          refine ⟨w', more', hfold, by omega, List.forall_mem_cons.mpr ⟨?_, hrest⟩⟩
          intro c hc
          obtain rfl := Option.some.inj hc
          omega

/-- The first column is as wide as the first cell of every row. -/
theorem exists_naturalWidths (hcolumns : g.columns ≠ []) (hrows : ∀ row ∈ g.rows, row ≠ []) :
    ∃ w more, g.naturalWidths = w :: more ∧
      ∀ row ∈ g.rows, ∀ cell ∈ row.head?, widest cell ≤ w := by
  obtain ⟨column, columns, hcolumns⟩ := List.exists_cons_of_ne_nil hcolumns
  rw [naturalWidths, hcolumns, List.map_cons]
  obtain ⟨w, more, hfold, -, hwidest⟩ := exists_foldl_zipWith_max _ _ hrows
  exact ⟨w, more, hfold, hwidest⟩

/-! ### Rows -/

theorem prefix_rowLine (edge : Char) (cell : List Char) (cells : List (List Char)) :
    edge :: ' ' :: cell ++ [' ', edge] <+: rowLine edge (cell :: cells) := by
  cases cells with
  | nil =>
      refine ⟨[], ?_⟩
      rw [rowLine, List.intercalate_singleton, List.append_nil]
  | cons next more =>
      rw [rowLine, List.intercalate_cons_cons]
      simp only [List.cons_append, List.append_assoc, List.cons_prefix_cons,
        List.prefix_append_right_inj, true_and]
      exact List.nil_prefix

theorem rowLines_ne_nil (edge : Char) (widths : List Nat) (placings : List Placing)
    (row : List (List Char)) : rowLines edge widths placings row ≠ [] := by
  rw [rowLines]
  simp only [ne_eq, List.map_eq_nil_iff, List.range_eq_nil]
  have hle := le_foldl_max 1
  exact Nat.ne_of_gt (hle _)

/-- A first cell of one line is shown at the start of the first line of its row. -/
theorem exists_rowLines (edge : Char) {w : Nat} (widths : List Nat) (placings : List Placing)
    {cell line : List Char} (cells : List (List Char)) (h : laidOut w .left .dots cell = [line]) :
    ∃ first more, rowLines edge (w :: widths) (.left :: placings) (cell :: cells) = first :: more ∧
      edge :: ' ' :: line ++ [' ', edge] <+: first := by
  simp only [rowLines, List.zip_cons_cons, List.map_cons, h]
  generalize hheight : List.foldl max 1 _ = height
  obtain ⟨n, rfl⟩ : ∃ n, height = n + 1 := by
    have hle := le_foldl_max 1
    exact Nat.exists_eq_add_of_le' (hheight ▸ hle _)
  rw [List.range_succ_eq_map, List.map_cons]
  refine ⟨_, _, rfl, ?_⟩
  exact prefix_rowLine edge line _

end WebBaseline.Display.Grid

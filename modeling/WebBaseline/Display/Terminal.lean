import WebBaseline.Display.Layout
import WebBaseline.Display.Tagged

/-!
# Terminals

A terminal of some width draws a grid with lines around its cells.  A column is as wide as its
widest cell, with one space on either side.  A grid that is wider than the terminal takes the
excess from its widest columns.
-/

namespace WebBaseline.Display

namespace Grid

def naturalWidths (g : Grid) : List Nat :=
  g.rows.foldl (fun widths row ↦ List.zipWith max widths (row.map widest))
    (g.columns.map fun c ↦ widest c.header)

def total (widths : List Nat) : Nat := widths.foldl (· + ·) 0

/-- A quotient rounded to the nearest number, a half to the even one. -/
def roundedQuotient (n d : Nat) : Nat :=
  let q := n / d
  let r := n % d
  if 2 * r < d then q else if d < 2 * r then q + 1 else if q % 2 = 0 then q else q + 1

/-- Takes an excess from the columns that have the largest width, as evenly as can be and no more
than a given number of cells from each.  The columns that are left to take from are counted. -/
def takeFrom (largest most : Nat) : Nat → Nat → List Nat → List Nat
  | _, _, [] => []
  | excess, count, w :: rest =>
      if w = largest then
        let share := min most (roundedQuotient excess count)
        (w - share) :: takeFrom largest most (excess - share) (count - 1) rest
      else w :: takeFrom largest most excess count rest

/-- Widths made smaller until they fit.  The steps are bounded by the sum of the widths, since each
step makes it smaller. -/
def fitted (available : Nat) : Nat → List Nat → List Nat
  | 0, widths => widths
  | steps + 1, widths =>
      let excess := total widths - available
      if excess = 0 then widths
      else
        let largest := widths.foldl max 0
        let second := (widths.filter (· ≠ largest)).foldl max 0
        fitted available steps
          (takeFrom largest (min excess (largest - second)) excess (widths.count largest) widths)

def borders (g : Grid) : Nat := g.columns.length + 1

/-- The widths of the columns without the spaces at the sides. -/
def widths (width : Nat) (g : Grid) : List Nat :=
  let available := width - g.borders
  let natural := g.naturalWidths.map fun w ↦ min available (w + 2)
  (fitted available (total natural) natural).map (· - 2)

def totalWidth (width : Nat) (g : Grid) : Nat :=
  total ((g.widths width).map (· + 2)) + g.borders

def rule (left line cross right : Char) (widths : List Nat) : List Char :=
  left :: [cross].intercalate (widths.map fun w ↦ List.replicate (w + 2) line) ++ [right]

def rowLine (edge : Char) (cells : List (List Char)) : List Char :=
  edge :: ' ' :: [' ', edge, ' '].intercalate cells ++ [' ', edge]

/-- The lines of a row: as many as its highest cell has. -/
def rowLines (edge : Char) (widths : List Nat) (placings : List Placing)
    (row : List (List Char)) : List (List Char) :=
  let cells := (widths.zip (placings.zip row)).map fun (w, placing, cell) ↦
    (w, laidOut w placing .dots cell)
  let height := (cells.map fun c ↦ c.2.length).foldl max 1
  (List.range height).map fun i ↦ rowLine edge (cells.map fun c ↦ c.2.getD i (spaces c.1))

def lines (width : Nat) (g : Grid) : List (List Char) :=
  let widths := g.widths width
  let placings := g.columns.map (·.placing)
  (match g.title with
      | some title => laidOut (g.totalWidth width) .centre .fold title
      | none => []) ++
    [rule '┏' '━' '┳' '┓' widths] ++
    rowLines '┃' widths placings (g.columns.map (·.header)) ++
    [rule '┡' '━' '╇' '┩' widths] ++
    g.rows.flatMap (rowLines '│' widths placings) ++
    [rule '└' '─' '┴' '┘' widths]

/-- The columns of a grid, as wide as their widest cells, fit a width. -/
def FitsIn (width : Nat) (g : Grid) : Prop :=
  total (g.naturalWidths.map (· + 2)) + g.borders ≤ width

instance (width : Nat) (g : Grid) : Decidable (g.FitsIn width) :=
  inferInstanceAs (Decidable (_ ≤ _))

end Grid

/-- A terminal of some width, which shows no colours. -/
def terminal (width : Nat) : Console where
  shown := shown
  escaped := escaped
  emoji? := emoji?
  wrapped := laidOut width .free .fold
  drawn := Grid.lines width
  Fits := Grid.FitsIn width

end WebBaseline.Display

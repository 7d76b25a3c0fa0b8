/-!
# Consoles

A program hands a console tagged texts and grids of them.  What a console makes of a tagged text,
and how it breaks and draws what is shown, is left open here: a console is given by its answers.
-/

namespace WebBaseline.Display

inductive TagFault where
  | nothingToClose
  deriving DecidableEq

inductive Placing where
  | free
  | left
  | centre
  deriving DecidableEq

structure Column where
  header : List Char
  placing : Placing := .left

structure Grid where
  title : Option (List Char)
  columns : List Column
  rows : List (List (List Char))

structure Console where
  /-- what a tagged text shows -/
  shown : String → Except TagFault (List Char)
  /-- a text written so that its tags are shown -/
  escaped : String → String
  /-- what a name between two colons stands for -/
  emoji? : List Char → Option (List Char)
  /-- the lines of a text that is shown -/
  wrapped : List Char → List (List Char)
  /-- the lines of a grid -/
  drawn : Grid → List (List Char)
  /-- whether there is room for a grid as wide as its texts -/
  Fits : Grid → Prop

/-- Controls that are never shown: bell, backspace, vertical tab, form feed and return. -/
def isStripped (c : Char) : Bool :=
  c = '\x07' || c = '\x08' || c = '\x0b' || c = '\x0c' || c = '\r'

def endsLine (c : Char) : Bool :=
  let n := c.toNat
  (10 ≤ n && n ≤ 13) || (0x1c ≤ n && n ≤ 0x1e) || n = 0x85 || n = 0x2028 || n = 0x2029

/-- A cell of a grid: a tagged text, or a text that has no tags whatever it looks like. -/
inductive Cell where
  | tagged (s : String)
  | plain (s : String)

namespace Console

def print (c : Console) (s : String) : Except TagFault (List (List Char)) :=
  (c.shown s).map c.wrapped

def cell (c : Console) : Cell → Except TagFault (List Char)
  | .tagged s => c.shown s
  | .plain s => .ok s.toList

def row (c : Console) : List Cell → Except TagFault (List (List Char))
  | [] => .ok []
  | cell :: rest => do
      let first ← c.cell cell
      let more ← c.row rest
      return first :: more

def rows (c : Console) : List (List Cell) → Except TagFault (List (List (List Char)))
  | [] => .ok []
  | cells :: rest => do
      let first ← c.row cells
      let more ← c.rows rest
      return first :: more

def columns (c : Console) : List (String × Placing) → Except TagFault (List Column)
  | [] => .ok []
  | (name, placing) :: rest => do
      let header ← c.shown name
      let more ← c.columns rest
      return { header, placing } :: more

/-- A grid of cells under tagged headers.  An empty title takes no line. -/
def grid (c : Console) (title : String) (headers : List (String × Placing))
    (cells : List (List Cell)) : Except TagFault Grid := do
  let heading ← c.shown title
  let columns ← c.columns headers
  let rows ← c.rows cells
  return { title := if title.isEmpty then none else some heading, columns, rows }

end Console

end WebBaseline.Display

/-!
# Character streams of YAML documents

A stream is an array of characters with the line and column of every position.  Only printable
characters can stand in a document.
-/

namespace WebBaseline.Yaml

inductive Fault where
  /-- the text is no YAML document, or an entry of it has no meaning -/
  | malformed
  /-- a number or a date that does not exist -/
  | badValue
  /-- a word that should be yes or no -/
  | badTruth
  /-- an empty number -/
  | emptyNumber
  /-- a text that should be a date -/
  | badDate
  /-- the number of a character that is far too large -/
  | hugeCharacter
  deriving Repr, DecidableEq

def isPrintable (c : Char) : Bool :=
  let n := c.toNat
  n == 9 || n == 10 || n == 13 || (0x20 ≤ n && n ≤ 0x7E) || n == 0x85 || (0xA0 ≤ n && n ≤ 0xD7FF) ||
    (0xE000 ≤ n && n ≤ 0xFFFD) || 0x10000 ≤ n

def isBreak (c : Char) : Bool :=
  c == '\r' || c == '\n' || c == '\u0085' || c == '\u2028' || c == '\u2029'

structure Stream where
  chars : Array Char
  lines : Array Nat
  columns : Array Nat

namespace Stream

/-- Lines and columns from a position on.  The two characters of a line end count as one, and a
mark of byte order takes no column. -/
def measure : List Char → Nat → Nat → Array Nat → Array Nat → Array Nat × Array Nat
  | [], line, column, lines, columns => (lines.push line, columns.push column)
  | c :: rest, line, column, lines, columns =>
      let lines := lines.push line
      let columns := columns.push column
      if isBreak c && !(c == '\r' && rest.head? == some '\n') then
        measure rest (line + 1) 0 lines columns
      else if c == '\uFEFF' then measure rest line column lines columns
      else measure rest line (column + 1) lines columns

def ofText (s : String) : Stream :=
  let (lines, columns) := measure s.toList 0 0 #[] #[]
  { chars := s.toList.toArray, lines, columns }

def size (s : Stream) : Nat := s.chars.size

def at? (s : Stream) (i : Nat) : Option Char := s.chars[i]?

def line (s : Stream) (i : Nat) : Nat := s.lines.getD i 0

def column (s : Stream) (i : Nat) : Nat := s.columns.getD i 0

def holds (s : Stream) (i : Nat) (p : Char → Bool) : Bool :=
  match s.at? i with
  | some c => p c
  | none => false

def isAt (s : Stream) (i : Nat) (c : Char) : Bool := s.holds i fun d ↦ d == c

def endsOr (s : Stream) (i : Nat) (p : Char → Bool) : Bool :=
  match s.at? i with
  | some c => p c
  | none => true

def isBlankAt (s : Stream) (i : Nat) : Bool :=
  s.endsOr i fun c ↦ c == ' ' || c == '\t' || isBreak c

def isSpaceAt (s : Stream) (i : Nat) : Bool :=
  s.endsOr i fun c ↦ c == ' ' || isBreak c

def skipWhileFor (s : Stream) (p : Char → Bool) : Nat → Nat → Nat
  | 0, i => i
  | fuel + 1, i => if s.holds i p then s.skipWhileFor p fuel (i + 1) else i

def skipWhile (s : Stream) (p : Char → Bool) (i : Nat) : Nat :=
  s.skipWhileFor p (s.size - i) i

def skipSpaces (s : Stream) (i : Nat) : Nat := s.skipWhile (fun c ↦ c == ' ') i

def skipComment (s : Stream) (i : Nat) : Nat :=
  if s.isAt i '#' then s.skipWhile (fun c ↦ !isBreak c) i else i

def slice (s : Stream) (i j : Nat) : List Char := (s.chars.extract i j).toList

/-- The line end at a position: the character it stands for, and the position after it. -/
def lineBreak? (s : Stream) (i : Nat) : Option (Char × Nat) :=
  match s.at? i with
  | some c =>
      if c == '\r' && s.isAt (i + 1) '\n' then some ('\n', i + 2)
      else if c == '\r' || c == '\n' || c == '\u0085' then some ('\n', i + 1)
      else if c == '\u2028' || c == '\u2029' then some (c, i + 1)
      else none
  | none => none

def isMarker (s : Stream) (c : Char) (i : Nat) : Bool :=
  s.isAt i c && s.isAt (i + 1) c && s.isAt (i + 2) c && s.isBlankAt (i + 3)

def isSeparator (s : Stream) (i : Nat) : Bool :=
  s.isMarker '-' i || s.isMarker '.' i

end Stream

end WebBaseline.Yaml

import WebBaseline.Syntax.Node

/-!
# Source texts

A text as an array of characters, with the byte offset and the point of every position.
-/

namespace WebBaseline.Reading

open Syntax

structure Source where
  chars : Array Char
  /-- byte offset of every position, the end included -/
  offsets : Array Nat
  /-- row and column of every position, the end included -/
  points : Array Point
  bytes : ByteArray

namespace Source

def measure (chars : List Char) (offset : Nat) (point : Point)
    (offsets : Array Nat) (points : Array Point) : Array Nat × Array Point :=
  match chars with
  | [] => (offsets.push offset, points.push point)
  | c :: rest =>
      let next : Point :=
        if c = '\n' then { row := point.row + 1, column := 0 }
        else { row := point.row, column := point.column + c.utf8Size }
      measure rest (offset + c.utf8Size) next (offsets.push offset) (points.push point)

def ofText (s : String) : Source :=
  let cs := s.toList
  let (offsets, points) := measure cs 0 { row := 0, column := 0 } #[] #[]
  { chars := cs.toArray, offsets, points, bytes := s.toUTF8 }

def size (s : Source) : Nat := s.chars.size

def offset (s : Source) (i : Nat) : Nat := s.offsets.getD i 0

def point (s : Source) (i : Nat) : Point := s.points.getD i { row := 0, column := 0 }

def at? (s : Source) (i : Nat) : Option Char := s.chars[i]?

def holds (s : Source) (i : Nat) (p : Char → Bool) : Bool :=
  match s.at? i with
  | some c => p c
  | none => false

def isAt (s : Source) (i : Nat) (c : Char) : Bool := s.holds i fun d ↦ d == c

def startsAt (s : Source) (i : Nat) : List Char → Bool
  | [] => true
  | c :: rest => s.isAt i c && s.startsAt (i + 1) rest

/-- The first position from `i` on whose character lacks a property, at most `fuel` away. -/
def skipWhileFor (s : Source) (p : Char → Bool) : Nat → Nat → Nat
  | 0, i => i
  | fuel + 1, i => if s.holds i p then s.skipWhileFor p fuel (i + 1) else i

def skipWhile (s : Source) (p : Char → Bool) (i : Nat) : Nat :=
  s.skipWhileFor p (s.size - i) i

def slice (s : Source) (i j : Nat) : String :=
  String.ofList (s.chars.extract i j).toList

def node (s : Source) (kind : String) (named : Bool) (i j : Nat) (fields : List (String × Nat))
    (children : List Node) : Node :=
  .mk kind named false (s.offset i) (s.offset j) (s.point i) fields children

end Source

end WebBaseline.Reading

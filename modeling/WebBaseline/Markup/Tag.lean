import WebBaseline.Markup.Reference
import WebBaseline.Reading.Source
import WebBaseline.Text.Case

/-!
# Tags of pages

How far a start tag reaches and which attributes it has.  A value may stand in quotes or without
them; a quote that is never closed belongs to no value.
-/

namespace WebBaseline.Markup

open Reading Text

structure Tag where
  name : String
  /-- attributes as written, with repetitions -/
  attributes : List (String × String)
  /-- position of its opening bracket -/
  start : Nat
  deriving Repr

def endsTagName (c : Char) : Bool :=
  c == '\t' || c == '\n' || c == '\r' || c == '\x0c' || c == ' ' || c == '/' || c == '>' ||
    c == '\x00'

def tagNameEnd (s : Source) (i : Nat) : Nat :=
  s.skipWhile (fun c ↦ !endsTagName c) i

def findChar (s : Source) (c : Char) (i : Nat) : Option Nat :=
  let j := s.skipWhile (fun d ↦ d != c) i
  if j < s.size then some j else none

/-- White space and slashes, but not the slash right before a closing bracket. -/
def skipLoose (s : Source) : Nat → Nat → Nat
  | 0, i => i
  | fuel + 1, i =>
      if s.holds i isBlank || (s.isAt i '/' && !s.isAt (i + 1) '>') then skipLoose s fuel (i + 1)
      else i

def isQuote (c : Char) : Bool := c == '"' || c == '\''

/-- Where an attribute value starts and ends, its quotes apart, and the position after it. -/
structure ValueSpan where
  first : Nat
  last : Nat
  after : Nat

def bareValue (s : Source) (i : Nat) : ValueSpan :=
  let j := s.skipWhile (fun c ↦ c != '>' && !isBlank c) i
  { first := i, last := j, after := j }

/-- The value at a position: in quotes if they are closed, else without. -/
def valueAt? (s : Source) (i : Nat) : Option ValueSpan :=
  match s.at? i with
  | some q =>
      if isQuote q then
        (findChar s q (i + 1)).map fun j ↦ { first := i + 1, last := j, after := j + 1 }
      else some (bareValue s i)
  | none => some (bareValue s i)

/-- The value after the name of an attribute.  If an open quote stands in its place, the value is
empty before white space, or starts at the last of several equals signs. -/
def attributeValue? (s : Source) (nameEnd : Nat) : Option ValueSpan :=
  let sign := s.skipWhile isBlank nameEnd
  let afterSign := s.skipWhile (fun c ↦ c == '=') sign
  if sign < afterSign then
    let start := s.skipWhile isBlank afterSign
    match valueAt? s start with
    | some v => some v
    | none =>
        if afterSign < start then
          some { first := start - 1, last := start - 1, after := start - 1 }
        else if sign + 1 < afterSign then some (bareValue s (afterSign - 1))
        else none
  else none

def attributeAt? (s : Source) (i : Nat) : Option ((String × Option String) × Nat) :=
  let separated := 0 < i && s.holds (i - 1) fun c ↦ isQuote c || isBlank c || c == '/'
  if separated && s.holds i fun c ↦ !isBlank c && c != '/' && c != '>' then
    let nameEnd := s.skipWhile (fun c ↦ !isBlank c && c != '/' && c != '=' && c != '>') (i + 1)
    let name := s.slice i nameEnd
    match attributeValue? s nameEnd with
    | some v => some ((name, some (s.slice v.first v.last)), skipLoose s (s.size - v.after) v.after)
    | none => some ((name, none), skipLoose s (s.size - nameEnd) nameEnd)
  else none

def attributesFrom (s : Source) (limit : Nat) :
    Nat → Nat → List (String × String) → List (String × String) × Nat
  | 0, i, acc => (acc.reverse, i)
  | fuel + 1, i, acc =>
      if i < limit then
        match attributeAt? s i with
        | some ((name, value), j) =>
            attributesFrom s limit fuel j ((lower name, (value.map resolve).getD "") :: acc)
        | none => (acc.reverse, i)
      else (acc.reverse, i)

/-- The position behind all that can belong to a start tag but its closing bracket. -/
def bodyEnd (s : Source) (i : Nat) : Nat :=
  let afterName := tagNameEnd s (i + 1)
  let start := s.skipWhile (fun c ↦ isBlank c || c == '/') afterName
  let (_, j) := attributesFrom s s.size (s.size - start + 1) start []
  s.skipWhile isBlank j

/-- The position after the start tag at a position, or none if the page may end inside it. -/
def startTagEnd? (s : Source) (i : Nat) : Option Nat :=
  let j := bodyEnd s i
  match s.at? j with
  | none => none
  | some c =>
      if c = '>' then some (j + 1)
      else if c = '/' then if s.isAt (j + 1) '>' then some (j + 2) else none
      else if c.isAlpha || c = '=' then none
      else some j

inductive StartTag where
  /-- plain text -/
  | nothing
  | tag (t : Tag) (selfClosing : Bool)

def startTag (s : Source) (i stop : Nat) : StartTag :=
  let nameEnd := tagNameEnd s (i + 1)
  let name := lower (s.slice (i + 1) nameEnd)
  let first := skipLoose s (s.size - nameEnd) nameEnd
  let (attributes, k) := attributesFrom s stop (s.size - first + 1) first []
  let closing := trim (s.slice k stop)
  if closing = ">" then .tag { name, attributes, start := i } false
  else if closing = "/>" then .tag { name, attributes, start := i } true
  else .nothing

end WebBaseline.Markup

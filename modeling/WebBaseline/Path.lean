/-!
# Paths

A path is a root, which is empty, one slash or two, and the names below it.  Empty names and
single dots say nothing and are dropped; two dots are kept.
-/

namespace WebBaseline

structure Path where
  root : String
  parts : List String
  deriving Repr, DecidableEq, Inhabited

namespace Path

/-- The pieces of a text between slashes, with the piece read so far in reverse. -/
def splitSlash : List Char → List Char → List (List Char)
  | [], current => [current.reverse]
  | '/' :: rest, current => current.reverse :: splitSlash rest []
  | c :: rest, current => splitSlash rest (c :: current)

def rootOf : List Char → String
  | '/' :: '/' :: '/' :: _ => "/"
  | '/' :: '/' :: _ => "//"
  | '/' :: _ => "/"
  | _ => ""

/-- The names of a text between its slashes, with those that say nothing. -/
def pieces (s : String) : List String :=
  (splitSlash s.toList []).map String.ofList

def ofText (s : String) : Path :=
  { root := rootOf s.toList
    parts := (pieces s).filter fun p ↦ p ≠ "" ∧ p ≠ "." }

def toText (p : Path) : String :=
  if p.root = "" && p.parts.isEmpty then "." else p.root ++ "/".intercalate p.parts

instance : ToString Path := ⟨toText⟩

def isAbsolute (p : Path) : Bool := p.root ≠ ""

/-- A path taken relative to another one, unless it is absolute. -/
def join (base p : Path) : Path :=
  if p.isAbsolute then p else { base with parts := base.parts ++ p.parts }

def below (base : Path) (names : List String) : Path :=
  { base with parts := base.parts ++ names }

def child (base : Path) (name : String) : Path :=
  { base with parts := base.parts ++ [name] }

def parent (p : Path) : Path :=
  { p with parts := p.parts.dropLast }

/-- The last name, empty when there is none. -/
def name (p : Path) : String :=
  p.parts.getLastD ""

def afterLastDot : List Char → Option (List Char)
  | [] => none
  | c :: rest =>
      match afterLastDot rest with
      | some tail => some tail
      | none => if c = '.' then some (c :: rest) else none

/-- The ending of a name: its last dot and what follows, provided that something stands before
the dot and something after it. -/
def suffixOfName (name : String) : String :=
  let cs := name.toList
  match afterLastDot cs with
  | some tail => if tail.length < cs.length && 1 < tail.length then String.ofList tail else ""
  | none => ""

def suffix (p : Path) : String :=
  suffixOfName p.name

end Path

end WebBaseline

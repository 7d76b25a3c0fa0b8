import WebBaseline.Script.Token

/-!
# Phrases of scripts

The readers of the constructs that contain each other are tied together by one function from
phrases to readers.  Each construct is a definition of its own that takes that function.

Before its closing bracket has been seen, a list in brackets may turn out to be a pattern; the role
of an expression says what it can still become.
-/

namespace WebBaseline.Script

open Syntax Reading Reader

/-- What an expression can stand for besides a value. -/
inductive Role where
  /-- a name, a member or an element: something to assign to -/
  | target
  /-- an expression in brackets, which can be assigned to but is no part of a pattern -/
  | grouped
  /-- a list or an object that can be a pattern as well -/
  | literal
  /-- a pattern, and no expression -/
  | pattern
  /-- an assignment, which inside a pattern gives a default -/
  | defaulted
  /-- a value and nothing else -/
  | value
  deriving Repr, DecidableEq

namespace Role

def isPatternPart : Role → Bool
  | target | literal | pattern | defaulted => true
  | grouped | value => false

def isAssignable : Role → Bool
  | target | grouped | literal | pattern => true
  | defaulted | value => false

/-- The role of a list or an object with such parts; none if some part is only a pattern and
another one is none. -/
def ofParts? (parts : List Role) : Option Role :=
  if parts.all isPatternPart then
    some (if parts.contains pattern then pattern else literal)
  else if parts.contains pattern then none
  else some value

end Role

structure Expr where
  node : Node
  role : Role

inductive Phrase where
  /-- an expression that may turn out to be a pattern; `results` allows a function in it to say
  what it gives back -/
  | cover (results : Bool)
  /-- an expression without a binary operator of its own -/
  | operand (results : Bool)
  /-- a list or an object -/
  | literal
  /-- parameters in brackets -/
  | parameters
  | type
  | statement
  /-- an element in angle brackets -/
  | element
  deriving Repr, DecidableEq

/-- The readers of all phrases, one level further in. -/
abbrev Inner : Type := Phrase → Part Expr

def plainly (x : Part Node) : Part Expr := do
  let node ← x
  return { node, role := .value }

namespace Inner

variable (inner : Inner)

/-- An expression without commas at its top. -/
def expression : Part Node := do
  let e ← inner (.cover true)
  require (e.role != .pattern)
  return e.node

def sequence : Part Node := do
  let first ← inner.expression
  let rest ← many do
    symbol ","
    inner.expression
  if rest.isEmpty then return first
  else
    joined "sequence_expression" first (first :: rest)

def type : Part Node := do
  let e ← inner .type
  return e.node

def statement : Part Node := do
  let e ← inner .statement
  return e.node

def parameters : Part Node := do
  let e ← inner .parameters
  return e.node

def element : Part Node := do
  let e ← inner .element
  return e.node

def block : Part Node :=
  construct "statement_block" do
    symbol "\x7b"
    let body ← many inner.statement
    symbol "\x7d"
    return body

end Inner

/-- Only where types are written. -/
def typedOnly {α : Type} (x : Part α) : Part α := do
  let d ← dialect
  require d.typed
  x

def whenThere (x : Part Node) : Part (List Node) := do
  let n ← maybe x
  return n.toList

def propertyName (inner : Inner) : Part Node :=
  anyName "property_identifier" <|> privateName <|> quotedText <|> number <|>
    construct "computed_property_name" do
      symbol "["
      let e ← inner.expression
      symbol "]"
      return [e]

/-- A node for what two dots or more join: all but the last joint are members. -/
def memberOf (kind : String) (object property : Node) : Node :=
  .mk kind true false object.first property.last object.start [("object", 0), ("property", 1)]
    [object, property]

def dotted (outer : String) (first : Node) : List Node → Node
  | [] => first
  | [last] => memberOf outer first last
  | property :: rest => dotted outer (memberOf "member_expression" first property) rest

end WebBaseline.Script

import WebBaseline.Script.Function

/-!
# Elements in scripts

Elements in angle brackets are values.  A name with dots is a member, in the opening and in the
closing bracket alike.
-/

namespace WebBaseline.Script

open Syntax Reading Reader

def tagNameEnd? (s : Source) (i : Nat) : Option Nat :=
  match nameEnd? s i with
  | some j => some (if s.isAt j '-' then s.skipWhile (fun c ↦ isNameChar c || c == '-') j else j)
  | none => none

def tagWord (kind : String) : Part Node := do
  let src ← source
  let i ← next
  match tagNameEnd? src i with
  | some j => spanTo kind true i j
  | none => failure

/-- The name of an element or an attribute with a colon in it, or without one. -/
def colonName (kind : String) : Part Node := do
  let first ← tagWord kind
  let second ← maybe do
    symbol ":"
    tagWord kind
  match second with
  | some n => joined "jsx_namespace_name" first [first, n]
  | none => return first

def elementName : Part Node := do
  let first ← colonName "identifier"
  let names ← many do
    symbol "."
    anyName "property_identifier"
  return dotted "member_expression" first names

def embedded (inner : Inner) : Part Node :=
  construct "jsx_expression" do
    symbol "\x7b"
    let e ← maybe
      ((construct "spread_element" do
          symbol "..."
          let e ← inner.expression
          return [e]) <|>
        inner.sequence)
    symbol "\x7d"
    return e.toList

/-- A text in quotes, line ends included. -/
def attributeText : Part Node := do
  let src ← source
  let i ← next
  match src.at? i with
  | some quote =>
      require (quote == '"' || quote == '\'')
      let j := src.skipWhile (fun c ↦ c != quote) (i + 1)
      require (src.isAt j quote)
      spanTo "string" true i (j + 1)
  | none => failure

def elementAttribute (inner : Inner) : Part Node :=
  embedded inner <|>
    construct "jsx_attribute" do
      let name ← colonName "property_identifier"
      let value ← maybe do
        symbol "="
        attributeText <|> embedded inner <|> inner.element
      return name :: value.toList

def elementText : Part (List Node) := do
  let src ← source
  let i ← position
  let j := src.skipWhile
    (fun c ↦ c != '<' && c != '>' && c != '\x7b' && c != '\x7d') i
  require (decide (i < j))
  moveTo j
  return []

def elementChild (inner : Inner) : Part (List Node) :=
  elementText <|> do
    let src ← source
    let i ← position
    if src.isAt i '\x7b' then
      let e ← embedded inner
      return [e]
    else
      require (src.isAt i '<' && !src.isAt (i + 1) '/')
      let e ← inner.element
      return [e]

/-- What stands between the opening of an element and its end, with the name that closes it. -/
def elementRest (inner : Inner) : Part (List Node) := do
  let children ← many (elementChild inner)
  symbol "</"
  let name ← whenThere elementName
  symbol ">"
  return children.flatten ++ name

def element (inner : Inner) : Part Node :=
  construct "jsx_element" do
    symbol "<"
    let fragment ← taken (symbol ">")
    if fragment then elementRest inner
    else
      let name ← elementName
      let types ← maybe (typedOnly (typeArguments inner))
      let attributes ← many (elementAttribute inner)
      let closed ← taken (symbol "/>")
      let rest ← if closed then pure [] else do
        symbol ">"
        elementRest inner
      return name :: types.toList ++ attributes ++ rest

end WebBaseline.Script

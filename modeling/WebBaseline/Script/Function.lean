import WebBaseline.Script.Type

/-!
# Functions, classes and literals of scripts

Everything that has parameters or a body in braces, and the lists and objects that can hold
functions.
-/

namespace WebBaseline.Script

open Syntax Reading Reader

/-! ### Decorators -/

def callOf (function : Node) (parts : List Node) : Part Node := do
  let src ← source
  let j ← position
  return .mk "call_expression" true false function.first (src.offset j) function.start
    [("function", 0)] (function :: parts)

/-- Values in brackets, any of which may be left out. -/
def arguments (inner : Inner) : Part Node :=
  construct "arguments" do
    symbol "("
    let argument : Part (List Node) :=
      (do
        let spread ← construct "spread_element" do
          symbol "..."
          let e ← inner.expression
          return [e]
        return [spread]) <|>
      (do
        let e ← inner.expression
        return [e]) <|>
      pure []
    let first ← argument
    let rest ← many do
      symbol ","
      argument
    symbol ")"
    return first ++ rest.flatten

def decorator (inner : Inner) : Part Node :=
  construct "decorator" do
    symbol "@"
    let first ← identifier <|> typedOnly (construct "parenthesized_expression" do
      symbol "("
      let e ← inner.expression
      symbol ")"
      return [e])
    let names ← many do
      symbol "."
      anyName "property_identifier" <|> privateName
    let whole := dotted "member_expression" first names
    let given ← maybe do
      let types ← (typedOnly (whenThere (typeArguments inner))) <|> pure []
      let values ← arguments inner
      return types ++ [values]
    match given with
    | some parts =>
        let c ← callOf whole parts
        return [c]
    | none => return [whole]

def decorators (inner : Inner) : Part (List Node) :=
  many (decorator inner)

/-! ### Patterns and parameters -/

def binding (inner : Inner) : Part Node :=
  identifier <|> do
    let e ← inner .literal
    require e.role.isPatternPart
    return e.node

def initializer (inner : Inner) : Part Node := do
  let _ ← exactly "="
  inner.expression

/-- A word before a parameter that makes it a field as well. -/
def parameterModifier : Part Unit := do
  let text ← peekName
  require (["public", "private", "protected", "readonly", "override", "declare"].contains text)
  let _ ← word text
  let sign ← peekSign
  let name ← peekName
  require (name != "" || ["[", "\x7b"].contains sign)

def parameter (inner : Inner) : Part Node :=
  construct "parameter" do
    let marks ← decorators inner
    let _ ← maybe (typedOnly (many parameterModifier))
    let rest ← maybe (symbol "...")
    let name ← (typedOnly (namedWord "this")) <|> binding inner
    let type ← maybe (typedOnly do
      let _ ← maybe (symbol "?")
      whenThere (typeMark inner))
    let default ← if rest.isSome then pure none else maybe (initializer inner)
    return marks ++ name :: type.getD [] ++ default.toList

def parameters (inner : Inner) : Part Node :=
  construct "formal_parameters" do
    symbol "("
    let ps ← separated (parameter inner) (symbol ",")
    let _ ← maybe (symbol ",")
    symbol ")"
    return ps

def signature (inner : Inner) : Part (List Node) := do
  let generic ← maybe (typedOnly (typeParameters inner))
  let ps ← parameters inner
  let result ← maybe (typedOnly (resultMark inner))
  return generic.toList ++ ps :: result.toList

/-- A body, or where types are written the end of a function that has none. -/
def bodyOrEnd (inner : Inner) : Part (List Node) :=
  (do
    let b ← inner.block
    return [b]) <|>
  typedOnly do
    semicolon false
    return []

def functionDefinition (inner : Inner) (needsName : Bool) : Part Node :=
  construct "function" do
    let _ ← maybe (word "async")
    let _ ← word "function"
    let _ ← maybe (symbol "*")
    let name ← if needsName then do
        let n ← identifier
        pure [n]
      else whenThere identifier
    let parts ← signature inner
    let body ← if needsName then bodyOrEnd inner else do
        let b ← inner.block
        pure [b]
    return name ++ parts ++ body

/-! ### Members of objects and classes -/

def nameFollows : Part Unit := do
  let src ← source
  let i ← next
  require ((nameEnd? src i).isSome || src.holds i fun c ↦
    c == '[' || c == '#' || c == '"' || c == '\'' || c.isDigit || c == '*')

def modifier (texts : List String) : Part Unit := do
  let text ← peekName
  require (texts.contains text)
  let _ ← word text
  nameFollows

def method (inner : Inner) : Part Node :=
  construct "method_definition" do
    let _ ← many (modifier ["async", "get", "set"])
    let _ ← maybe (symbol "*")
    let name ← propertyName inner
    let _ ← maybe (typedOnly (sign "?"))
    let parts ← signature inner
    let body ← inner.block
    return name :: parts ++ [body]

/-- One entry of an object, and the role it leaves open. -/
def entry (inner : Inner) : Part Expr :=
  firstOf
    [(do
        let src ← source
        let i ← next
        symbol "..."
        let e ← inner (.cover true)
        let j ← position
        return { node := src.node "spread_element" true i j [] [e.node], role := e.role }),
     plainly (method inner),
     (do
        let src ← source
        let i ← next
        let name ← propertyName inner
        symbol ":"
        let e ← inner (.cover true)
        let j ← position
        return { node := src.node "pair" true i j [] [name, e.node], role := e.role }),
     (do
        let src ← source
        let i ← next
        let _ ← identifier
        let k ← position
        let name := src.node "shorthand_property_identifier" true i k [] []
        let default ← maybe (initializer inner)
        match default with
        | none => return { node := name, role := .target }
        | some e =>
            let j ← position
            let node := src.node "object_assignment_pattern" true i j [] [name, e]
            return { node, role := .pattern })]

def literal (inner : Inner) : Part Expr := do
  let src ← source
  let i ← next
  let object := src.isAt i '\x7b'
  require (object || src.isAt i '[')
  moveTo (i + 1)
  let part : Part (List Expr) :=
    (do
      let e ←
        if object then entry inner
        else
          (do
            let k ← next
            symbol "..."
            let e ← inner (.cover true)
            let j ← position
            return { node := src.node "spread_element" true k j [] [e.node], role := e.role }) <|>
          inner (.cover true)
      return [e]) <|>
    pure []
  let first ← part
  let rest ← many do
    symbol ","
    part
  symbol (if object then "\x7d" else "]")
  let j ← position
  let parts := first ++ rest.flatten
  match Role.ofParts? (parts.map (·.role)) with
  | some role =>
      let kind := if object then "object" else "array"
      return { node := src.node kind true i j [] (parts.map (·.node)), role }
  | none => failure

/-! ### Classes -/

def classModifiers : List String :=
  ["static", "async", "get", "set", "accessor", "declare", "public", "private", "protected",
   "override", "readonly", "abstract"]

def modifiersOf (d : Dialect) : List String :=
  if d.typed then classModifiers else classModifiers.take 5

def fieldTail (inner : Inner) : Part (List Node) := do
  let type ← maybe (typedOnly (typeMark inner))
  let first ← maybe (initializer inner)
  semicolon first.isSome
  return type.toList ++ first.toList

/-- A method of a class, which needs no body where types are written. -/
def methodTail (inner : Inner) : Part (List Node) := do
  let parts ← signature inner
  let body ← bodyOrEnd inner
  let _ ← maybe (symbol ";")
  return parts ++ body

def classMember (inner : Inner) : Part Node :=
  firstOf
    [construct "class_static_block" do
       let _ ← word "static"
       let b ← inner.block
       return [b],
     typedOnly do
       let _ ← many (modifier classModifiers)
       let m ← indexSignature inner
       memberEnd
       return m,
     construct "member" do
       let marks ← decorators inner
       let d ← dialect
       let _ ← many (modifier (modifiersOf d))
       let _ ← maybe (symbol "*")
       let name ← propertyName inner
       let _ ← maybe (typedOnly (sign "?" <|> exactly "!"))
       let rest ← methodTail inner <|> fieldTail inner
       return marks ++ name :: rest]

def classBody (inner : Inner) : Part Node :=
  construct "class_body" do
    symbol "\x7b"
    let members ← many
      ((do
          symbol ";"
          return []) <|>
        (do
          let m ← classMember inner
          return [m]))
    symbol "\x7d"
    return members.flatten

def heritage (inner : Inner) : Part (List Node) := do
  let above ← maybe do
    let _ ← word "extends"
    separated1 inner.expression (symbol ",")
  let promised ← maybe (typedOnly do
    let _ ← word "implements"
    separated1 inner.type (symbol ","))
  return above.getD [] ++ promised.getD []

def classDefinition (inner : Inner) (needsName : Bool) : Part Node :=
  construct "class" do
    let marks ← decorators inner
    let _ ← maybe (typedOnly (word "abstract"))
    let _ ← word "class"
    let name ← if needsName then do
        let n ← identifier
        pure [n]
      else whenThere do
        let text ← peekName
        require (text != "implements")
        identifier
    let generic ← maybe (typedOnly (typeParameters inner))
    let above ← heritage inner
    let body ← classBody inner
    return marks ++ name ++ generic.toList ++ above ++ [body]

end WebBaseline.Script

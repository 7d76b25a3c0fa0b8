import WebBaseline.Script.Element

/-!
# Expressions of scripts

Members and calls bind closest, then what stands before or after an operand, then binary
operators, all of which are read in one row.  An assignment is part of an operand: it reaches as
far to the right as it can.
-/

namespace WebBaseline.Script

open Syntax Reading Reader

/-! ### Arrow functions and brackets -/

def arrowTail (inner : Inner) (results : Bool) : Part Node := do
  let _ ← exactly "=>"
  let sign ← peekSign
  if sign = "\x7b" then inner.block
  else
    let e ← inner (.cover results)
    require (e.role != .pattern)
    return e.node

structure Grouped where
  node : Node
  role : Role
  isRest : Bool

def groupedItem (inner : Inner) : Part Grouped :=
  (do
    let src ← source
    let i ← next
    symbol "..."
    let e ← inner (.cover true)
    let j ← position
    let node := src.node "rest_pattern" true i j [] [e.node]
    return { node, role := e.role, isRest := true }) <|>
  (do
    let e ← inner (.cover true)
    return { node := e.node, role := e.role, isRest := false })

/-- Things in brackets, and whether a comma stands after the last one. -/
def groupedItems (inner : Inner) : Part (List Grouped × Bool) := do
  symbol "("
  let items ← separated (groupedItem inner) (symbol ",")
  let comma ← if items.isEmpty then pure false else taken (symbol ",")
  symbol ")"
  return (items, comma)

/-- A function whose parameters stand in brackets without types, or an expression in brackets. -/
def bracketed (inner : Inner) (results : Bool) : Part Expr := do
  let src ← source
  let i ← next
  let (items, comma) ← groupedItems inner
  let sign ← peekSign
  if sign = "=>" then
    require (items.all fun g ↦ g.role.isPatternPart)
    let body ← arrowTail inner results
    let j ← position
    let node := src.node "arrow_function" true i j [] (items.map (·.node) ++ [body])
    return { node, role := .value }
  else
    require (!comma && !items.isEmpty && items.all fun g ↦ !g.isRest && g.role != .pattern)
    let j ← position
    let node := src.node "parenthesized_expression" true i j [] (items.map (·.node))
    return { node, role := .grouped }

def typedArrow (inner : Inner) (results : Bool) : Part Expr :=
  plainly (construct "arrow_function" do
    let generic ← maybe (typeParameters inner)
    let ps ← inner.parameters
    let result ← if results then whenThere (resultMark inner) else pure []
    let body ← arrowTail inner results
    return generic.toList ++ ps :: result ++ [body])

/-- What starts with an opening bracket.  A colon after it may give the result of a function. -/
def opened (inner : Inner) (results : Bool) : Part Expr := fun scope i ↦
  match bracketed inner results scope i with
  | some (e, j) =>
      if scope.dialect.typed && results && e.role = .grouped &&
          scope.source.isAt (scope.gap scope.source j) ':' then
        match typedArrow inner results scope i with
        | some r => some r
        | none => some (e, j)
      else some (e, j)
  | none => typedOnly (typedArrow inner results) scope i

def nameArrow (inner : Inner) (results : Bool) : Part Expr :=
  plainly (construct "arrow_function" do
    let name ← identifier
    let body ← arrowTail inner results
    return [name, body])

/-- What starts with the word for functions that wait: such a function, or the word as a name. -/
def waiting (inner : Inner) (results : Bool) : Part Expr :=
  firstOf
    [plainly (functionDefinition inner false),
     plainly (construct "arrow_function" do
       let _ ← word "async"
       let e ← nameArrow inner results
       return e.node.children),
     plainly (construct "arrow_function" do
       let _ ← word "async"
       let e ← opened inner results
       require (e.node.kind = "arrow_function")
       return e.node.children),
     plainly (construct "arrow_function" do
       let _ ← word "async"
       let e ← typedOnly (typedArrow inner results)
       return e.node.children)]

/-! ### Operands -/

/-- The node of a word and the member after its dot that belong to the language itself. -/
def metaProperty : Part Node :=
  construct "meta_property" do
    let first ← peekName
    let _ ← word "new" <|> word "import"
    symbol "."
    let second ← peekName
    require ((first = "new" && second = "target") || (first = "import" && second = "meta"))
    let _ ← anyName "property_identifier"
    return []

def constantWords : List String := ["this", "super", "null", "true", "false"]

/-- An operand without anything before or after it. -/
def primary (inner : Inner) (results : Bool) : Part Expr := do
  let src ← source
  let i ← next
  match src.at? i with
  | none => failure
  | some c =>
      if c = '(' then opened inner results
      else if c = '[' || c = '\x7b' then inner .literal
      else if c = '"' || c = '\'' then plainly quotedText
      else if c = '\x60' then plainly (template "template_string" inner.sequence)
      else if c = '/' then plainly regex
      else if c.isDigit || c = '.' then plainly number
      else if c = '#' then plainly privateName
      else if c = '@' then plainly (classDefinition inner false)
      else if c = '<' then
        let d ← dialect
        let assertion : Part Expr := plainly (construct "type_assertion" do
          let t ← typeArguments inner
          let e ← inner (.operand results)
          return [t, e.node])
        if d.tags then
          if d.typed then typedArrow inner results <|> plainly inner.element
          else plainly inner.element
        else if d.typed then typedArrow inner results <|> assertion
        else failure
      else
        let text := nameAt src i
        if constantWords.contains text then plainly (namedWord text)
        else if text = "function" then plainly (functionDefinition inner false)
        else if text = "class" then plainly (classDefinition inner false)
        else if text = "new" then plainly metaProperty
        else if text = "import" then
          plainly (metaProperty <|> do
            let n ← namedWord "import"
            let sign ← peekSign
            require (sign = "(")
            return n)
        else
          let arrow : Part Expr := nameArrow inner results
          let name : Part Expr := do
            let n ← identifier
            return { node := n, role := .target }
          if text = "async" then waiting inner results <|> arrow <|> name
          else arrow <|> name

def memberTail (inner : Inner) (left : Node) : Part Expr := do
  let sign ← peekSign
  if sign = "." then
    symbol "."
    let property ← anyName "property_identifier" <|> privateName
    return { node := memberOf "member_expression" left property, role := .target }
  else if sign = "[" then
    symbol "["
    let index ← inner.sequence
    symbol "]"
    let node ← joined "subscript_expression" left [left, index]
    return { node, role := .target }
  else failure

/-- Whether types in brackets can stand here without a call after them. -/
def instantiationEnds : Part Unit := do
  let src ← source
  let i ← next
  let sign ← peekSign
  let name ← peekName
  require (decide (src.size ≤ i) || name = "implements" ||
    [")", "]", "\x7d", ",", ";", ":", ".", "?.", "\x7b", "=", "==", "===", "!=", "!==", "&&", "||",
      "??", "?", "|", "&", "^"].contains sign)

def tail (inner : Inner) (e : Expr) : Part Expr := do
  let left := e.node
  let sign ← peekSign
  if sign = "(" then
    let given ← arguments inner
    plainly (callOf left [given])
  else if sign = "`" then
    let t ← template "template_string" inner.sequence
    plainly (callOf left [t])
  else if sign = "?." then
    let chain ← exactly "?."
    let next ← peekSign
    if next = "(" then
      let given ← arguments inner
      plainly (callOf left [chain, given])
    else if next = "[" then
      let inside ← memberTail inner left
      return { inside with role := .value }
    else
      let generic ← maybe (typedOnly (typeArguments inner))
      match generic with
      | some types =>
          let given ← arguments inner
          plainly (callOf left [types, given])
      | none =>
          let property ← anyName "property_identifier" <|> privateName
          return { node := memberOf "member_expression" left property, role := .target }
  else if sign = "!" then
    typedOnly do
      sameLine
      let _ ← exactly "!"
      let node ← joined "non_null_expression" left [left]
      return { node, role := .target }
  else if sign = "<" || sign = "<<" then
    typedOnly do
      let types ← typeArguments inner
      let next ← peekSign
      if next = "(" then
        let given ← arguments inner
        plainly (callOf left [types, given])
      else if next = "`" then
        let t ← template "template_string" inner.sequence
        plainly (callOf left [types, t])
      else
        instantiationEnds
        plainly (joined "instantiation_expression" left [left, types])
  else memberTail inner left

/-- A new object: its class without a call in it, and arguments that may be left out. -/
def newObject (inner : Inner) (results : Bool) : Part Node :=
  construct "new_expression" do
    let _ ← word "new"
    let text ← peekName
    let first ←
      if text = "new" then
        plainly metaProperty <|> inner (.operand results)
      else primary inner results
    let whole ← extend (fun e ↦ memberTail inner e.node) first
    let types ← maybe (typedOnly (typeArguments inner))
    let given ← whenThere (arguments inner)
    return whole.node :: types.toList ++ given

def leftHand (inner : Inner) (results : Bool) : Part Expr := do
  let text ← peekName
  let first ←
    if text = "new" then plainly metaProperty <|> plainly (newObject inner results)
    else primary inner results
  if first.node.kind = "arrow_function" then return first
  else extend (tail inner) first

/-! ### Operators -/

def prefixSigns : List String := ["+", "-", "!", "~", "++", "--"]

def prefixWords : List String := ["typeof", "void", "delete", "await"]

def assignmentSigns : List String :=
  ["=", "+=", "-=", "*=", "/=", "%=", "^=", "&=", "|=", ">>=", ">>>=", "<<=", "**=", "&&=", "||=",
   "??="]

def assignment (inner : Inner) (results : Bool) (left : Expr) : Part Expr := do
  require left.role.isAssignable
  let sign ← peekSign
  require (assignmentSigns.contains sign)
  require (sign = "=" || left.role = .target || left.role = .grouped)
  let _ ← exactly sign
  let right ← inner (.cover results)
  require (right.role != .pattern)
  let node ← joined "assignment_expression" left.node [left.node, right.node]
  return { node, role := if sign = "=" && left.role != .grouped then .defaulted else .value }

/-- A step up or down after an operand, on the same line. -/
def updated (e : Expr) : Part Expr :=
  (do
    sameLine
    require (e.role != .pattern)
    let _ ← exactly "++" <|> exactly "--"
    plainly (joined "update_expression" e.node [e.node])) <|> return e

def ascribed (inner : Inner) (e : Expr) : Part Expr :=
  extend (fun left ↦ typedOnly do
    sameLine
    let _ ← word "as" <|> word "satisfies"
    let t ← (do
      let c ← word "const"
      let name ← peekName
      require (name = "")
      return c) <|> inner.type
    plainly (joined "as_expression" left.node [left.node, t])) e

def operand (inner : Inner) (results : Bool) : Part Expr := do
  let sign ← peekSign
  let text ← peekName
  if prefixSigns.contains sign then
    plainly (construct "unary_expression" do
      let _ ← exactly sign
      let e ← inner (.operand results)
      require (e.role != .pattern)
      return [e.node])
  else if prefixWords.contains text then
    plainly (construct "unary_expression" do
      let _ ← word text
      let e ← inner (.operand results)
      require (e.role != .pattern)
      return [e.node])
  else if text = "yield" then
    plainly (construct "yield_expression" do
      let _ ← word "yield"
      let all ← taken (symbol "*")
      let e ← if all then do
          let e ← inner.expression
          pure [e]
        else
          (do
            lineEnds false
            return []) <|> whenThere inner.expression
      return e)
  else
    let first ← leftHand inner results
    let whole ← updated first
    assignment inner results whole <|> return whole

def binarySigns : List String :=
  ["||", "&&", "??", "|", "^", "&", "==", "===", "!=", "!==", "<", "<=", ">", ">=", "<<", ">>",
   ">>>", "+", "-", "*", "/", "%", "**"]

def binaryOperator : Part Unit := do
  let sign ← peekSign
  if binarySigns.contains sign then
    let _ ← exactly sign
    return ()
  else
    let _ ← word "instanceof" <|> word "in"
    return ()

/-- Operands with operators between them, and choices between two values. -/
def cover (inner : Inner) (results : Bool) : Part Expr := do
  let first ← operand inner results
  let first ← ascribed inner first
  extend (fun left ↦ do
    require (left.role != .pattern)
    (do
      binaryOperator
      let right ← inner (.operand results)
      let right ← ascribed inner right
      require (right.role != .pattern)
      plainly (joined "binary_expression" left.node [left.node, right.node])) <|>
    (do
      let _ ← exactly "?"
      let free : Part Expr := do
        let yes ← inner (.cover true)
        let _ ← look (symbol ":")
        return yes
      let yes ← free <|> typedOnly (inner (.cover false))
      require (yes.role != .pattern)
      symbol ":"
      let no ← inner (.cover results)
      require (no.role != .pattern)
      plainly (joined "ternary_expression" left.node [left.node, yes.node, no.node]))) first

end WebBaseline.Script

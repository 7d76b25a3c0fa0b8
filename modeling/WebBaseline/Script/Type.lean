import WebBaseline.Script.Phrase

/-!
# Types in scripts

Types hold no values except the names they are asked of, computed names of members, and defaults
of parameters.
-/

namespace WebBaseline.Script

open Syntax Reading Reader

def typeArguments (inner : Inner) : Part Node :=
  construct "type_arguments" do
    symbol "<"
    let types ← separated1 inner.type (symbol ",")
    let _ ← maybe (symbol ",")
    symbol ">"
    return types

def typeParameter (inner : Inner) : Part Node :=
  construct "type_parameter" do
    let _ ← many do
      let _ ← word "const" <|> word "in" <|> word "out"
      look (anyName "type_identifier")
    let name ← anyName "type_identifier"
    let bound ← maybe do
      let _ ← word "extends"
      inner.type
    let default ← maybe do
      symbol "="
      inner.type
    return name :: bound.toList ++ default.toList

def typeParameters (inner : Inner) : Part Node :=
  construct "type_parameters" do
    symbol "<"
    let parameters ← separated1 (typeParameter inner) (symbol ",")
    let _ ← maybe (symbol ",")
    symbol ">"
    return parameters

def namedType (inner : Inner) : Part Node := do
  let src ← source
  let i ← next
  let text ← peekName
  require
    (!(reserved.contains text) ||
      ["void", "null", "this", "true", "false", "const"].contains text)
  let first ← anyName "type_identifier"
  let more ← many do
    symbol "."
    anyName "property_identifier"
  let name ← match more.reverse with
    | [] => pure first
    | last :: before =>
        let start := src.node "identifier" true i (i + text.length) [] []
        let module := dotted "nested_identifier" start before.reverse
        joined "nested_type_identifier" first [module, last]
  let given ← maybe do
    sameLine
    typeArguments inner
  match given with
  | some a => joined "generic_type" name [name, a]
  | none => return name

/-- What a value is asked of: a name, its members, its elements or what its call gives. -/
def queried (inner : Inner) : Part Node := do
  let first ←
    (do
      let callee ← namedWord "import"
      symbol "("
      let name ← quotedText
      symbol ")"
      let src ← source
      let j ← position
      return .mk "call_expression" true false callee.first (src.offset j) callee.start
        [("function", 0)] [callee, name]) <|>
    namedWord "this" <|> identifier
  let whole ← extend (fun left ↦
    (do
      symbol "."
      let property ← anyName "property_identifier" <|> privateName
      return memberOf "member_expression" left property) <|>
    (do
      sameLine
      symbol "["
      let index ← quotedText <|> number <|> inner.type
      symbol "]"
      joined "subscript_expression" left [left, index])) first
  let given ← maybe do
    sameLine
    typeArguments inner
  match given with
  | some a => joined "instantiation_expression" whole [whole, a]
  | none => return whole

def typeMark (inner : Inner) : Part Node :=
  construct "type_annotation" do
    symbol ":"
    let t ← inner.type
    return [t]

/-- A type that says what a function finds out about a parameter, or just a type. -/
def resultType (inner : Inner) : Part Node :=
  (construct "asserts" do
    let _ ← word "asserts"
    sameLine
    let name ← namedWord "this" <|> identifier
    let found ← maybe do
      let _ ← word "is"
      inner.type
    return name :: found.toList) <|>
  (construct "type_predicate" do
    let name ← namedWord "this" <|> identifier
    sameLine
    let _ ← word "is"
    let t ← inner.type
    return [name, t]) <|>
  inner.type

def resultMark (inner : Inner) : Part Node :=
  construct "type_annotation" do
    symbol ":"
    let t ← resultType inner
    return [t]

def functionType (inner : Inner) : Part Node :=
  construct "function_type" do
    let _ ← maybe do
      let _ ← maybe (word "abstract")
      word "new"
    let generic ← whenThere (typeParameters inner)
    let parameters ← inner.parameters
    let _ ← exactly "=>"
    let result ← resultType inner
    return generic ++ [parameters, result]

def memberEnd : Part Unit :=
  symbol "," <|> symbol ";" <|> lineEnds false

def memberModifier (texts : List String) : Part Unit := do
  let text ← peekName
  require (texts.contains text)
  let _ ← word text
  let sign ← peekSign
  let name ← peekName
  let src ← source
  let i ← next
  require (name != "" || ["[", "*", "#", "\"", "'", "@"].contains sign || src.holds i Char.isDigit)

def signed (x : Part Node) : Part Unit := do
  let _ ← maybe (symbol "+" <|> symbol "-")
  let _ ← x
  return ()

/-- A member under a type of keys. -/
def indexSignature (inner : Inner) : Part Node :=
  construct "index_signature" do
    let _ ← maybe (signed (word "readonly"))
    symbol "["
    let _ ← anyName "identifier"
    let keys ←
      (do
        let t ← typeMark inner
        return [t]) <|>
      (do
        let _ ← word "in"
        let t ← inner.type
        let renamed ← maybe do
          let _ ← word "as"
          inner.type
        return t :: renamed.toList)
    symbol "]"
    let _ ← maybe (signed (sign "?"))
    let t ← maybe (typeMark inner)
    return keys ++ t.toList

def callSignature (inner : Inner) : Part (List Node) := do
  let generic ← whenThere (typeParameters inner)
  let parameters ← inner.parameters
  let result ← whenThere (resultMark inner)
  return generic ++ parameters :: result

def typeMember (inner : Inner) : Part Node :=
  firstOf
    [indexSignature inner,
     construct "call_signature" (callSignature inner),
     construct "construct_signature" do
       let _ ← word "new"
       callSignature inner,
     construct "property_signature" do
       let _ ← many (memberModifier
         ["public", "private", "protected", "static", "override", "readonly", "async", "get",
          "set"])
       let name ← propertyName inner
       let _ ← maybe (symbol "?")
       let rest ← callSignature inner <|> whenThere (typeMark inner)
       return name :: rest]

def objectType (inner : Inner) : Part Node :=
  construct "object_type" do
    symbol "\x7b"
    let _ ← maybe (symbol "," <|> symbol ";")
    let members ← many do
      let m ← typeMember inner
      memberEnd
      return m
    let last ← whenThere (typeMember inner)
    symbol "\x7d"
    return members ++ last

def tupleElement (inner : Inner) : Part Node :=
  construct "tuple_element" do
    let _ ← maybe (symbol "...")
    let named ← maybe do
      let name ← anyName "identifier"
      let _ ← maybe (symbol "?")
      let t ← typeMark inner
      return [name, t]
    match named with
    | some parts => return parts
    | none =>
        let t ← inner.type
        let _ ← maybe (symbol "?")
        return [t]

def tupleType (inner : Inner) : Part Node :=
  construct "tuple_type" do
    symbol "["
    let elements ← separated (tupleElement inner) (symbol ",")
    let _ ← maybe (symbol ",")
    symbol "]"
    return elements

def literalType (inner : Inner) : Part Node :=
  firstOf
    [quotedText,
     number,
     construct "unary_expression" do
       symbol "-" <|> symbol "+"
       let n ← number
       return [n],
     template "template_literal_type" inner.type]

/-- A type without operators around it, except those that stand before it.  A type that is found
by comparison may have a bound of its own; where a choice can follow, a question mark after the
bound shows that it belongs to the choice. -/
def simpleType (inner : Inner) (bounded : Bool) : Part Node :=
  firstOf
    [construct "type_query" do
       let _ ← word "typeof"
       let q ← queried inner
       return [q],
     construct "index_type_query" do
       let _ ← word "keyof" <|> word "unique" <|> word "readonly"
       sameLine
       let t ← inner.type
       return [t],
     construct "infer_type" do
       let _ ← word "infer"
       sameLine
       let name ← anyName "type_identifier"
       let bound ← maybe do
         let _ ← word "extends"
         let t ← inner.type
         if !bounded then absent (symbol "?")
         return t
       return name :: bound.toList,
     functionType inner,
     construct "parenthesized_type" do
       symbol "("
       let t ← inner.type
       symbol ")"
       return [t],
     tupleType inner,
     objectType inner,
     literalType inner,
     construct "import_type" do
       let _ ← word "import"
       symbol "("
       let name ← quotedText
       symbol ")"
       let _ ← many do
         symbol "."
         anyName "property_identifier"
       let given ← whenThere (typeArguments inner)
       return name :: given,
     namedType inner,
     construct "existential_type" do
       symbol "*"
       return []]

def arrayType (inner : Inner) (bounded : Bool) : Part Node := do
  let first ← simpleType inner bounded
  extend (fun left ↦ do
    sameLine
    symbol "["
    let index ← whenThere inner.type
    symbol "]"
    joined "array_type" left (left :: index)) first

def unionType (inner : Inner) (bounded : Bool) : Part Node := do
  let joint : Part Node := exactly "|" <|> exactly "&"
  let leading ← maybe joint
  let first ← arrayType inner bounded
  let rest ← many do
    let _ ← joint
    arrayType inner bounded
  if leading.isNone && rest.isEmpty then return first
  else
    joined "union_type" first (first :: rest)

def type (inner : Inner) : Part Node := do
  let first ← unionType inner false
  let choice ← maybe do
    sameLine
    let _ ← word "extends"
    let bound ← unionType inner true
    symbol "?"
    let yes ← inner.type
    symbol ":"
    let no ← inner.type
    return [bound, yes, no]
  match choice with
  | some parts => joined "conditional_type" first (first :: parts)
  | none => return first

end WebBaseline.Script

import WebBaseline.Script.Expression

/-!
# Statements of scripts

Declarations, control flow and the statements by which modules are joined; then the readers of all
phrases, and the syntax tree of a script.  A script that is not read to its end is faulty.
-/

namespace WebBaseline.Script

open Syntax Reading Reader

def condition (inner : Inner) : Part Node :=
  construct "parenthesized_expression" do
    symbol "("
    let e ← inner.sequence
    symbol ")"
    return [e]

/-! ### Declarations -/

/-- The words that declare variables.  Resources are not declared where types are written. -/
def declaringWord : Part Unit := do
  let d ← dialect
  let text ← peekName
  if text = "await" then
    require (!d.typed)
    let _ ← word "await"
    sameLine
    let _ ← word "using"
    sameLine
  else
    require (["var", "let", "const"].contains text || (text = "using" && !d.typed))
    let _ ← word text
    if text = "using" then sameLine

def declarator (inner : Inner) : Part (List Node × Bool) := do
  let name ← binding inner
  let type ← maybe (typedOnly do
    let _ ← maybe (exactly "!")
    whenThere (typeMark inner))
  let first ← maybe (initializer inner)
  return (name :: type.getD [] ++ first.toList, first.isSome)

def declarators (inner : Inner) : Part (List Node × Bool) := do
  let found ← separated1 (declarator inner) (symbol ",")
  return (found.flatMap Prod.fst, (found.getLast?.map Prod.snd).getD false)

def declaredVariables (inner : Inner) : Part Node :=
  construct "variable_declaration" do
    declaringWord
    let (parts, valued) ← declarators inner
    semicolon valued
    return parts

/-! ### Loops -/

def range (inner : Inner) : Part Node := do
  let _ ← word "of" <|> word "in"
  inner.sequence

def rangeHeader (inner : Inner) : Part (List Node) :=
  (do
    declaringWord
    let name ← binding inner
    let type ← maybe (typedOnly (typeMark inner))
    let through ← range inner
    return name :: type.toList ++ [through]) <|>
  (do
    let left ← leftHand inner true
    require left.role.isAssignable
    let through ← range inner
    return [left.node, through])

/-- A loop with a start, a condition and a step, each of which may be left out. -/
def stepHeader (inner : Inner) : Part (List Node) := do
  let first ← (do
      declaringWord
      let (parts, _) ← declarators inner
      return parts) <|> whenThere inner.sequence
  symbol ";"
  let test ← whenThere inner.sequence
  symbol ";"
  let step ← whenThere inner.sequence
  return first ++ test ++ step

def forLoop (inner : Inner) : Part Node :=
  construct "for_statement" do
    let _ ← word "for"
    let _ ← maybe (word "await")
    symbol "("
    let closed (header : Part (List Node)) : Part (List Node) := do
      let parts ← header
      symbol ")"
      return parts
    let header ← closed (rangeHeader inner) <|> closed (stepHeader inner)
    let body ← inner.statement
    return header ++ [body]

def whileLoop (inner : Inner) : Part Node :=
  construct "while_statement" do
    let _ ← word "while"
    let test ← condition inner
    let body ← inner.statement
    return [test, body]

def doLoop (inner : Inner) : Part Node :=
  construct "do_statement" do
    let _ ← word "do"
    let body ← inner.statement
    let _ ← word "while"
    let test ← condition inner
    let _ ← maybe (semicolon false)
    return [body, test]

/-! ### Choices -/

def ifStatement (inner : Inner) : Part Node :=
  construct "if_statement" do
    let _ ← word "if"
    let test ← condition inner
    let yes ← inner.statement
    let no ← maybe do
      let _ ← word "else"
      inner.statement
    return test :: yes :: no.toList

def switchCase (inner : Inner) : Part Node :=
  construct "switch_case" do
    let test ←
      (do
        let _ ← word "case"
        let e ← inner.sequence
        return [e]) <|>
      (do
        let _ ← word "default"
        return [])
    symbol ":"
    let body ← many inner.statement
    return test ++ body

def switchStatement (inner : Inner) : Part Node :=
  construct "switch_statement" do
    let _ ← word "switch"
    let test ← condition inner
    symbol "\x7b"
    let cases ← many (switchCase inner)
    symbol "\x7d"
    return test :: cases

def tryStatement (inner : Inner) : Part Node :=
  construct "try_statement" do
    let _ ← word "try"
    let body ← inner.block
    let handler ← maybe do
      let _ ← word "catch"
      let caught ← maybe do
        symbol "("
        let name ← binding inner
        let type ← maybe (typedOnly (typeMark inner))
        symbol ")"
        return name :: type.toList
      let b ← inner.block
      return caught.getD [] ++ [b]
    let last ← maybe do
      let _ ← word "finally"
      inner.block
    return body :: handler.getD [] ++ last.toList

/-! ### Leaving -/

def optionalValue (value : Part Node) : Part (List Node) :=
  (do
    semicolon false
    return []) <|>
  (do
    let e ← value
    semicolon true
    return [e])

def returnStatement (inner : Inner) : Part Node :=
  construct "return_statement" do
    let _ ← word "return"
    optionalValue inner.sequence

def throwStatement (inner : Inner) : Part Node :=
  construct "throw_statement" do
    let _ ← word "throw"
    let e ← inner.sequence
    semicolon true
    return [e]

def jump : Part Node :=
  construct "jump_statement" do
    let _ ← word "break" <|> word "continue"
    optionalValue (anyName "statement_identifier")

/-! ### Modules -/

def sourceClause (inner : Inner) : Part (List Node) := do
  let name ← quotedText
  let attributes ← maybe do
    let _ ← word "with" <|> word "assert"
    let e ← inner .literal
    return e.node
  return name :: attributes.toList

def fromClause (inner : Inner) : Part (List Node) := do
  let _ ← word "from"
  sourceClause inner

def specifier : Part Node :=
  construct "specifier" do
    let _ ← maybe (typedOnly do
      let _ ← word "type" <|> word "typeof"
      let name ← peekName
      require (name != "" && name != "as")
      return ())
    let name : Part Node := anyName "identifier" <|> quotedText
    let first ← name
    let other ← maybe do
      let _ ← word "as"
      name
    return first :: other.toList

def specifiers : Part Node :=
  construct "named_specifiers" do
    symbol "\x7b"
    let names ← separated specifier (symbol ",")
    let _ ← maybe (symbol ",")
    symbol "\x7d"
    return names

def namespaceName : Part Node :=
  construct "namespace_name" do
    symbol "*"
    let _ ← word "as"
    let name ← anyName "identifier" <|> quotedText
    return [name]

def importClause : Part (List Node) :=
  (do
    let names ← namespaceName <|> specifiers
    return [names]) <|>
  (do
    let first ← identifier
    let more ← maybe do
      symbol ","
      namespaceName <|> specifiers
    return first :: more.toList)

/-- A short name for a member of a namespace, or for a module. -/
def importAlias (inner : Inner) : Part (List Node) :=
  typedOnly do
    let name ← identifier
    let _ ← exactly "="
    let value ←
      (do
        let _ ← word "require"
        let a ← arguments inner
        return a) <|>
      (do
        let first ← identifier
        let names ← many do
          symbol "."
          anyName "property_identifier"
        return dotted "nested_identifier" first names)
    semicolon false
    return [name, value]

def importStatement (inner : Inner) : Part Node :=
  construct "import_statement" do
    let _ ← word "import"
    let whole : Part (List Node) :=
      importAlias inner <|>
      (do
        let parts ←
          (do
            let names ← importClause
            let place ← fromClause inner
            return names ++ place) <|>
          sourceClause inner
        semicolon false
        return parts)
    whole <|> do
      let _ ← typedOnly (word "type" <|> word "typeof") <|> word "source" <|> word "defer"
      whole

def exportedNames (inner : Inner) : Part (List Node) := do
  let parts ←
    (do
      let names ← specifiers
      let place ← maybe (fromClause inner)
      return names :: place.getD []) <|>
    (do
      let names ← whenThere namespaceName
      if names.isEmpty then symbol "*"
      let place ← fromClause inner
      return names ++ place)
  semicolon false
  return parts

/-! ### Declarations of types -/

def typeAlias (inner : Inner) : Part Node :=
  typedOnly (construct "type_alias_declaration" do
    let _ ← word "type"
    let name ← anyName "type_identifier"
    let generic ← whenThere (typeParameters inner)
    let _ ← exactly "="
    let t ← inner.type
    semicolon false
    return name :: generic ++ [t])

def interface (inner : Inner) : Part Node :=
  typedOnly (construct "interface_declaration" do
    let _ ← word "interface"
    let name ← anyName "type_identifier"
    let generic ← whenThere (typeParameters inner)
    let above ← maybe do
      let _ ← word "extends"
      separated1 inner.type (symbol ",")
    let body ← objectType inner
    return name :: generic ++ above.getD [] ++ [body])

def enumeration (inner : Inner) : Part Node :=
  typedOnly (construct "enum_declaration" do
    let _ ← maybe (word "const")
    let _ ← word "enum"
    let name ← identifier
    symbol "\x7b"
    let members ← separated
      (do
        let name ← propertyName inner
        let value ← maybe (initializer inner)
        return name :: value.toList)
      (symbol ",")
    let _ ← maybe (symbol ",")
    symbol "\x7d"
    return name :: members.flatten)

def moduleDeclaration (inner : Inner) : Part Node :=
  typedOnly (construct "module" do
    let _ ← word "namespace" <|> word "module"
    sameLine
    let name ← quotedText <|> do
      let first ← identifier
      let names ← many do
        symbol "."
        anyName "property_identifier"
      return dotted "nested_identifier" first names
    let body ← (do
        let b ← inner.block
        return [b]) <|> (do
        semicolon false
        return [])
    return name :: body)

def declaration (inner : Inner) : Part Node :=
  firstOf
    [functionDefinition inner true, classDefinition inner true, enumeration inner,
     declaredVariables inner, typeAlias inner, interface inner, moduleDeclaration inner,
     typedOnly (construct "import_alias" do
       let _ ← word "import"
       importAlias inner)]

def ambient (inner : Inner) : Part Node :=
  typedOnly (construct "ambient_declaration" do
    let _ ← word "declare"
    let d ← declaration inner <|> do
      let _ ← word "global"
      inner.block
    return [d])

def exportedDefault (inner : Inner) : Part (List Node) := do
  let _ ← word "default"
  let d ← firstOf
    [functionDefinition inner false, functionDefinition inner true, classDefinition inner false,
     interface inner,
     do
       let e ← inner.sequence
       semicolon true
       return e]
  return [d]

def exportStatement (inner : Inner) : Part Node :=
  construct "export_statement" do
    let marks ← decorators inner
    let _ ← word "export"
    let parts ← firstOf
      [exportedNames inner,
       exportedDefault inner,
       typedOnly do
         let _ ← word "type"
         exportedNames inner,
       typedOnly do
         let _ ← exactly "="
         let e ← inner.expression
         semicolon true
         return [e],
       typedOnly do
         let _ ← word "as"
         let _ ← word "namespace"
         let name ← identifier
         semicolon false
         return [name],
       do
         let d ← ambient inner <|> declaration inner
         return [d]]
    return marks ++ parts

/-! ### All statements -/

def labeled (inner : Inner) : Part Node :=
  construct "labeled_statement" do
    let _ ← identifier
    symbol ":"
    let s ← inner.statement
    return [s]

def expressionStatement (inner : Inner) : Part Node :=
  construct "expression_statement" do
    let e ← inner.sequence
    semicolon true
    return [e]

/-- A comment in the manner of a markup page, up to the end of its line. -/
def pageComment : Part Node := do
  let src ← source
  let i ← next
  require (src.startsAt i "<!--".toList || src.startsAt i "-->".toList)
  spanTo "html_comment" true i (src.skipWhile (fun c ↦ !isLineEnd c) i)

def wordStatements (inner : Inner) : List (String × Part Node) :=
  [("if", ifStatement inner), ("for", forLoop inner), ("while", whileLoop inner),
   ("do", doLoop inner), ("switch", switchStatement inner), ("try", tryStatement inner),
   ("return", returnStatement inner), ("throw", throwStatement inner), ("break", jump),
   ("continue", jump), ("export", exportStatement inner),
   ("debugger", construct "debugger_statement" do
      let _ ← word "debugger"
      semicolon false
      return []),
   ("with", construct "with_statement" do
      let _ ← word "with"
      let e ← condition inner
      let s ← inner.statement
      return [e, s]),
   ("import", importStatement inner <|> expressionStatement inner),
   ("function", functionDefinition inner true <|> expressionStatement inner),
   ("class", classDefinition inner true <|> expressionStatement inner),
   ("var", declaredVariables inner)]

/-- The statements that start with a word which can be a name as well. -/
def softWords : List String :=
  ["async", "let", "const", "using", "await", "type", "interface", "enum", "namespace", "module",
   "declare", "abstract"]

def statement (inner : Inner) : Part Node := do
  let src ← source
  let i ← next
  match src.at? i with
  | none => failure
  | some c =>
      if c = '\x7b' then inner.block
      else if c = ';' then spanTo "empty_statement" true i (i + 1)
      else if c = '@' then exportStatement inner <|> classDefinition inner true
      else if c = '<' || c = '-' then pageComment <|> expressionStatement inner
      else
        let text := nameAt src i
        match (wordStatements inner).lookup text with
        | some s => s
        | none =>
            let plain := labeled inner <|> expressionStatement inner
            if softWords.contains text then declaration inner <|> ambient inner <|> plain else plain

/-! ### Whole scripts -/

/-- A whole script, perhaps after a line for the shell. -/
def script (inner : Inner) : Part (List Node) := do
  let src ← source
  if src.startsAt 0 ['#', '!'] then moveTo (src.skipWhile (fun c ↦ c != '\n') 0)
  let body ← many inner.statement
  finished
  return body

/-- The readers of all phrases with so many levels at most. -/
def phrases : Nat → Inner
  | 0 => fun _ _ _ ↦ none
  | depth + 1 => fun phrase scope i ↦
      match phrase with
      | .cover results => cover (phrases depth) results scope i
      | .operand results => (do
          let e ← operand (phrases depth) results
          return e) scope i
      | .literal => literal (phrases depth) scope i
      | .parameters => plainly (parameters (phrases depth)) scope i
      | .type => plainly (type (phrases depth)) scope i
      | .statement => plainly (statement (phrases depth)) scope i
      | .element => plainly (element (phrases depth)) scope i

def Dialect.script : Dialect := { typed := false, tags := true }

def Dialect.typeScript : Dialect := { typed := true, tags := false }

def Dialect.typeScriptX : Dialect := { typed := true, tags := true }

def read (dialect : Dialect) (text : String) : Tree :=
  let src := Source.ofText text
  let scope : Scope Dialect := { source := src, gap, dialect }
  match script (phrases (3 * src.size + 16)) scope 0 with
  | some (body, _) =>
      { source := src.bytes, root := src.node "program" true 0 src.size [] body, faulty := false }
  | none =>
      { source := src.bytes, root := src.node "program" true 0 src.size [] [], faulty := true }

end WebBaseline.Script

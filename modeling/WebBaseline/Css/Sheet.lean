import WebBaseline.Css.Selector
import WebBaseline.Css.Uses

/-!
# Style sheets

Rules, declarations and at-rules.  A token that fits nowhere becomes an error and reading goes on
after it; a block that the source does not close is closed by a token that is missing.
-/

namespace WebBaseline.Css

open Syntax Reading Reader

def misplaced : Part Node := do
  let src ← source
  let i ← next
  require (decide (i < src.size))
  let j := (nameEnd? src i).getD ((quotedEnd? src i).getD (i + 1))
  spanTo "ERROR" true i j

/-! ### Declarations -/

def declarationParts (value : Part Node) : Part (List Node) := do
  let property ← name "property_name"
  let colon ← sign ":"
  let first ← value
  let more ← many do
    let _ ← maybe (symbol ",")
    value
  return property :: colon :: first :: more

def declaration (value : Part Node) : Part Node :=
  construct "declaration" do
    let parts ← declarationParts value
    let stop ← sign ";"
    return parts ++ [stop]

/-- The last declaration of a block, which needs no semicolon. -/
def lastDeclaration (value : Part Node) : Part Node := do
  let src ← source
  let d ← construct "declaration" (declarationParts value)
  let i ← next
  require (src.isAt i '\x7d' || decide (src.size ≤ i))
  return d

/-! ### Queries -/

def keyword (text : String) : Part Node := do
  let src ← source
  let i ← next
  require (nameEnd? src i == some (i + text.length) && src.startsAt i text.toList)
  spanTo text false i (i + text.length)

def query : Nat → Part Node
  | 0 => failure
  | depth + 1 =>
      let inner := query depth
      let featureQuery := construct "feature_query" do
        symbol "("
        let feature ← name "feature_name"
        symbol ":"
        let values ← many1 (value (depth + 1))
        symbol ")"
        return feature :: values
      let bracketedQuery := construct "parenthesized_query" do
        symbol "("
        let q ← inner
        symbol ")"
        return [q]
      let selectorQuery := construct "selector_query" do
        let word ← keyword "selector"
        symbol "("
        let s ← selector (depth + 1)
        symbol ")"
        return [word, s]
      let unaryQuery := construct "unary_query" do
        let word ← keyword "not" <|> keyword "only"
        let q ← inner
        return [word, q]
      let single := firstOf
        [unaryQuery, selectorQuery, name "keyword_query", featureQuery, bracketedQuery]
      do
        let first ← single
        extend (fun left ↦ do
          let op ← keyword "and" <|> keyword "or"
          let right ← single
          joined "binary_query" left [left, op, right]) first

/-! ### At-rules -/

def isAtKeywordChar (c : Char) : Bool :=
  c.isAlpha || c == '-' || c == '_'

def atKeyword : Part Node :=
  tokenBy "at_keyword" fun s i ↦
    if s.isAt i '@' && s.holds (i + 1) isAtKeywordChar then
      some (s.skipWhile isAtKeywordChar (i + 1))
    else none

def statementKinds : List (String × String) :=
  [("@import", "import_statement"), ("@media", "media_statement"),
   ("@charset", "charset_statement"), ("@namespace", "namespace_statement"),
   ("@keyframes", "keyframes_statement"), ("@supports", "supports_statement"),
   ("@scope", "scope_statement")]

def statementKind (word : String) : String :=
  match statementKinds.lookup word with
  | some kind => kind
  | none => if "keyframes".toList.isSuffixOf word.toList then "keyframes_statement" else "at_rule"

/-- Tokens between the name of an at-rule and its block or semicolon that no query explains. -/
def leftover : Part (List Node) :=
  many do
    let src ← source
    let i ← next
    require !(src.holds i fun c ↦ c == ';' || c == '\x7b' || c == '\x7d')
    misplaced

def queries (depth : Nat) : Part (List Node) :=
  separated (query depth) (symbol ",")

def scopeLimit (depth : Nat) : Part Node := do
  symbol "("
  let s ← selector depth
  symbol ")"
  return s

def preamble (kind : String) (depth : Nat) : Part (List Node) :=
  if kind = "import_statement" then do
    let v ← value depth
    let qs ← queries depth
    return v :: qs
  else if kind = "charset_statement" then do
    let v ← value depth
    return [v]
  else if kind = "namespace_statement" then do
    let vs ← many1 (value depth)
    return vs
  else if kind = "keyframes_statement" then do
    let n ← name "keyframes_name"
    return [n]
  else if kind = "scope_statement" then do
    let first ← maybe (scopeLimit depth)
    let last ← maybe do
      let _ ← keyword "to"
      scopeLimit depth
    return first.toList ++ last.toList
  else queries depth

/-- One step of an animation: a block under a number or a word. -/
def keyframe (block : Part Node) : Part Node :=
  construct "keyframe_block" do
    let at_ ← keyword "from" <|> keyword "to" <|> number
    let b ← block
    return [at_, b]

/-- The closing bracket of a block, missing at the end of the source. -/
def closing : Part Node :=
  sign "\x7d" <|> do
    let src ← source
    let i ← position
    finished
    return .mk "\x7d" false true (src.offset i) (src.offset i) (src.point i) [] []

def keyframes (block : Part Node) : Part Node :=
  construct "keyframe_block_list" do
    let opening ← sign "\x7b"
    let frames ← many (keyframe block)
    let close ← closing
    return opening :: frames ++ [close]

def atRule (depth : Nat) (block : Part Node) : Part Node := do
  let src ← source
  let i ← next
  let word ← atKeyword
  let kind := statementKind (word.text src.bytes)
  let parts ← preamble kind depth <|> pure []
  let rest ← leftover
  let last ← firstOf
    ([sign ";"] ++ (if kind = "keyframes_statement" then [keyframes block] else []) ++ [block])
  let j ← position
  return src.node kind true i j [] (word :: parts ++ rest ++ [last])

/-! ### Rules and blocks -/

def ruleSet (depth : Nat) (block : Part Node) : Part Node :=
  construct "rule_set" do
    let chosen ← construct "selectors" (separated1 (selector depth) (symbol ","))
    let b ← block
    return [chosen, b]

def item (depth : Nat) (block : Part Node) : Part Node :=
  firstOf [atRule depth block, ruleSet depth block, declaration (value depth)]

def block (brackets : Nat) : Nat → Part Node
  | 0 => failure
  | depth + 1 =>
      construct "block" do
        let opening ← sign "\x7b"
        let items ← many do
          absent (symbol "\x7d")
          firstOf
            [item brackets (block brackets depth), lastDeclaration (value brackets), misplaced]
        let close ← closing
        return opening :: items ++ [close]

def sheet (depth : Nat) : Part (List Node) :=
  many (firstOf [item depth (block depth depth), misplaced])

def read (text : String) : Tree :=
  let src := Source.ofText text
  let scope : Scope Unit := { source := src, gap, dialect := () }
  let items := match sheet (src.size + 1) scope 0 with
    | some (items, _) => items
    | none => []
  let root := src.node "stylesheet" true (gap src 0) src.size [] items
  { source := src.bytes
    root
    faulty := (root.preorder fun _ ↦ true).any broken }

end WebBaseline.Css

import WebBaseline.Css.Value

/-!
# Selectors

Names of classes bind closer than combinators; everything else that follows a selector applies to
all of it so far.  A colon belongs to a selector only where a block opens before the declaration or
the block around it ends.
-/

namespace WebBaseline.Css

open Syntax Reading Reader

/-- Whether a block opens after a position before anything that would end a declaration. -/
def opensBlock (s : Source) : Nat → Nat → Bool
  | 0, _ => false
  | fuel + 1, i =>
      match s.at? i with
      | none => false
      | some c =>
          if c == ';' || c == '\x7d' then false
          else if c == '\x7b' then true
          else
            match if c == '/' then comment? s i else none with
            | some j => opensBlock s fuel j
            | none => opensBlock s fuel (i + 1)

def isSelectorColon (s : Source) (i : Nat) : Bool :=
  s.isAt i ':' && opensBlock s (s.size - i) (i + 1)

def pseudoColon : Part Node := do
  let src ← source
  let i ← next
  require (isSelectorColon src i && !src.isAt (i + 1) ':')
  spanTo ":" false i (i + 1)

/-- Whether white space at a position stands for a combinator: what follows it starts a
selector. -/
def isDescendantGap (s : Source) (i : Nat) : Bool :=
  s.holds i isSpace &&
    (let j := s.skipWhile isSpace i
     s.holds j (fun c ↦ c == '#' || c == '.' || c == '[' || c == '-' || c == '*' || c.isAlphanum ||
       isLatin c) ||
     (isSelectorColon s j && !s.holds (j + 1) isSpace))

def descendant : Part Unit := do
  let src ← source
  let i ← position
  if isDescendantGap src i then pure ()
  else
    let j := src.skipWhile isSpace i
    match comment? src j with
    | some k =>
        require (isDescendantGap src k)
        moveTo k
    | none => failure

/-- A name in which a backslash takes any character. -/
def escapedNameEnd (s : Source) : Nat → Nat → Nat
  | 0, i => i
  | fuel + 1, i =>
      if s.isAt i '\\' && decide (i + 1 < s.size) then escapedNameEnd s fuel (i + 2)
      else if s.holds i isNameChar then escapedNameEnd s fuel (i + 1)
      else i

def className : Part Node :=
  tokenBy "class_name" fun s i ↦
    if (nameEnd? s i).isSome || s.isAt i '\\' then some (escapedNameEnd s (s.size - i) i) else none

inductive Suffix where
  | mk (kind : String) (parts : List Node)

def classSuffix : Part Suffix := do
  let dot ← sign "."
  let name ← className
  return .mk "class_selector" [dot, name]

/-- The arguments of a pseudo-class or a pseudo-element: selectors, or values where no selector
stands. -/
def selectorArguments (selector value : Part Node) : Part Node :=
  construct "arguments" do
    symbol "("
    let groups ← separated
      ((do
          let s ← selector
          let _ ← look (symbol "," <|> symbol ")")
          return [s]) <|>
        (do
          let values ← many1 value
          let chosen ← maybe selector
          return values ++ chosen.toList))
      (symbol ",")
    symbol ")"
    return groups.flatten

/-- Arguments whose bracket stands right after the last token. -/
def ifOpen (given : Part Node) : Part (List Node) := do
  let src ← source
  let i ← position
  if src.isAt i '(' then
    let a ← given
    return [a]
  else return []

def pseudoClassSuffix (selector value : Part Node) : Part Suffix := do
  let colon ← pseudoColon
  let name ← name "class_name"
  let given ← ifOpen (selectorArguments selector value)
  return .mk "pseudo_class_selector" (colon :: name :: given)

def pseudoElementSuffix (selector value : Part Node) : Part Suffix := do
  let colons ← sign "::"
  let name ← name "tag_name"
  let given ← ifOpen (selectorArguments selector value)
  return .mk "pseudo_element_selector" (colons :: name :: given)

def idSuffix : Part Suffix := do
  let hash ← sign "#"
  let name ← name "id_name"
  return .mk "id_selector" [hash, name]

def attributeSuffix (value : Part Node) : Part Suffix := do
  symbol "["
  let name ← name "attribute_name"
  let compared ← maybe do
    let op ← firstOf (["=", "~=", "^=", "|=", "*=", "$="].map sign)
    let v ← value
    return [op, v]
  symbol "]"
  return .mk "attribute_selector" (name :: compared.getD [])

def wideSuffix (selector value : Part Node) : Part Suffix :=
  firstOf [pseudoElementSuffix selector value, pseudoClassSuffix selector value, idSuffix,
    attributeSuffix value]

/-- A selector of one name or sign, or of a suffix that has nothing before it. -/
def simple (selector value : Part Node) : Part Node :=
  firstOf
    [tokenBy "universal_selector" fun s i ↦ if s.isAt i '*' then some (i + 1) else none,
     name "tag_name",
     tokenBy "nesting_selector" fun s i ↦ if s.isAt i '&' then some (i + 1) else none,
     quotedText,
     (do
        let src ← source
        let i ← next
        let .mk kind parts ← classSuffix <|> wideSuffix selector value
        let j ← position
        return src.node kind true i j [] parts)]

/-- A simple selector with the classes that bind to it. -/
def compound (selector value : Part Node) : Part Node := do
  let first ← simple selector value
  extend (fun left ↦ do
    absent descendant
    let .mk kind parts ← classSuffix
    joined kind left (left :: parts)) first

def combinator : Part (String × Node) := do
  let op ← firstOf (["|", ">", "~", "+"].map sign)
  let kind :=
    if op.kind = ">" then "child_selector"
    else if op.kind = "~" then "sibling_selector"
    else if op.kind = "+" then "adjacent_sibling_selector"
    else "namespace_selector"
  return (kind, op)

def selector : Nat → Part Node
  | 0 => failure
  | depth + 1 =>
      let inner := selector depth
      let value := value (depth + 1)
      let operand := compound inner value
      let leading := construct "child_selector" do
        let (_, op) ← combinator
        let right ← operand
        return [op, right]
      do
        let first ← operand <|> leading
        extend (fun left ↦
          (do
            descendant
            let right ← operand
            joined "descendant_selector" left [left, right]) <|>
          (do
            let .mk kind parts ← classSuffix <|> wideSuffix inner value
            joined kind left (left :: parts)) <|>
          (do
            let (kind, op) ← combinator
            let right ← operand
            joined kind left [left, op, right])) first

end WebBaseline.Css

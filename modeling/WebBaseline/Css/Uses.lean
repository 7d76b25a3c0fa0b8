import WebBaseline.Report
import WebBaseline.Syntax.Node

/-!
# Uses in a style sheet

Declarations, pseudo-classes and at-rules each have a key.  A declaration has one for its property
and, when it has a value, one more for the property with that value.  What the reader could not
place is left out with all that lies below it, and a sheet of which nothing could be placed is
malformed.
-/

namespace WebBaseline.Css

open Syntax

/-- What the reader could not place, or put in by itself. -/
def broken (n : Node) : Bool :=
  n.kind = "ERROR" || n.missing

def usable (n : Node) : Bool :=
  n.named && n.kind != "comment" && !broken n

/-- Parts of a declaration that say nothing about its value. -/
def silent (n : Node) : Bool :=
  n.kind = "property_name" || n.kind = "important" || n.kind = "comment"

def functionName? (n : Node) : Option Node :=
  match n.field? "function_name" with
  | some name => some name
  | none => n.namedChildren.find? fun c ↦ c.kind = "function_name"

mutual

/-- The words of one value: a call gives the name of its function, an operation its operands and
operators, anything else its text with the white space in it collapsed.  Operations can be nested to
any depth. -/
def valueWords (source : ByteArray) : Node → List String
  | n@(.mk kind _ _ _ _ _ _ children) =>
      if kind = "call_expression" then
        match functionName? n with
        | some name => [name.text source]
        | none => []
      else if kind = "binary_expression" then operandWords source children
      else
        let word := Text.collapse (n.text source)
        if word.isEmpty then [] else [word]

def operandWords (source : ByteArray) : List Node → List String
  | [] => []
  | n :: rest =>
      (if silent n then []
        else if n.named then valueWords source n
        else [n.text source]) ++ operandWords source rest

end

def afterColon : List Node → List Node
  | [] => []
  | n :: rest => if n.kind = ":" then rest else afterColon rest

def contributes (n : Node) : Bool :=
  n.named && !silent n && !broken n

/-- The value of a declaration, its words joined by single spaces. -/
def normalizedValue (source : ByteArray) (declaration : Node) : String :=
  let found := (afterColon declaration.children).filter contributes
  " ".intercalate ((found.flatMap (valueWords source)).filter fun w ↦ !w.isEmpty)

def atRuleName? (source : ByteArray) (n : Node) : Option String :=
  if n.kind = "at_rule" || "_statement".toList.isSuffixOf n.kind.toList then
    match n.children with
    | [] => none
    | keyword :: _ =>
        match (keyword.text source).toList with
        | '@' :: name =>
            let name := Text.lower (String.ofList name)
            if name.isEmpty then none else some name
        | _ => none
  else none

/-- The name of a pseudo-class and the colon before it, given the last colon passed. -/
def pseudoClassFrom (source : ByteArray) : Option Node → List Node → Option (String × Node)
  | _, [] => none
  | colon, n :: rest =>
      if n.kind = ":" then pseudoClassFrom source (some n) rest
      else
        match colon with
        | some c =>
            if n.kind = "class_name" then some (Text.lower (n.text source), c)
            else pseudoClassFrom source colon rest
        | none => pseudoClassFrom source colon rest

def useAt (n : Node) (key : String) (property value : Option String) : Use :=
  { key, line := n.start.row + 1, column := n.start.column + 1, property, value }

def declarationUses (source : ByteArray) (n : Node) : List Use :=
  match n.children.find? fun c ↦ c.kind = "property_name" with
  | none => []
  | some name =>
      let property := Text.lower (name.text source)
      let value := normalizedValue source n
      let key := "css.properties." ++ property
      if value.isEmpty then [useAt n key (some property) none]
      else
        [useAt n key (some property) (some value),
         useAt n (key ++ "." ++ value) (some property) (some value)]

def usesOf (source : ByteArray) (n : Node) : List Use :=
  if n.kind = "declaration" then declarationUses source n
  else if n.kind = "pseudo_class_selector" then
    match pseudoClassFrom source none n.children with
    | some (name, colon) => [useAt colon ("css.selectors." ++ name) none none]
    | none => []
  else
    match atRuleName? source n with
    | some name => [useAt n ("css.at-rules." ++ name) none none]
    | none => []

/-- Whether nothing of a sheet could be placed. -/
def malformed (tree : Tree) : Bool :=
  broken tree.root || (tree.faulty && !tree.root.children.any usable)

/-- The uses of a sheet in document order, or none at all for a malformed one. -/
def uses? (tree : Tree) : Option (List Use) :=
  if malformed tree then none
  else
    some ((tree.root.preorder fun n ↦ !broken n).flatMap (usesOf tree.source))

end WebBaseline.Css

import WebBaseline.Yaml.Token

/-!
# Nodes of YAML documents

Tokens are put together to a tree of scalars, sequences and mappings.  An alias stands for the node
whose anchor it names.
-/

namespace WebBaseline.Yaml

/-- A node and its tag.  A tag is missing where the text has to show what a scalar is. -/
inductive Node where
  | scalar (tag : Option String) (text : String) (plain : Bool)
  | sequence (tag : Option String) (items : List Node)
  | mapping (tag : Option String) (entries : List (Node × Node))
  deriving Inhabited

def Node.empty : Node := .scalar none "" true

/-- What is left of the tokens, and what the document has said so far. -/
structure Desk where
  tokens : List Token
  /-- the fault after the last token -/
  ending : Option Fault
  /-- prefixes by the handles of tags -/
  handles : List (String × String)
  /-- nodes by their anchors; a node that is not complete stands for nothing -/
  anchors : List (String × Node)

abbrev Compose (α : Type) : Type := StateT Desk (Except Fault) α

namespace Compose

def fail {α : Type} (e : Fault) : Compose α := fun _ ↦ .error e

def peek : Compose Token := fun d ↦
  match d.tokens with
  | t :: _ => .ok (t, d)
  | [] => .error (d.ending.getD .malformed)

def advance : Compose Unit := fun d ↦ .ok ((), { d with tokens := d.tokens.tail })

def accept (t : Token) : Compose Bool := do
  let u ← peek
  if u = t then
    advance
    return true
  else return false

def expect (t : Token) : Compose Unit := do
  let found ← accept t
  if !found then fail .malformed

def nextIsOneOf (ts : List Token) : Compose Bool := do
  let u ← peek
  return ts.contains u

def collectFor {α : Type} (step : Compose (Option α)) : Nat → List α → Compose (List α)
  | 0, acc => return acc.reverse
  | fuel + 1, acc => do
      match ← step with
      | some a => collectFor step fuel (a :: acc)
      | none => return acc.reverse

def collect {α : Type} (step : Compose (Option α)) : Compose (List α) := do
  let d ← get
  collectFor step (d.tokens.length + 1) []

end Compose

open Compose

/-! ### Anchors and tags -/

structure Properties where
  anchor : Option String := none
  tag : Option (Option String × String) := none

def property? (p : Properties) : Compose (Option Properties) := do
  match ← peek with
  | .anchor name =>
      if p.anchor.isNone then
        advance
        return some { p with anchor := some name }
      else return none
  | .tag handle suffix =>
      if p.tag.isNone then
        advance
        return some { p with tag := some (handle, suffix) }
      else return none
  | _ => return none

def properties : Compose Properties := do
  match ← property? {} with
  | none => return {}
  | some p =>
      match ← property? p with
      | none => return p
      | some q => return q

/-- The full tag of a node; an exclamation mark alone says nothing. -/
def fullTag (p : Properties) : Compose (Option String) := do
  match p.tag with
  | none => return none
  | some (none, suffix) => return some suffix
  | some (some handle, suffix) =>
      let d ← get
      match d.handles.lookup handle with
      | some tagPrefix => return some (tagPrefix ++ suffix)
      | none => fail .malformed

def saveAnchor (name : Option String) (n : Node) : Compose Unit :=
  modify fun d ↦
    match name with
    | some a => { d with anchors := (a, n) :: d.anchors }
    | none => d

/-- An anchor must not be used twice. -/
def openAnchor (name : Option String) : Compose Unit := do
  match name with
  | none => return ()
  | some a =>
      let d ← get
      if (d.anchors.lookup a).isSome then fail .malformed else saveAnchor name .empty

/-! ### Collections -/

def nodeUnless (ends : List Token) (node : Compose Node) : Compose Node := do
  if ← nextIsOneOf ends then return .empty else node

def valueUnless (ends : List Token) (node : Compose Node) : Compose Node := do
  if ← accept .value then nodeUnless ends node else return .empty

def entries (ends : List Token) (node : Compose Node) : Compose (List Node) :=
  collect do
    if ← accept .blockEntry then
      let n ← nodeUnless (.blockEntry :: ends) node
      return some n
    else return none

def blockSequence (node : Compose Node) : Compose (List Node) := do
  let items ← entries [.blockEnd] node
  expect .blockEnd
  return items

def blockMapping (node : Compose Node) : Compose (List (Node × Node)) := do
  let ends := [Token.key, .value, .blockEnd]
  let pairs ← collect do
    if ← accept .key then
      let k ← nodeUnless ends node
      let v ← valueUnless ends node
      return some (k, v)
    else return none
  expect .blockEnd
  return pairs

def flowItems {α : Type} (close : Token) (item : Compose α) : Compose (List α) := do
  let step (first : Bool) : Compose (Option α) := do
    if ← accept close then return none
    else
      if !first then expect .flowEntry
      if ← accept close then return none
      else
        let a ← item
        return some a
  match ← step true with
  | none => return []
  | some a =>
      let rest ← collect (step false)
      return a :: rest

/-- An entry of a sequence in brackets; one that starts with a key is a mapping. -/
def flowSequenceItem (node : Compose Node) : Compose Node := do
  if ← accept .key then
    let k ← nodeUnless [.value, .flowEntry, .flowSequenceEnd] node
    let v ← valueUnless [.flowEntry, .flowSequenceEnd] node
    return .mapping none [(k, v)]
  else node

def flowMappingItem (node : Compose Node) : Compose (Node × Node) := do
  if ← accept .key then
    let k ← nodeUnless [.value, .flowEntry, .flowMappingEnd] node
    let v ← valueUnless [.flowEntry, .flowMappingEnd] node
    return (k, v)
  else
    let k ← node
    return (k, .empty)

/-- What a node holds.  `block` allows blocks and `dashes` a sequence that is not indented. -/
def content (block flow dashed : Compose Node) (isBlock dashes : Bool) (p : Properties)
    (tag : Option String) : Compose Node := do
  let t ← peek
  if dashes && t = .blockEntry then
    let items ← entries [.key, .value, .blockEnd] block
    return .sequence tag items
  else
    match t with
    | .scalar text plain =>
        advance
        return .scalar tag text plain
    | .flowSequenceStart =>
        advance
        let items ← flowItems .flowSequenceEnd (flowSequenceItem flow)
        return .sequence tag items
    | .flowMappingStart =>
        advance
        let pairs ← flowItems .flowMappingEnd (flowMappingItem flow)
        return .mapping tag pairs
    | .blockSequenceStart =>
        if isBlock then
          advance
          let items ← blockSequence block
          return .sequence tag items
        else fail .malformed
    | .blockMappingStart =>
        if isBlock then
          advance
          let pairs ← blockMapping dashed
          return .mapping tag pairs
        else fail .malformed
    | _ =>
        if p.anchor.isSome || tag.isSome then return .scalar tag "" true else fail .malformed

/-- A node with so many levels at most. -/
def node : Nat → Bool → Bool → Compose Node
  | 0, _, _ => fail .malformed
  | depth + 1, isBlock, dashes => do
      match ← peek with
      | .reference name =>
          advance
          let d ← get
          match d.anchors.lookup name with
          | some n => return n
          | none => fail .malformed
      | _ =>
          let p ← properties
          let tag ← fullTag p
          let block := node depth true false
          let flow := node depth false false
          let dashed := node depth true true
          openAnchor p.anchor
          let n ← content block flow dashed isBlock dashes p tag
          saveAnchor p.anchor n
          return n

/-! ### Documents -/

def defaultHandles : List (String × String) :=
  [("!", "!"), ("!!", "tag:yaml.org,2002:")]

/-- The directives before a document: one version at most, and no handle twice. -/
def directives : List Token → Bool → List (String × String) →
    Except Fault (List (String × String) × List Token)
  | .directive (.version major) :: rest, seen, handles =>
      if seen || major ≠ 1 then .error .malformed else directives rest true handles
  | .directive (.tag handle tagPrefix) :: rest, seen, handles =>
      if (handles.lookup handle).isSome then .error .malformed
      else directives rest seen ((handle, tagPrefix) :: handles)
  | .directive .other :: rest, seen, handles => directives rest seen handles
  | ts, _, handles => .ok (handles ++ defaultHandles, ts)

/-- The root of a document, with or without a line that starts it. -/
def root (depth : Nat) : Compose Node := do
  let d ← get
  let (handles, rest) ← directives d.tokens false []
  let explicit := rest.head? = some .documentStart
  if explicit then
    set { d with tokens := rest.tail, handles }
    let ends ← peek
    match ends with
    | .directive _ => return .empty
    | .documentStart => return .empty
    | .documentEnd => return .empty
    | .streamEnd => return .empty
    | _ => node depth true false
  else if rest.length < d.tokens.length then
    fail (if rest.isEmpty then d.ending.getD .malformed else .malformed)
  else
    set { d with handles := defaultHandles }
    node depth true false

def skipEnds : List Token → List Token
  | .documentEnd :: rest => skipEnds rest
  | ts => ts

/-- The root of the only document of a text, or none in an empty text. -/
def compose (text : String) : Except Fault (Option Node) :=
  let (ts, ending) := tokens text
  match ts, ending with
  | [.streamEnd], none => .ok none
  | ts, ending =>
      match root (ts.length + 1) { tokens := ts, ending, handles := [], anchors := [] } with
      | .error e => .error e
      | .ok (n, d) =>
          match skipEnds d.tokens, d.ending with
          | [.streamEnd], none => .ok (some n)
          | [], some e => .error e
          | _, _ => .error .malformed

end WebBaseline.Yaml

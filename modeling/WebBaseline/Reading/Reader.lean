import WebBaseline.Reading.Source

/-!
# Readers

A reader looks at a source from a position on and either gives a value and the position after it,
or nothing.  Choices are tried in order.  Repetition ends where a reader gives nothing or stays
where it was, so it needs no more rounds than the source has positions.  A construct gets a node
over the text from its first token to its last.
-/

namespace WebBaseline.Reading

/-- What every reader of a source knows: the source, where the next token after a position
starts, and the dialect of the language. -/
structure Scope (δ : Type) where
  source : Source
  gap : Source → Nat → Nat
  dialect : δ

def Reader (δ α : Type) : Type :=
  Scope δ → Nat → Option (α × Nat)

variable {δ α β : Type}

namespace Reader

@[inline] def bind (x : Reader δ α) (f : α → Reader δ β) : Reader δ β :=
  fun scope i ↦
    match x scope i with
    | some (a, j) => f a scope j
    | none => none

@[inline] def orElse (x : Reader δ α) (y : Unit → Reader δ α) : Reader δ α :=
  fun scope i ↦
    match x scope i with
    | some r => some r
    | none => y () scope i

instance : Monad (Reader δ) where
  pure a := fun _ i ↦ some (a, i)
  bind := bind

instance : Alternative (Reader δ) where
  failure := fun _ _ ↦ none
  orElse := orElse

/-- The end of the last token. -/
@[inline] def position : Reader δ Nat := fun _ i ↦ some (i, i)

@[inline] def source : Reader δ Source := fun scope i ↦ some (scope.source, i)

@[inline] def dialect : Reader δ δ := fun scope i ↦ some (scope.dialect, i)

@[inline] def next : Reader δ Nat := fun scope i ↦ some (scope.gap scope.source i, i)

@[inline] def moveTo (i : Nat) : Reader δ Unit := fun _ _ ↦ some ((), i)

@[inline] def require (b : Bool) : Reader δ Unit := fun _ i ↦ if b then some ((), i) else none

@[inline] def look (x : Reader δ α) : Reader δ α := fun scope i ↦
  match x scope i with
  | some (a, _) => some (a, i)
  | none => none

@[inline] def maybe (x : Reader δ α) : Reader δ (Option α) := fun scope i ↦
  match x scope i with
  | some (a, j) => some (some a, j)
  | none => some (none, i)

/-- Reads and says whether there was something to read. -/
@[inline] def taken (x : Reader δ α) : Reader δ Bool := fun scope i ↦
  match x scope i with
  | some (_, j) => some (true, j)
  | none => some (false, i)

/-- Succeeds where a reader does not. -/
@[inline] def absent (x : Reader δ α) : Reader δ Unit := fun scope i ↦
  match x scope i with
  | some _ => none
  | none => some ((), i)

def manyFor (x : Reader δ α) : Nat → List α → Reader δ (List α)
  | 0, acc, _, i => some (acc.reverse, i)
  | fuel + 1, acc, scope, i =>
      match x scope i with
      | some (a, j) =>
          if i < j then manyFor x fuel (a :: acc) scope j else some (acc.reverse, i)
      | none => some (acc.reverse, i)

def many (x : Reader δ α) : Reader δ (List α) := fun scope i ↦
  manyFor x (scope.source.size + 1) [] scope i

def many1 (x : Reader δ α) : Reader δ (List α) := do
  let a ← x
  let rest ← many x
  return a :: rest

def separated1 (x : Reader δ α) (separator : Reader δ β) : Reader δ (List α) := do
  let a ← x
  let rest ← many (do
    let _ ← separator
    x)
  return a :: rest

def separated (x : Reader δ α) (separator : Reader δ β) : Reader δ (List α) :=
  separated1 x separator <|> pure []

def extendFor (grow : α → Reader δ α) : Nat → α → Reader δ α
  | 0, a, _, i => some (a, i)
  | fuel + 1, a, scope, i =>
      match grow a scope i with
      | some (b, j) => if i < j then extendFor grow fuel b scope j else some (a, i)
      | none => some (a, i)

/-- Makes a value grow to the right as long as it can. -/
def extend (grow : α → Reader δ α) (a : α) : Reader δ α := fun scope i ↦
  extendFor grow (scope.source.size + 1) a scope i

def firstOf : List (Reader δ α) → Reader δ α
  | [], _, _ => none
  | x :: rest, scope, i =>
      match x scope i with
      | some r => some r
      | none => firstOf rest scope i

def symbol (s : String) : Reader δ Unit := do
  let src ← source
  let i ← next
  require (src.startsAt i s.toList)
  moveTo (i + s.length)

/-- Nothing follows but what separates tokens. -/
def finished : Reader δ Unit := do
  let src ← source
  let i ← next
  require (decide (src.size ≤ i))

/-! ### Nodes -/

open Syntax

def construct (kind : String) (parts : Reader δ (List Node)) : Reader δ Node := do
  let src ← source
  let i ← next
  let children ← parts
  let j ← position
  return src.node kind true i j [] children

/-- A node that starts where another one does and goes on to the last token read. -/
def joined (kind : String) (left : Node) (children : List Node) : Reader δ Node := do
  let src ← source
  let j ← position
  return .mk kind true false left.first (src.offset j) left.start [] children

def spanTo (kind : String) (named : Bool) (i j : Nat) : Reader δ Node := do
  let src ← source
  moveTo j
  return src.node kind named i j [] []

def sign (s : String) : Reader δ Node := do
  let src ← source
  let i ← next
  symbol s
  let j ← position
  return src.node s false i j [] []

end Reader

end WebBaseline.Reading

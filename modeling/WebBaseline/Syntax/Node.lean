import WebBaseline.Text.Utf8

/-!
# Concrete syntax trees

A node has a kind, the byte range of its text, the point where it starts, and its children, some
of which are reached by a field name.  Tokens that carry no name of their own are anonymous; a
token that stands for text the source lacks is missing.
-/

namespace WebBaseline.Syntax

/-- A row and a column, both from zero; columns count bytes. -/
structure Point where
  row : Nat
  column : Nat
  deriving Repr, DecidableEq, Inhabited

inductive Node where
  | mk (kind : String) (named : Bool) (missing : Bool) (first last : Nat) (start : Point)
      (fields : List (String × Nat)) (children : List Node)
  deriving Inhabited

namespace Node

def kind : Node → String
  | mk k _ _ _ _ _ _ _ => k

def named : Node → Bool
  | mk _ n _ _ _ _ _ _ => n

def missing : Node → Bool
  | mk _ _ m _ _ _ _ _ => m

def first : Node → Nat
  | mk _ _ _ a _ _ _ _ => a

def last : Node → Nat
  | mk _ _ _ _ b _ _ _ => b

def start : Node → Point
  | mk _ _ _ _ _ p _ _ => p

def fields : Node → List (String × Nat)
  | mk _ _ _ _ _ _ fs _ => fs

def children : Node → List Node
  | mk _ _ _ _ _ _ _ cs => cs

def field? (n : Node) (name : String) : Option Node :=
  match n.fields.lookup name with
  | some i => n.children[i]?
  | none => none

def namedChildren (n : Node) : List Node :=
  n.children.filter named

def text (source : ByteArray) (n : Node) : String :=
  Text.decodeLenient (source.extract n.first n.last).toList

theorem sizeOf_children_lt (n : Node) : sizeOf n.children < sizeOf n := by
  cases n
  simp only [children, mk.sizeOf_spec]
  omega

noncomputable def weight : List Node → Nat
  | [] => 0
  | n :: rest => sizeOf n + weight rest

theorem weight_append (a b : List Node) : weight (a ++ b) = weight a + weight b := by
  induction a with
  | nil => simp only [List.nil_append, weight, Nat.zero_add]
  | cons n rest ih =>
      simp only [List.cons_append, weight, ih]
      omega

theorem weight_le (ns : List Node) : weight ns ≤ sizeOf ns := by
  induction ns with
  | nil => exact Nat.zero_le _
  | cons n rest ih =>
      simp only [weight, List.cons.sizeOf_spec]
      omega

/-- The nodes of a list of trees in document order, every node before what lies below it.  A node
that is not kept hides what lies below it. -/
def preorderInto (keep : Node → Bool) (pending : List Node) (found : Array Node) : Array Node :=
  match pending with
  | [] => found
  | n :: rest =>
      if keep n then preorderInto keep (n.children ++ rest) (found.push n)
      else preorderInto keep rest found
termination_by weight pending
decreasing_by
  · have hchildren := sizeOf_children_lt n
    have hweight := weight_le n.children
    simp only [weight_append, weight]
    omega
  · have hpos : 0 < sizeOf n := by
      cases n
      simp only [mk.sizeOf_spec]
      omega
    simp only [weight]
    omega

def preorder (keep : Node → Bool) (root : Node) : List Node :=
  (preorderInto keep [root] #[]).toList

end Node

/-- The tree of a source, and whether reading it met a fault. -/
structure Tree where
  source : ByteArray
  root : Node
  faulty : Bool

end WebBaseline.Syntax

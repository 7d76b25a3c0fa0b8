import WebBaseline.Script.Outline

/-!
# Outlines built node by node

A deep syntax tree is turned into an outline without recursion.  Every node has a number.  First the
nodes that named children lead to are collected with a stack, then each of them, the last one first,
gets its outline from the outlines that are already there; these are kept under the numbers of their
nodes.
-/

namespace WebBaseline.Syntax

inductive Numbered where
  | mk (number : Nat) (kind : String) (named missing : Bool) (first last : Nat) (start : Point)
      (fields : List (String × Nat)) (children : List Numbered)
  deriving Inhabited

namespace Numbered

def number : Numbered → Nat
  | mk k _ _ _ _ _ _ _ _ => k

def children : Numbered → List Numbered
  | mk _ _ _ _ _ _ _ _ cs => cs

mutual

def node : Numbered → Node
  | mk _ kind named missing first last start fields cs =>
      .mk kind named missing first last start fields (nodes cs)

def nodes : List Numbered → List Node
  | [] => []
  | c :: rest => c.node :: nodes rest

end

mutual

def numbers : Numbered → List Nat
  | mk k _ _ _ _ _ _ _ cs => k :: numbersOf cs

def numbersOf : List Numbered → List Nat
  | [] => []
  | c :: rest => c.numbers ++ numbersOf rest

end

def namedChildren (n : Numbered) : List Numbered :=
  n.children.filter fun c ↦ c.node.named

def field? (n : Numbered) (name : String) : Option Numbered :=
  match n.node.fields.lookup name with
  | some i => n.children[i]?
  | none => none

theorem sizeOf_children_lt (n : Numbered) : sizeOf n.children < sizeOf n := by
  cases n
  simp only [children, mk.sizeOf_spec]
  omega

noncomputable def weight : List Numbered → Nat
  | [] => 0
  | n :: rest => sizeOf n + weight rest

theorem weight_append (a b : List Numbered) : weight (a ++ b) = weight a + weight b := by
  induction a with
  | nil => simp only [List.nil_append, weight, Nat.zero_add]
  | cons n rest ih =>
      simp only [List.cons_append, weight, ih]
      omega

theorem weight_reverse (ns : List Numbered) : weight ns.reverse = weight ns := by
  induction ns with
  | nil => rfl
  | cons n rest ih =>
      simp only [List.reverse_cons, weight_append, weight, ih]
      omega

theorem weight_filter_le (keep : Numbered → Bool) (ns : List Numbered) :
    weight (ns.filter keep) ≤ sizeOf ns := by
  induction ns with
  | nil => exact Nat.zero_le _
  | cons n rest ih =>
      rw [List.filter_cons, List.cons.sizeOf_spec]
      split
      · simp only [weight]
        omega
      · omega

/-- Takes nodes from a stack, with the one on top first, and puts their named children there. -/
def collectInto (stack order : List Numbered) : List Numbered :=
  match stack with
  | [] => order
  | n :: rest => collectInto (n.namedChildren.reverse ++ rest) (order ++ [n])
termination_by weight stack
decreasing_by
  have hchildren := sizeOf_children_lt n
  have hweight := weight_filter_le (fun c ↦ c.node.named) n.children
  simp only [weight_append, weight_reverse, weight, namedChildren] at hweight ⊢
  omega

/-- The nodes that named children lead to, each before those below it. -/
def collect (root : Numbered) : List Numbered := collectInto [root] []

end Numbered

end WebBaseline.Syntax

namespace WebBaseline.Script

open Syntax

/-- Outlines under the numbers of their nodes, the one that was put there last first. -/
abbrev Images : Type := List (Nat × Outline)

namespace Outline

/-- The outline of a node; a number without an outline is a fault. -/
def imageAt (built : Images) (n : Numbered) : Except Nat Outline :=
  match built.lookup n.number with
  | some image => .ok image
  | none => .error n.number

def ofImages (source : ByteArray) (built : Images) (n : Numbered) : Except Nat Outline := do
  let children ← n.namedChildren.mapM (imageAt built)
  let line := n.node.start.row + 1
  let column := n.node.start.column + 1
  let plain := other n.node.kind children line column
  if n.node.kind = "call_expression" then
    match n.field? "function" with
    | some callee => do
        let image ← imageAt built callee
        return call image children line column
    | none => return plain
  else if n.node.kind = "member_expression" then
    match n.field? "object", n.field? "property" with
    | some object, some property => do
        let image ← imageAt built object
        return member image (property.node.text source) children line column
    | _, _ => return plain
  else if n.node.kind = "identifier" then
    return identifier (n.node.text source) children line column
  else return plain

def buildInto (source : ByteArray) : List Numbered → Images → Except Nat Images
  | [], built => .ok built
  | n :: rest, built => do
      let image ← ofImages source built n
      buildInto source rest ((n.number, image) :: built)

def build (source : ByteArray) (root : Numbered) : Except Nat Outline := do
  let built ← buildInto source root.collect.reverse []
  imageAt built root

end Outline

end WebBaseline.Script

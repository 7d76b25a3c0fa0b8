import WebBaseline.Syntax.Node

/-!
# Outlines of scripts

Of a script only calls, members and identifiers matter.  An outline keeps these apart and lumps
everything else together, but loses no child, so that a call inside a construct nobody asks about
is still reached.

A call resolves to the path of what it calls, a member to the path of its object and its property,
an identifier to its name.  An object that does not resolve leaves the property alone.
-/

namespace WebBaseline.Script

open Syntax

inductive Outline where
  | call (callee : Outline) (children : List Outline) (line column : Nat)
  | member (object : Outline) (property : String) (children : List Outline) (line column : Nat)
  | identifier (name : String) (children : List Outline) (line column : Nat)
  | other (kind : String) (children : List Outline) (line column : Nat)
  deriving Inhabited

namespace Outline

def children : Outline → List Outline
  | call _ cs _ _ => cs
  | member _ _ cs _ _ => cs
  | identifier _ cs _ _ => cs
  | other _ cs _ _ => cs

def line : Outline → Nat
  | call _ _ l _ => l
  | member _ _ _ l _ => l
  | identifier _ _ l _ => l
  | other _ _ l _ => l

def column : Outline → Nat
  | call _ _ _ c => c
  | member _ _ _ _ c => c
  | identifier _ _ _ c => c
  | other _ _ _ c => c

/-- Calls and members are what features are looked up for. -/
def isLookup : Outline → Bool
  | call _ _ _ _ => true
  | member _ _ _ _ _ => true
  | _ => false

/-- The parts of a path, given the properties passed on the way in. -/
def partsFrom : Outline → List String → List String
  | call callee _ _ _, parts => partsFrom callee parts
  | member object property _ _ _, parts => partsFrom object (property :: parts)
  | identifier name _ _ _, parts => name :: parts
  | other _ _ _ _, parts => parts

def path? (n : Outline) : Option String :=
  match partsFrom n [] with
  | [] => none
  | parts => some (".".intercalate parts)

theorem sizeOf_children_lt (n : Outline) : sizeOf n.children < sizeOf n := by
  cases n <;>
    simp only [children, call.sizeOf_spec, member.sizeOf_spec, identifier.sizeOf_spec,
      other.sizeOf_spec] <;> omega

noncomputable def weight : List Outline → Nat
  | [] => 0
  | n :: rest => sizeOf n + weight rest

theorem weight_append (a b : List Outline) : weight (a ++ b) = weight a + weight b := by
  induction a with
  | nil => simp only [List.nil_append, weight, Nat.zero_add]
  | cons n rest ih =>
      simp only [List.cons_append, weight, ih]
      omega

theorem weight_le (ns : List Outline) : weight ns ≤ sizeOf ns := by
  induction ns with
  | nil => exact Nat.zero_le _
  | cons n rest ih =>
      simp only [weight, List.cons.sizeOf_spec]
      omega

/-- The outlines of a list in document order, each before its children. -/
def walkInto (pending : List Outline) (found : Array Outline) : Array Outline :=
  match pending with
  | [] => found
  | n :: rest => walkInto (n.children ++ rest) (found.push n)
termination_by weight pending
decreasing_by
  have hchildren := sizeOf_children_lt n
  have hweight := weight_le n.children
  simp only [weight_append, weight]
  omega

def walk (root : Outline) : List Outline :=
  (walkInto [root] #[]).toList

/-- The image of the child under a field: no child, a child without an image, or its image. -/
def imageOf (n : Node) (images : List (Option Outline)) (name : String) :
    Option (Option Outline) :=
  match n.fields.lookup name with
  | some i => images[i]?
  | none => none

mutual

/-- The outline of a syntax tree.  It fails when a call or a member refers to a child that has no
outline because it is anonymous. -/
def ofNode? (source : ByteArray) : Node → Option Outline
  | n@(.mk kind _ _ _ _ start _ cs) =>
      match imagesOf? source cs with
      | none => none
      | some images =>
          let children := images.filterMap id
          let line := start.row + 1
          let column := start.column + 1
          let plain := some (other kind children line column)
          if kind = "call_expression" then
            match imageOf n images "function" with
            | some (some callee) => some (call callee children line column)
            | some none => none
            | none => plain
          else if kind = "member_expression" then
            match imageOf n images "object", n.field? "property" with
            | some (some object), some property =>
                some (member object (property.text source) children line column)
            | some none, some _ => none
            | _, _ => plain
          else if kind = "identifier" then
            some (identifier (n.text source) children line column)
          else plain

def imagesOf? (source : ByteArray) : List Node → Option (List (Option Outline))
  | [] => some []
  | n :: rest =>
      match imagesOf? source rest with
      | none => none
      | some images =>
          if n.named then
            match ofNode? source n with
            | some image => some (some image :: images)
            | none => none
          else some (none :: images)

end

end Outline

end WebBaseline.Script

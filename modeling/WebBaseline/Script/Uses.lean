import WebBaseline.Report
import WebBaseline.Script.Building
import WebBaseline.Script.Resolving

/-!
# Uses in a script

Every call and every member that resolves to a path is a use of that path, in document order.
`uses` finds them through the outline of a syntax tree.  Where the nodes have numbers, `detect`
finds them in passes: it builds the outline node by node, walks it, and looks for each path in
rounds.
-/

namespace WebBaseline.Script

open Syntax

def useOf? (n : Outline) : Option Use :=
  if n.isLookup then
    match n.path? with
    | some path =>
        if path.isEmpty then none
        else some { key := path, line := n.line, column := n.column }
    | none => none
  else none

def usesOf (root : Outline) : List Use :=
  root.walk.filterMap useOf?

inductive Failure where
  /-- reading it met a fault -/
  | malformed
  /-- a field of its tree leads nowhere -/
  | danglingField

def uses (tree : Tree) : Except Failure (List Use) :=
  if tree.faulty then .error .malformed
  else
    match Outline.ofNode? tree.source tree.root with
    | some outline => .ok (usesOf outline)
    | none => .error .danglingField

/-! ### Passes -/

def resolvedUse? (n : Outline) : Option Use :=
  if n.isLookup then
    match n.resolve? with
    | some path =>
        if path.isEmpty then none
        else some { key := path, line := n.line, column := n.column }
    | none => none
  else none

def detect (source : ByteArray) (root : Numbered) (faulty : Bool) : Except Failure (List Use) :=
  if faulty then .error .malformed
  else
    match Outline.build source root with
    | .ok outline => .ok (outline.walk.filterMap resolvedUse?)
    | .error _ => .error .danglingField

end WebBaseline.Script

import WebBaseline.Script.Outline

/-!
# Paths and walks of outlines

The path of an outline is put together from the parts that are met on the way in, and a walk keeps
a list of the outlines that are still to be visited.  Both are what recursion over the outline
gives: the path of a member is the path of its object with the property behind it, and a walk is
the outline itself followed by the walks of its children.
-/

namespace WebBaseline.Script.Outline

/-! ### Paths -/

theorem partsFrom_append (n : Outline) (passed more : List String) :
    n.partsFrom (passed ++ more) = n.partsFrom passed ++ more := by
  fun_induction partsFrom n passed with
  | case1 callee children line column passed ih => exact ih
  | case2 object property children line column passed ih => exact ih
  | case3 name children line column passed => rfl
  | case4 kind children line column passed => rfl

@[simp] theorem path?_call (callee : Outline) (children : List Outline) (line column : Nat) :
    (call callee children line column).path? = callee.path? := rfl

@[simp] theorem path?_identifier (name : String) (children : List Outline) (line column : Nat) :
    (identifier name children line column).path? = some name := rfl

@[simp] theorem path?_other (kind : String) (children : List Outline) (line column : Nat) :
    (other kind children line column).path? = none := rfl

/-- An object that does not resolve leaves the property alone. -/
theorem path?_member (object : Outline) (property : String) (children : List Outline)
    (line column : Nat) :
    (member object property children line column).path? =
      some (match object.path? with
        | some path => path ++ "." ++ property
        | none => property) := by
  have hparts : object.partsFrom [property] = object.partsFrom [] ++ [property] :=
    object.partsFrom_append [] [property]
  rw [path?, partsFrom, hparts, path?]
  cases hobject : object.partsFrom [] with
  | nil => simp
  | cons part parts =>
      have hjoin := String.intercalate_append_of_ne_nil (s := ".") (l := part :: parts)
        (m := [property]) (by simp) (by simp)
      rw [String.intercalate_singleton] at hjoin
      exact congrArg some hjoin

/-! ### Walks -/

theorem walkInto_before (pending : List Outline) (before found : Array Outline) :
    walkInto pending (before ++ found) = before ++ walkInto pending found := by
  fun_induction walkInto pending found with
  | case1 found => simp only [walkInto]
  | case2 found n rest ih =>
      rw [walkInto, ← Array.append_push]
      exact ih

theorem walkInto_append (first last : List Outline) (found : Array Outline) :
    walkInto (first ++ last) found = walkInto last (walkInto first found) := by
  fun_induction walkInto first found with
  | case1 found => rfl
  | case2 found n rest ih =>
      rw [List.cons_append, walkInto, ← List.append_assoc]
      exact ih

/-- What was found before stands in front of the walks that are to come. -/
theorem toList_walkInto (pending : List Outline) (found : Array Outline) :
    (walkInto pending found).toList = found.toList ++ pending.flatMap walk := by
  induction pending generalizing found with
  | nil => simp [walkInto]
  | cons n rest ih =>
      have hn : (walkInto [n] found).toList = found.toList ++ n.walk := by
        have hbefore := walkInto_before [n] found #[]
        rw [Array.append_empty] at hbefore
        rw [hbefore, Array.toList_append, walk]
      have hsplit := walkInto_append [n] rest found
      rw [List.singleton_append] at hsplit
      rw [hsplit, ih, hn, List.flatMap_cons, List.append_assoc]

/-- A walk visits an outline and then, child by child, what lies below it. -/
theorem walk_eq_cons (n : Outline) : n.walk = n :: n.children.flatMap walk := by
  rw [walk, walkInto, List.append_nil, toList_walkInto]
  rfl

end WebBaseline.Script.Outline

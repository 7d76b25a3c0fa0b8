import WebBaseline.Proofs.Script.Outline
import WebBaseline.Script.Resolving

/-!
# Paths found round by round and by recursion

Whatever was put down before a round stands, turned round, behind the parts that are still to come.
So no round changes the parts that the loop ends with, and these are the parts of the path.  The
path is the one that recursion over the outline gives.  It is missing exactly if calls alone lead to
something that is neither a member nor an identifier, and a chain over an identifier has the name
and the properties of its members as its parts.
-/

namespace WebBaseline.Script

open Outline

/-! ### Rounds -/

namespace Descent

variable {d next : Descent}

/-- The parts of the path that is going to be found. -/
def pathParts (d : Descent) : List String :=
  d.current.partsFrom d.parts.toList.reverse

theorem pathParts_of_round (h : d.round = .inl next) : next.pathParts = d.pathParts := by
  obtain ⟨current, parts⟩ := d
  cases current with
  | call callee children line column =>
      obtain rfl := Sum.inl.inj h
      rfl
  | member object property children line column =>
      obtain rfl := Sum.inl.inj h
      rw [pathParts, pathParts, partsFrom, Array.toList_push, List.reverse_concat]
  | identifier name children line column => cases h
  | other kind children line column => cases h

theorem pathParts_of_last_round {parts : Array String} (h : d.round = .inr parts) :
    parts.toList.reverse = d.pathParts := by
  obtain ⟨current, before⟩ := d
  cases current with
  | call callee children line column => cases h
  | member object property children line column => cases h
  | identifier name children line column =>
      obtain rfl := Sum.inr.inj h
      rw [pathParts, partsFrom, Array.toList_push, List.reverse_concat]
  | other kind children line column =>
      obtain rfl := Sum.inr.inj h
      rfl

theorem reverse_run (d : Descent) : d.run.toList.reverse = d.pathParts := by
  fun_induction run d with
  | case1 d next hround ih => rw [ih, pathParts_of_round hround]
  | case2 d parts hround => exact pathParts_of_last_round hround

end Descent

namespace Outline

theorem resolve?_eq_path? (n : Outline) : n.resolve? = n.path? := by
  have hparts : (Descent.run { current := n, parts := #[] }).toList.reverse = n.partsFrom [] :=
    Descent.reverse_run _
  have hempty :
      (Descent.run { current := n, parts := #[] }).isEmpty = (n.partsFrom []).isEmpty := by
    rw [← hparts, List.isEmpty_reverse, Array.isEmpty_toList]
  simp only [resolve?, hparts, hempty, path?]
  cases n.partsFrom [] with
  | nil => rfl
  | cons part parts => rfl

/-! ### Recursion -/

/-- The dotted path, put together by recursion over the outline. -/
def recursivePath? : Outline → Option String
  | call callee _ _ _ => callee.recursivePath?
  | member object property _ _ _ =>
      match object.recursivePath? with
      | some path => some (path ++ "." ++ property)
      | none => some property
  | identifier name _ _ _ => some name
  | other _ _ _ _ => none

theorem path?_eq_recursivePath? (n : Outline) : n.path? = n.recursivePath? := by
  fun_induction recursivePath? n with
  | case1 callee children line column ih => rw [path?_call, ih]
  | case2 object property children line column path hpath ih => rw [path?_member, ih, hpath]
  | case3 object property children line column hnone ih => rw [path?_member, ih, hnone]
  | case4 name children line column => rw [path?_identifier]
  | case5 kind children line column => rw [path?_other]

/-- What is called in the end, from one callee to the next. -/
def target : Outline → Outline
  | call callee _ _ _ => callee.target
  | n => n

theorem path?_eq_none_iff (n : Outline) :
    n.path? = none ↔
      ∃ kind children line column, n.target = other kind children line column := by
  fun_induction target n with
  | case1 callee children line column ih => rw [path?_call, ih]
  | case2 n hcall =>
      -- Anything but a call is its own target.
      cases n with
      | call callee children line column => exact (hcall callee children line column rfl).elim
      | member object property children line column => simp [path?_member]
      | identifier name children line column => simp
      | other kind children line column => simp

/-! ### Chains -/

/-- What a chain is made of: calls of what stands before, and members of it. -/
inductive Link where
  | call (children : List Outline) (line column : Nat)
  | member (property : String) (children : List Outline) (line column : Nat)

namespace Link

def property? : Link → Option String
  | call _ _ _ => none
  | member property _ _ _ => some property

/-- The call or the member of an outline. -/
def around (n : Outline) : Link → Outline
  | call children line column => .call n children line column
  | member property children line column => .member n property children line column

end Link

/-- An outline with links around it, the first one innermost. -/
def chain (root : Outline) (links : List Link) : Outline :=
  links.foldl Link.around root

theorem partsFrom_chain (root : Outline) (links : List Link) (passed : List String) :
    (chain root links).partsFrom passed =
      root.partsFrom (links.filterMap Link.property? ++ passed) := by
  induction links generalizing root with
  | nil => rfl
  | cons link rest ih =>
      rw [chain, List.foldl_cons, ← chain, ih]
      cases link <;> rfl

theorem path?_chain_identifier (name : String) (children : List Outline) (line column : Nat)
    (links : List Link) :
    (chain (identifier name children line column) links).path? =
      some (".".intercalate (name :: links.filterMap Link.property?)) := by
  rw [path?, partsFrom_chain, partsFrom, List.append_nil]

/-- Between the dots of a path stand its parts, cut at the dots that they have themselves. -/
theorem splitOn_intercalate_dot {parts : List String} (h : parts ≠ []) :
    (".".intercalate parts).toList.splitOn '.' =
      parts.flatMap fun part ↦ part.toList.splitOn '.' := by
  induction parts with
  | nil => exact absurd rfl h
  | cons part rest ih =>
      cases rest with
      | nil => simp
      | cons next rest =>
          have hdot : (".".intercalate (part :: next :: rest)).toList =
              part.toList ++ '.' :: (".".intercalate (next :: rest)).toList := by
            rw [String.intercalate_cons_cons]
            simp
          rw [hdot, List.splitOn_append_cons_self, List.flatMap_cons,
            ih (List.cons_ne_nil next rest)]

/-- The rounds find the path that recursion gives: a call has the path of what it calls, a member
that of its object with the property behind a dot, or the property alone, and an identifier has its
name.  There is no path exactly if calls alone lead to something else.  A chain over an identifier,
with `n` members and any calls among them, has `n + 1` parts joined by dots in the order of the
source: the name and the properties. -/
theorem resolve?_eq_recursivePath? :
    (∀ n : Outline, n.resolve? = n.recursivePath? ∧ n.path? = n.recursivePath? ∧
      (n.resolve? = none ↔
        ∃ kind children line column, n.target = other kind children line column)) ∧
    ∀ (name : String) (children : List Outline) (line column : Nat) (links : List Link),
      let parts := name :: links.filterMap Link.property?
      let path := ".".intercalate parts
      parts.length = (links.countP fun link ↦ link.property?.isSome) + 1 ∧
        (chain (identifier name children line column) links).resolve? = some path ∧
        path.toList.splitOn '.' = parts.flatMap fun part ↦ part.toList.splitOn '.' := by
  constructor
  · intro n
    rw [resolve?_eq_path?]
    exact ⟨n.path?_eq_recursivePath?, n.path?_eq_recursivePath?, n.path?_eq_none_iff⟩
  · intro name children line column links parts path
    refine ⟨?_, ?_, splitOn_intercalate_dot (List.cons_ne_nil name _)⟩
    · rw [List.length_cons, List.length_filterMap_eq_countP]
    · rw [resolve?_eq_path?]
      exact path?_chain_identifier name children line column links

/-- An empty name is a path, which is not the same as no path. -/
example :
    (member (call (identifier "" [] 1 1) [] 1 1) "at" [] 1 1).resolve? = some ".at" ∧
      (member (call (other "this" [] 1 1) [] 1 1) "at" [] 1 1).resolve? = some "at" := by
  constructor <;> cbv

end Outline

end WebBaseline.Script

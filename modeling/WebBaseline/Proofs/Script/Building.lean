import Mathlib.Data.List.Flatten
import Mathlib.Data.List.Nodup
import WebBaseline.Proofs.Lists
import WebBaseline.Proofs.Script.Uses
import WebBaseline.Script.Building

/-!
# Outlines built node by node and by recursion

Taken from the end, the nodes that were collected stand in the order in which a recursion would be
through with them: the nodes below the first named child of a node, those below the second, and so
on, and then the node itself.  So when a node gets its outline, its named children have theirs, and
since no number stands twice none of them was overwritten and no child that is not named has one.
The outline is then the one that the recursion gives, and it is missing for the same trees.
-/

namespace WebBaseline.Syntax.Numbered

/-! ### Trees with and without numbers -/

theorem nodes_eq_map (cs : List Numbered) : nodes cs = cs.map node := by
  induction cs with
  | nil => rw [nodes, List.map_nil]
  | cons c rest ih => rw [nodes, ih, List.map_cons]

theorem children_node (n : Numbered) : n.node.children = n.children.map node := by
  obtain ⟨number, kind, named, missing, first, last, start, fields, cs⟩ := n
  rw [node]
  exact nodes_eq_map cs

theorem namedChildren_node (n : Numbered) : n.node.namedChildren = n.namedChildren.map node := by
  rw [Node.namedChildren, children_node, List.filter_map, namedChildren]
  rfl

theorem field?_node (n : Numbered) (name : String) :
    n.node.field? name = (n.field? name).map node := by
  rw [Node.field?, field?, children_node]
  cases n.node.fields.lookup name with
  | none => rfl
  | some i => exact List.getElem?_map

theorem mem_children_of_field? {n c : Numbered} {name : String} (h : n.field? name = some c) :
    c ∈ n.children := by
  rw [field?] at h
  split at h
  · exact List.mem_of_getElem? h
  · cases h

theorem mem_namedChildren {n c : Numbered} :
    c ∈ n.namedChildren ↔ c ∈ n.children ∧ c.node.named = true :=
  List.mem_filter

theorem sizeOf_lt_of_mem {n c : Numbered} (h : c ∈ n.children) : sizeOf c < sizeOf n :=
  Nat.lt_trans (List.sizeOf_lt_of_mem h) n.sizeOf_children_lt

/-- What holds of a tree whenever it holds of its children holds of every tree. -/
theorem induction_on_children {motive : Numbered → Prop}
    (step : ∀ n : Numbered, (∀ c ∈ n.children, motive c) → motive n) (n : Numbered) : motive n :=
  step n fun c hc ↦
    have : sizeOf c < sizeOf n := sizeOf_lt_of_mem hc
    induction_on_children step c
termination_by sizeOf n

theorem numbers_eq_cons (n : Numbered) : n.numbers = n.number :: numbersOf n.children := by
  obtain ⟨number, kind, named, missing, first, last, start, fields, cs⟩ := n
  rw [numbers]
  rfl

/-! ### The order of building -/

mutual

/-- The nodes that named children lead to, each behind those below it. -/
def finished : Numbered → List Numbered
  | n@(mk _ _ _ _ _ _ _ _ cs) => finishedOf cs ++ [n]

def finishedOf : List Numbered → List Numbered
  | [] => []
  | c :: rest => if c.node.named then c.finished ++ finishedOf rest else finishedOf rest

end

theorem finishedOf_eq_flatMap (cs : List Numbered) :
    finishedOf cs = (cs.filter fun c ↦ c.node.named).flatMap finished := by
  induction cs with
  | nil => rw [finishedOf, List.filter_nil, List.flatMap_nil]
  | cons c rest ih =>
      rw [finishedOf, ih]
      cases hc : c.node.named with
      | true => simp only [List.filter_cons, hc, if_true, List.flatMap_cons]
      | false => simp only [List.filter_cons, hc, Bool.false_eq_true, if_false]

theorem finished_eq_append (n : Numbered) : n.finished = finishedOf n.children ++ [n] := by
  obtain ⟨number, kind, named, missing, first, last, start, fields, cs⟩ := n
  rw [finished]
  rfl

theorem number_mem_numbersOf {cs : List Numbered}
    (h : ∀ c ∈ cs, ∀ m ∈ c.finished, m.number ∈ c.numbers) {m : Numbered}
    (hm : m ∈ finishedOf cs) : m.number ∈ numbersOf cs := by
  induction cs with
  | nil => simp only [finishedOf, List.not_mem_nil] at hm
  | cons c rest ih =>
      have hrest := ih fun d hd ↦ h d (List.mem_cons_of_mem c hd)
      rw [numbersOf, List.mem_append]
      rw [finishedOf] at hm
      split at hm
      · obtain hm | hm := List.mem_append.mp hm
        · exact Or.inl (h c List.mem_cons_self m hm)
        · exact Or.inr (hrest hm)
      · exact Or.inr (hrest hm)

theorem number_mem_numbers (n : Numbered) : ∀ m ∈ n.finished, m.number ∈ n.numbers := by
  induction n using induction_on_children with
  | step n ih =>
      intro m hm
      rw [finished_eq_append, List.mem_append, List.mem_singleton] at hm
      rw [numbers_eq_cons, List.mem_cons]
      obtain hm | rfl := hm
      · exact Or.inr (number_mem_numbersOf ih hm)
      · exact Or.inl rfl

/-- What the stack still holds is collected from the end of the order of building on. -/
theorem collectInto_eq (stack order : List Numbered) :
    collectInto stack order = order ++ (stack.reverse.flatMap finished).reverse := by
  fun_induction collectInto stack order with
  | case1 order => simp
  | case2 order n rest ih =>
      rw [ih]
      simp [finished_eq_append n, finishedOf_eq_flatMap, namedChildren, List.flatMap_append]

theorem reverse_collect (root : Numbered) : root.collect.reverse = root.finished := by
  rw [collect, collectInto_eq]
  simp

end WebBaseline.Syntax.Numbered

namespace WebBaseline.Script

open Syntax

/-- A call whose callee, or a member with a property whose object, is no named child. -/
def Strays (m : Node) : Prop :=
  (m.kind = "call_expression" ∧ ∃ c, m.field? "function" = some c ∧ c ∉ m.namedChildren) ∨
    (m.kind = "member_expression" ∧
      ∃ c p, m.field? "object" = some c ∧ m.field? "property" = some p ∧ c ∉ m.namedChildren)

theorem not_mem_namedChildren_iff {m c : Node} {name : String} (h : m.field? name = some c) :
    c ∉ m.namedChildren ↔ c.named = false := by
  rw [Node.mem_namedChildren, and_iff_right (Node.mem_children_of_field? h), Bool.not_eq_true]

theorem Strays.not_fieldsNamed {m : Node} (h : Strays m) : ¬ FieldsNamed m := by
  intro hnamed
  obtain ⟨hkind, c, hfield, hc⟩ | ⟨hkind, c, p, hfield, hproperty, hc⟩ := h
  · have hfalse := (not_mem_namedChildren_iff hfield).mp hc
    rw [hnamed.function hkind c hfield] at hfalse
    cases hfalse
  · have hfalse := (not_mem_namedChildren_iff hfield).mp hc
    rw [hnamed.object hkind (Option.isSome_of_eq_some hproperty) c hfield] at hfalse
    cases hfalse

namespace Outline

/-! ### The outline of one node -/

variable {source : ByteArray} {n : Numbered} {built built' : Images}

/-- The outlines of named children, where each has one and it is there. -/
theorem mapM_imageAt {cs : List Numbered} (h : ∀ c ∈ cs, ∃ o, ofNode? source c.node = some o ∧
    built.lookup c.number = some o) :
    cs.mapM (imageAt built) = .ok ((cs.map Numbered.node).filterMap (ofNode? source)) := by
  induction cs with
  | nil => rfl
  | cons c rest ih =>
      obtain ⟨o, ho, hlookup⟩ := h c List.mem_cons_self
      have hrest := ih fun d hd ↦ h d (List.mem_cons_of_mem c hd)
      have hc : imageAt built c = .ok o := by rw [imageAt, hlookup]
      rw [List.mapM_cons, hc, hrest, List.map_cons, List.filterMap_cons_some ho]
      rfl

section Step

variable (hbelow : ∀ c ∈ n.namedChildren, ∃ o, ofNode? source c.node = some o ∧
  built.lookup c.number = some o)
  (hunnamed : ∀ c ∈ n.children, c.node.named = false → built.lookup c.number = none)

include hbelow hunnamed

/-- A child under a field is there exactly if it is named. -/
theorem imageAt_field {name : String} {c : Numbered} (hfield : n.field? name = some c) :
    (c.node.named = true ∧ ∃ o, ofNode? source c.node = some o ∧ imageAt built c = .ok o) ∨
      (c.node.named = false ∧ imageAt built c = .error c.number) := by
  have hmem := Numbered.mem_children_of_field? hfield
  cases hnamed : c.node.named with
  | true =>
      obtain ⟨o, ho, hlookup⟩ := hbelow c (Numbered.mem_namedChildren.mpr ⟨hmem, hnamed⟩)
      exact Or.inl ⟨rfl, o, ho, by rw [imageAt, hlookup]⟩
  | false => exact Or.inr ⟨rfl, by rw [imageAt, hunnamed c hmem hnamed]⟩

/-- A node gets the outline that the recursion gives, or it strays and has none. -/
theorem ofImages_cases :
    (∃ o, ofImages source built n = .ok o ∧ ofNode? source n.node = some o) ∨
      ∃ k, ofImages source built n = .error k ∧ Strays n.node := by
  have himages : imagesOf? source n.node.children =
      some (n.node.children.map (image? source)) := by
    apply imagesOf?_eq_some_iff.mpr
    refine ⟨?_, rfl⟩
    intro c hc hnamed
    rw [Numbered.children_node] at hc
    obtain ⟨d, hd, rfl⟩ := List.mem_map.mp hc
    obtain ⟨o, ho, -⟩ := hbelow d (Numbered.mem_namedChildren.mpr ⟨hd, hnamed⟩)
    rw [ho, Option.isSome_some]
  have hchildren := mapM_imageAt hbelow
  rw [← Numbered.namedChildren_node, Node.namedChildren, ← filterMap_images] at hchildren
  have himageOf : ∀ name, imageOf n.node (n.node.children.map (image? source)) name =
      (n.field? name).map fun c ↦ image? source c.node := by
    intro name
    rw [imageOf_map, Numbered.field?_node, Option.map_map]
    rfl
  have hstray : ∀ {name c}, n.field? name = some c → c.node.named = false →
      c.node ∉ n.node.namedChildren := by
    intro name c hfield hc
    have hnode : n.node.field? name = some c.node := by
      rw [Numbered.field?_node, hfield, Option.map_some]
    exact (not_mem_namedChildren_iff hnode).mpr hc
  rw [ofImages, hchildren, ofNode?_eq himages, himageOf, himageOf, Numbered.field?_node]
  simp only [bind, Except.bind, pure, Except.pure]
  by_cases hcall : n.node.kind = "call_expression"
  · simp only [if_pos hcall]
    cases hfunction : n.field? "function" with
    | none => exact Or.inl ⟨_, rfl, rfl⟩
    | some callee =>
        obtain ⟨hnamed, o, ho, himage⟩ | ⟨hnamed, himage⟩ :=
          imageAt_field hbelow hunnamed hfunction
        · left
          simp only [himage, Option.map_some, image?, hnamed, if_true, ho]
          exact ⟨_, rfl, rfl⟩
        · right
          refine ⟨callee.number, ?_, Or.inl ⟨hcall, callee.node, ?_, hstray hfunction hnamed⟩⟩
          · simp only [himage]
          · rw [Numbered.field?_node, hfunction, Option.map_some]
  · simp only [if_neg hcall]
    by_cases hmember : n.node.kind = "member_expression"
    · simp only [if_pos hmember]
      cases hobject : n.field? "object" with
      | none => exact Or.inl ⟨_, rfl, rfl⟩
      | some object =>
          cases hproperty : n.field? "property" with
          | none =>
              refine Or.inl ⟨_, rfl, ?_⟩
              rw [Option.map_some, Option.map_none]
              cases image? source object.node <;> rfl
          | some property =>
              obtain ⟨hnamed, o, ho, himage⟩ | ⟨hnamed, himage⟩ :=
                imageAt_field hbelow hunnamed hobject
              · left
                simp only [himage, Option.map_some, image?, hnamed, if_true, ho]
                exact ⟨_, rfl, rfl⟩
              · right
                refine ⟨object.number, ?_, Or.inr ⟨hmember, object.node, property.node, ?_, ?_,
                  hstray hobject hnamed⟩⟩
                · simp only [himage]
                · rw [Numbered.field?_node, hobject, Option.map_some]
                · rw [Numbered.field?_node, hproperty, Option.map_some]
    · simp only [if_neg hmember]
      split
      · exact Or.inl ⟨_, rfl, rfl⟩
      · exact Or.inl ⟨_, rfl, rfl⟩

end Step

/-! ### The outlines of a tree -/

theorem buildInto_append (first last : List Numbered) (built : Images) :
    buildInto source (first ++ last) built =
      (buildInto source first built).bind (buildInto source last) := by
  fun_induction buildInto source first built with
  | case1 built => rfl
  | case2 n rest built ih =>
      rw [List.cons_append, buildInto]
      cases ofImages source built n with
      | error k => rfl
      | ok image => exact ih image

/-- What is there stays there under every number that is not the number of a new node. -/
theorem lookup_of_buildInto {ns : List Numbered} (h : buildInto source ns built = .ok built')
    {k : Nat} (hk : ∀ m ∈ ns, m.number ≠ k) : built'.lookup k = built.lookup k := by
  induction ns generalizing built with
  | nil =>
      obtain rfl := Except.ok.inj h
      rfl
  | cons n rest ih =>
      rw [buildInto] at h
      cases himage : ofImages source built n with
      | error j =>
          rw [himage] at h
          cases h
      | ok image =>
          rw [himage] at h
          have hn : (k == n.number) = false :=
            beq_false_of_ne fun heq ↦ hk n List.mem_cons_self heq.symm
          rw [ih h fun m hm ↦ hk m (List.mem_cons_of_mem n hm), List.lookup_cons, hn]

/-- Building the nodes of a tree gives the tree its outline, or one of its nodes strays. -/
def Built (source : ByteArray) (n : Numbered) (built : Images) : Prop :=
  (∃ built' o, buildInto source n.finished built = .ok built' ∧ ofNode? source n.node = some o ∧
      built'.lookup n.number = some o) ∨
    ∃ k, buildInto source n.finished built = .error k ∧ ∃ m ∈ n.node.namedNodes, Strays m

/-- No number of these is in use. -/
def Fresh (built : Images) (numbers : List Nat) : Prop :=
  ∀ k ∈ numbers, built.lookup k = none

/-- When the nodes below some siblings are built, the named siblings have their outlines and the
others have none. -/
theorem buildInto_finishedOf {cs : List Numbered}
    (ih : ∀ c ∈ cs, ∀ built, c.numbers.Nodup → Fresh built c.numbers → Built source c built)
    (hnodup : (Numbered.numbersOf cs).Nodup) (hfresh : Fresh built (Numbered.numbersOf cs)) :
    (∃ built', buildInto source (Numbered.finishedOf cs) built = .ok built' ∧
      (∀ c ∈ cs, c.node.named = true → ∃ o, ofNode? source c.node = some o ∧
        built'.lookup c.number = some o) ∧
      ∀ c ∈ cs, c.node.named = false → built'.lookup c.number = none) ∨
    ∃ k, buildInto source (Numbered.finishedOf cs) built = .error k ∧
      ∃ c ∈ cs, c.node.named = true ∧ ∃ m ∈ c.node.namedNodes, Strays m := by
  induction cs generalizing built with
  | nil => exact Or.inl ⟨built, rfl, by simp, by simp⟩
  | cons c rest ihrest =>
      rw [Numbered.numbersOf] at hnodup hfresh
      obtain ⟨hself, hothers, hdisjoint⟩ := List.nodup_append.mp hnodup
      have hnumber : c.number ∈ c.numbers := by
        rw [Numbered.numbers_eq_cons]
        exact List.mem_cons_self
      have hkept : ∀ {before after : Images},
          buildInto source (Numbered.finishedOf rest) before = .ok after →
            after.lookup c.number = before.lookup c.number := by
        intro before after h
        apply lookup_of_buildInto h
        intro m hm heq
        have hm := Numbered.number_mem_numbersOf (fun d _ ↦ d.number_mem_numbers) hm
        exact hdisjoint _ hnumber _ hm heq.symm
      have ihbelow : ∀ d ∈ rest, ∀ built, d.numbers.Nodup → Fresh built d.numbers →
          Built source d built := fun d hd ↦ ih d (List.mem_cons_of_mem c hd)
      rw [Numbered.finishedOf]
      cases hnamed : c.node.named with
      | false =>
          simp only [Bool.false_eq_true, if_false]
          obtain ⟨built', hbuilt, hrest, hnone⟩ | ⟨k, hbuilt, d, hd, hstrays⟩ :=
            ihrest ihbelow hothers fun k hk ↦ hfresh k (List.mem_append_right _ hk)
          · have hc : built'.lookup c.number = none := by
              rw [hkept hbuilt]
              exact hfresh _ (List.mem_append_left _ hnumber)
            exact Or.inl ⟨built', hbuilt, List.forall_mem_cons.mpr ⟨by simp [hnamed], hrest⟩,
              List.forall_mem_cons.mpr ⟨fun _ ↦ hc, hnone⟩⟩
          · exact Or.inr ⟨k, hbuilt, d, List.mem_cons_of_mem c hd, hstrays⟩
      | true =>
          simp only [if_true, buildInto_append]
          obtain ⟨built₁, o, hbuilt₁, ho, hlookup⟩ | ⟨k, hbuilt₁, hstrays⟩ :=
            ih c List.mem_cons_self built hself fun k hk ↦ hfresh k (List.mem_append_left _ hk)
          · have hfresh₁ : Fresh built₁ (Numbered.numbersOf rest) := by
              intro k hk
              rw [lookup_of_buildInto hbuilt₁, hfresh k (List.mem_append_right _ hk)]
              intro m hm heq
              exact hdisjoint _ (c.number_mem_numbers m hm) _ hk heq
            rw [hbuilt₁]
            obtain ⟨built', hbuilt, hrest, hnone⟩ | ⟨k, hbuilt, d, hd, hstrays⟩ :=
              ihrest ihbelow hothers hfresh₁
            · have hc := (hkept hbuilt).trans hlookup
              exact Or.inl ⟨built', hbuilt, List.forall_mem_cons.mpr ⟨fun _ ↦ ⟨o, ho, hc⟩, hrest⟩,
                List.forall_mem_cons.mpr ⟨by simp [hnamed], hnone⟩⟩
            · exact Or.inr ⟨k, hbuilt, d, List.mem_cons_of_mem c hd, hstrays⟩
          · exact Or.inr ⟨k, by rw [hbuilt₁]; rfl, c, List.mem_cons_self, hnamed, hstrays⟩

theorem built_of_fresh (source : ByteArray) (n : Numbered) :
    ∀ built, n.numbers.Nodup → Fresh built n.numbers → Built source n built := by
  induction n using Numbered.induction_on_children with
  | step n ih =>
      intro built hnodup hfresh
      rw [Numbered.numbers_eq_cons] at hnodup hfresh
      rw [Built, Numbered.finished_eq_append, buildInto_append]
      obtain ⟨built', hbuilt, hnamed, hunnamed⟩ | ⟨k, hbuilt, c, hc, hcnamed, m, hm, hstrays⟩ :=
        buildInto_finishedOf ih (List.nodup_cons.mp hnodup).2
          fun k hk ↦ hfresh k (List.mem_cons_of_mem _ hk)
      · have hbelow : ∀ c ∈ n.namedChildren, ∃ o, ofNode? source c.node = some o ∧
            built'.lookup c.number = some o := by
          intro c hc
          obtain ⟨hmem, hcnamed⟩ := Numbered.mem_namedChildren.mp hc
          exact hnamed c hmem hcnamed
        rw [hbuilt]
        obtain ⟨o, hofImages, ho⟩ | ⟨k, hofImages, hstrays⟩ := ofImages_cases hbelow hunnamed
        · refine Or.inl ⟨(n.number, o) :: built', o, ?_, ho, List.lookup_cons_self⟩
          simp only [Except.bind, buildInto, bind, hofImages]
        · refine Or.inr ⟨k, ?_, n.node, n.node.self_mem_namedNodes, hstrays⟩
          simp only [Except.bind, buildInto, bind, hofImages]
      · refine Or.inr ⟨k, by rw [hbuilt]; rfl, m, ?_, hstrays⟩
        apply Node.mem_namedNodes_of_mem _ hm
        rw [Numbered.namedChildren_node]
        exact List.mem_map_of_mem (Numbered.mem_namedChildren.mpr ⟨hc, hcnamed⟩)

/-! ### The outline that recursion gives -/

/-- The outline of a node, given the outlines of its named children. -/
inductive Shape (source : ByteArray) (n : Node) (children : List Outline) : Outline → Prop
  | call {c : Node} {callee : Outline} (kind : n.kind = "call_expression")
      (function : n.field? "function" = some c)
      (place : (c, callee) ∈ n.namedChildren.zip children) :
      Shape source n children (call callee children (n.start.row + 1) (n.start.column + 1))
  | member {c p : Node} {object : Outline} (kind : n.kind = "member_expression")
      (field : n.field? "object" = some c) (property : n.field? "property" = some p)
      (place : (c, object) ∈ n.namedChildren.zip children) :
      Shape source n children
        (member object (p.text source) children (n.start.row + 1) (n.start.column + 1))
  | identifier (kind : n.kind = "identifier") :
      Shape source n children
        (identifier (n.text source) children (n.start.row + 1) (n.start.column + 1))
  | other (kind : n.kind ≠ "identifier") (lookup : ¬ IsLookup n) :
      Shape source n children (other n.kind children (n.start.row + 1) (n.start.column + 1))

/-- The outline of a tree: the outlines of the named children, and what becomes of the node. -/
inductive Image (source : ByteArray) : Node → Outline → Prop
  | of {n : Node} {o : Outline} {children : List Outline}
      (below : List.Forall₂ (Image source) n.namedChildren children)
      (shape : Shape source n children o) : Image source n o

theorem Shape.children_eq {m : Node} {children : List Outline} {o : Outline}
    (h : Shape source m children o) : o.children = children := by
  cases h <;> rfl

theorem mem_zip_iff {cs : List Node} {os : List Outline}
    (h : List.Forall₂ (fun c o ↦ ofNode? source c = some o) cs os) {c : Node} {o : Outline} :
    (c, o) ∈ cs.zip os ↔ c ∈ cs ∧ ofNode? source c = some o := by
  induction h with
  | nil => simp
  | @cons d d' ds ds' hd hds ih =>
      rw [List.zip_cons_cons, List.mem_cons, List.mem_cons, ih, Prod.mk.injEq]
      constructor
      · rintro (⟨rfl, rfl⟩ | ⟨hc, ho⟩)
        · exact ⟨Or.inl rfl, hd⟩
        · exact ⟨Or.inr hc, ho⟩
      · rintro ⟨rfl | hc, ho⟩
        · exact Or.inl ⟨rfl, Option.some.inj (ho.symm.trans hd)⟩
        · exact Or.inr ⟨hc, ho⟩

theorem filterMap_of_forall₂ {cs : List Node} {os : List Outline}
    (h : List.Forall₂ (fun c o ↦ ofNode? source c = some o) cs os) :
    cs.filterMap (ofNode? source) = os := by
  induction h with
  | nil => rfl
  | cons hc _ ih => rw [List.filterMap_cons_some hc, ih]

theorem image?_eq_some_iff {m c : Node} {name : String} {children : List Outline} {o : Outline}
    (h : List.Forall₂ (fun c o ↦ ofNode? source c = some o) m.namedChildren children)
    (hfield : m.field? name = some c) :
    image? source c = some o ↔ (c, o) ∈ m.namedChildren.zip children := by
  rw [mem_zip_iff h, Node.mem_namedChildren, and_iff_right (Node.mem_children_of_field? hfield)]
  exact Option.ite_none_right_eq_some

section Kinds

variable {m : Node} {children : List Outline}
  (h : List.Forall₂ (fun c o ↦ ofNode? source c = some o) m.namedChildren children)

include h

theorem images_of_forall₂ :
    imagesOf? source m.children = some (m.children.map (image? source)) ∧
      (m.children.map (image? source)).filterMap id = children := by
  constructor
  · apply imagesOf?_eq_some_iff.mpr
    refine ⟨fun c hc hnamed ↦ ?_, rfl⟩
    have hall := exists_forall₂_iff.mp ⟨children, h⟩
    exact Option.isSome_iff_exists.mpr (hall c (Node.mem_namedChildren.mpr ⟨hc, hnamed⟩))
  · rw [filterMap_images]
    exact filterMap_of_forall₂ h

theorem ofNode?_call {c : Node} (kind : m.kind = "call_expression")
    (function : m.field? "function" = some c) :
    ofNode? source m = (image? source c).map fun callee ↦
      call callee children (m.start.row + 1) (m.start.column + 1) := by
  obtain ⟨himages, hchildren⟩ := images_of_forall₂ h
  rw [ofNode?_eq himages, if_pos kind, imageOf_map, function, Option.map_some, hchildren]
  cases image? source c <;> rfl

theorem ofNode?_member {c p : Node} (kind : m.kind = "member_expression")
    (field : m.field? "object" = some c) (property : m.field? "property" = some p) :
    ofNode? source m = (image? source c).map fun object ↦
      member object (p.text source) children (m.start.row + 1) (m.start.column + 1) := by
  obtain ⟨himages, hchildren⟩ := images_of_forall₂ h
  rw [ofNode?_eq himages, if_neg (by simp [kind]), if_pos kind, imageOf_map, field, property,
    Option.map_some, hchildren]
  cases image? source c <;> rfl

theorem ofNode?_identifier (kind : m.kind = "identifier") :
    ofNode? source m =
      some (identifier (m.text source) children (m.start.row + 1) (m.start.column + 1)) := by
  obtain ⟨himages, hchildren⟩ := images_of_forall₂ h
  rw [ofNode?_eq himages, if_neg (by simp [kind]), if_neg (by simp [kind]), if_pos kind, hchildren]

theorem ofNode?_other (kind : m.kind ≠ "identifier") (lookup : ¬ IsLookup m) :
    ofNode? source m =
      some (other m.kind children (m.start.row + 1) (m.start.column + 1)) := by
  obtain ⟨himages, hchildren⟩ := images_of_forall₂ h
  obtain ⟨hfunction, hfields⟩ := not_or.mp lookup
  rw [ofNode?_eq himages, imageOf_map, imageOf_map, hchildren]
  by_cases hcall : m.kind = "call_expression"
  · have hnone := Option.not_isSome_iff_eq_none.mp fun hsome ↦ hfunction ⟨hcall, hsome⟩
    rw [if_pos hcall, hnone, Option.map_none]
  · rw [if_neg hcall]
    by_cases hmember : m.kind = "member_expression"
    · rw [if_pos hmember]
      cases hobject : m.field? "object" with
      | none => rfl
      | some c =>
          have hnone := Option.not_isSome_iff_eq_none.mp fun hsome ↦
            hfields ⟨hmember, Option.isSome_of_eq_some hobject, hsome⟩
          rw [hnone, Option.map_some]
          cases image? source c <;> rfl
    · rw [if_neg hmember, if_neg kind]

theorem ofNode?_eq_some_iff_shape {o : Outline} :
    ofNode? source m = some o ↔ Shape source m children o := by
  constructor
  · intro ho
    by_cases hidentifier : m.kind = "identifier"
    · rw [ofNode?_identifier h hidentifier] at ho
      obtain rfl := Option.some.inj ho
      exact Shape.identifier hidentifier
    by_cases hlookup : IsLookup m
    · obtain ⟨kind, hfunction⟩ | ⟨kind, hobject, hproperty⟩ := hlookup
      · obtain ⟨c, function⟩ := Option.isSome_iff_exists.mp hfunction
        rw [ofNode?_call h kind function] at ho
        obtain ⟨callee, himage, rfl⟩ := Option.map_eq_some_iff.mp ho
        exact Shape.call kind function ((image?_eq_some_iff h function).mp himage)
      · obtain ⟨c, field⟩ := Option.isSome_iff_exists.mp hobject
        obtain ⟨p, property⟩ := Option.isSome_iff_exists.mp hproperty
        rw [ofNode?_member h kind field property] at ho
        obtain ⟨object, himage, rfl⟩ := Option.map_eq_some_iff.mp ho
        exact Shape.member kind field property ((image?_eq_some_iff h field).mp himage)
    · rw [ofNode?_other h hidentifier hlookup] at ho
      obtain rfl := Option.some.inj ho
      exact Shape.other hidentifier hlookup
  · intro hshape
    cases hshape with
    | call kind function place =>
        rw [ofNode?_call h kind function, (image?_eq_some_iff h function).mpr place]
        rfl
    | member kind field property place =>
        rw [ofNode?_member h kind field property, (image?_eq_some_iff h field).mpr place]
        rfl
    | identifier kind => exact ofNode?_identifier h kind
    | other kind lookup => exact ofNode?_other h kind lookup

end Kinds

theorem ofNode?_eq_some_iff (m : Node) : ∀ o, ofNode? source m = some o ↔ Image source m o := by
  induction m using Node.induction_on_children with
  | step m ih =>
      intro o
      have ihnamed : ∀ c ∈ m.namedChildren, ∀ o, ofNode? source c = some o ↔ Image source c o :=
        fun c hc ↦ ih c (Node.mem_namedChildren.mp hc).1
      constructor
      · intro ho
        have hfields := fieldsNamed_of_isSome (Option.isSome_of_eq_some ho)
        obtain ⟨children, hchildren⟩ : ∃ children,
            List.Forall₂ (fun c o ↦ ofNode? source c = some o) m.namedChildren children := by
          apply exists_forall₂_iff.mpr
          intro c hc
          obtain ⟨o, ho, -⟩ :=
            exists_outline source fun d hd ↦ hfields d (Node.mem_namedNodes_of_mem hc hd)
          exact ⟨o, ho⟩
        exact Image.of (forall₂_imp_of_mem (fun c hc o _ ↦ (ihnamed c hc o).mp) hchildren)
          ((ofNode?_eq_some_iff_shape hchildren).mp ho)
      · rintro ⟨hbelow, hshape⟩
        have hchildren := forall₂_imp_of_mem (fun c hc o _ ↦ (ihnamed c hc o).mpr) hbelow
        exact (ofNode?_eq_some_iff_shape hchildren).mpr hshape

/-- A walk meets the outlines of the nodes that named children lead to, one after the other. -/
theorem Image.walk {m : Node} : ∀ {o : Outline}, Image source m o →
    List.Forall₂ (Image source) m.namedNodes o.walk := by
  induction m using Node.induction_on_children with
  | step m ih =>
      intro o himage
      rw [Node.namedNodes_eq_cons, walk_eq_cons]
      refine List.Forall₂.cons himage ?_
      obtain ⟨hbelow, hshape⟩ := himage
      rw [hshape.children_eq]
      have hwalks : List.Forall₂
          (fun (c : Node) (o : Outline) ↦ List.Forall₂ (Image source) c.namedNodes o.walk) _ _ :=
        forall₂_imp_of_mem (fun c hc o _ ↦ ih c (Node.mem_namedChildren.mp hc).1) hbelow
      exact List.rel_flatMap hwalks fun _ _ h ↦ h

theorem ofNode?_eq_none_of_strays {m : Node} (h : ∃ d ∈ m.namedNodes, Strays d) :
    ofNode? source m = none := by
  obtain ⟨d, hd, hstrays⟩ := h
  apply Option.not_isSome_iff_eq_none.mp
  intro hsome
  exact hstrays.not_fieldsNamed (fieldsNamed_of_isSome hsome d hd)

section Whole

variable (source) (root : Numbered) (hnodup : root.numbers.Nodup)

include hnodup

/-- Building comes to the outline of the recursion, or upon a node that strays. -/
theorem build_cases :
    (∃ o, build source root = .ok o ∧ ofNode? source root.node = some o) ∨
      ∃ k, build source root = .error k ∧ ∃ m ∈ root.node.namedNodes, Strays m := by
  rw [build, Numbered.reverse_collect]
  obtain ⟨built, o, hbuilt, ho, hlookup⟩ | ⟨k, hbuilt, hstrays⟩ :=
    built_of_fresh source root [] hnodup fun k _ ↦ rfl
  · refine Or.inl ⟨o, ?_, ho⟩
    simp only [hbuilt, bind, Except.bind, imageAt, hlookup]
  · refine Or.inr ⟨k, ?_, hstrays⟩
    simp only [hbuilt, bind, Except.bind]

theorem toOption_build : (build source root).toOption = ofNode? source root.node := by
  obtain ⟨o, hbuild, ho⟩ | ⟨k, hbuild, hstrays⟩ := build_cases source root hnodup
  · rw [hbuild, ho]
    rfl
  · rw [hbuild, ofNode?_eq_none_of_strays hstrays]
    rfl

end Whole

/-- Where no number stands twice, building fails exactly if some node strays: a call whose callee,
or a member with a property whose object, is no named child.  Otherwise the outline is that of the
tree by recursion.  A walk meets an outline before those below it, and so the outlines of the nodes
that named children lead to in document order. -/
theorem build_eq_image (source : ByteArray) (root : Numbered) (hnodup : root.numbers.Nodup) :
    ((∃ k, build source root = .error k) ↔
      ∃ m ∈ root.node.namedNodes,
        (m.kind = "call_expression" ∧ ∃ c, m.field? "function" = some c ∧ c ∉ m.namedChildren) ∨
          (m.kind = "member_expression" ∧ ∃ c p, m.field? "object" = some c ∧
            m.field? "property" = some p ∧ c ∉ m.namedChildren)) ∧
      (∀ o, build source root = .ok o ↔ Image source root.node o) ∧
      (build source root).toOption = ofNode? source root.node ∧
      ∀ o, build source root = .ok o →
        o.walk = o :: o.children.flatMap walk ∧
          List.Forall₂ (Image source) root.node.namedNodes o.walk := by
  have hcases := build_cases source root hnodup
  have hoption := toOption_build source root hnodup
  have himage : ∀ o, build source root = .ok o ↔ Image source root.node o := by
    intro o
    rw [← ofNode?_eq_some_iff, ← hoption]
    cases build source root <;> simp [Except.toOption]
  refine ⟨⟨?_, ?_⟩, himage, hoption, fun o ho ↦ ⟨o.walk_eq_cons, ((himage o).mp ho).walk⟩⟩
  · rintro ⟨k, hk⟩
    obtain ⟨o, hbuild, -⟩ | ⟨-, -, hstrays⟩ := hcases
    · rw [hk] at hbuild
      cases hbuild
    · exact hstrays
  · intro hstrays
    obtain ⟨o, -, ho⟩ | ⟨k, hbuild, -⟩ := hcases
    · rw [ofNode?_eq_none_of_strays hstrays] at ho
      cases ho
    · exact ⟨k, hbuild⟩

/-- In `a.b(f())` each of the two calls holds what became of its callee.  If `a.b` were no named
node, building would fail. -/
theorem build_eq_image_nested :
    let leaf (number : Nat) (kind : String) (first last : Nat) : Numbered :=
      .mk number kind true false first last ⟨0, first⟩ [] []
    let callee (named : Bool) : Numbered := .mk 5 "member_expression" named false 0 3 ⟨0, 0⟩
      [("object", 0), ("property", 2)]
      [leaf 2 "identifier" 0 1, .mk 0 "." false false 1 2 ⟨0, 1⟩ [] [],
        leaf 9 "property_identifier" 2 3]
    let inner : Numbered := .mk 4 "call_expression" true false 4 7 ⟨0, 4⟩ [("function", 0)]
      [leaf 7 "identifier" 4 5]
    let root (named : Bool) : Numbered := .mk 3 "call_expression" true false 0 8 ⟨0, 0⟩
      [("function", 0)] [callee named, .mk 8 "arguments" true false 3 8 ⟨0, 3⟩ [] [inner]]
    let a : Outline := identifier "a" [] 1 1
    let f : Outline := identifier "f" [] 1 5
    let path : Outline := member a "b" [a, other "property_identifier" [] 1 3] 1 1
    let image : Outline := call path [path, other "arguments" [call f [f] 1 5] 1 4] 1 1
    (root true).numbers.Nodup ∧ build "a.b(f())".toUTF8 (root true) = .ok image ∧
      Image "a.b(f())".toUTF8 (root true).node image ∧
      image.walk = image :: image.children.flatMap walk ∧
      (root false).numbers.Nodup ∧ ∃ k, build "a.b(f())".toUTF8 (root false) = .error k := by
  intro leaf callee inner root a f path image
  have hnodup : ∀ named, (root named).numbers.Nodup := by decide
  obtain ⟨-, himage, hoption, hwalk⟩ := build_eq_image "a.b(f())".toUTF8 (root true) (hnodup true)
  have hbuild : build "a.b(f())".toUTF8 (root true) = .ok image := by
    have hsome : (build "a.b(f())".toUTF8 (root true)).toOption = some image := by
      have ha : Text.decodeLenient ("a.b(f())".toByteArray.extract 0 1).toList = "a" := by
        decide +kernel
      have hb : Text.decodeLenient ("a.b(f())".toByteArray.extract 2 3).toList = "b" := by
        decide +kernel
      have hf : Text.decodeLenient ("a.b(f())".toByteArray.extract 4 5).toList = "f" := by
        decide +kernel
      rw [hoption]
      simp [root, callee, inner, leaf, image, path, a, f, Numbered.node, Numbered.nodes, ofNode?,
        imagesOf?, imageOf, Node.named, Node.fields, Node.field?, Node.children, Node.text,
        Node.first, Node.last, List.lookup_cons, ha, hb, hf]
    cases hresult : build "a.b(f())".toUTF8 (root true) with
    | error k =>
        rw [hresult] at hsome
        cases hsome
    | ok o =>
        rw [hresult] at hsome
        obtain rfl := Option.some.inj hsome
        rfl
  refine ⟨hnodup true, hbuild, (himage image).mp hbuild, (hwalk image hbuild).1, hnodup false, ?_⟩
  apply (build_eq_image "a.b(f())".toUTF8 (root false) (hnodup false)).1.mpr
  refine ⟨(root false).node, Node.self_mem_namedNodes _, Or.inl ⟨rfl, (callee false).node, rfl, ?_⟩⟩
  intro hmem
  cases (Node.mem_namedChildren.mp hmem).2

end Outline

end WebBaseline.Script

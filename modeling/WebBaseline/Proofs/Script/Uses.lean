import WebBaseline.Proofs.Script.Outline
import WebBaseline.Proofs.Syntax
import WebBaseline.Script.Uses

/-!
# Uses by recursion over the syntax tree

The uses of a script are found in its outline.  They can be read off the syntax tree itself: every
node that named children lead to, in document order, gives one use if it is a call or a member
whose path, put together by recursion over the tree, says something.
-/

namespace WebBaseline.Script

open Syntax

variable {source : ByteArray} {n : Node}

/-! ### The path of a node -/

/-- The dotted path of a node, if it has one. -/
def pathOf? (source : ByteArray) (n : Node) : Option String :=
  if n.kind = "call_expression" then
    match _hcallee : n.field? "function" with
    | some callee => pathOf? source callee
    | none => none
  else if n.kind = "member_expression" then
    match _hobject : n.field? "object", n.field? "property" with
    | some object, some property =>
        match pathOf? source object with
        | some path => some (path ++ "." ++ property.text source)
        | none => some (property.text source)
    | _, _ => none
  else if n.kind = "identifier" then some (n.text source)
  else none
termination_by sizeOf n
decreasing_by
  · exact Node.sizeOf_lt_of_field? _hcallee
  · exact Node.sizeOf_lt_of_field? _hobject

/-- A call that calls something, or a member that has an object and a property. -/
def IsLookup (n : Node) : Prop :=
  (n.kind = "call_expression" ∧ (n.field? "function").isSome = true) ∨
    (n.kind = "member_expression" ∧ (n.field? "object").isSome = true ∧
      (n.field? "property").isSome = true)

instance (n : Node) : Decidable (IsLookup n) := inferInstanceAs (Decidable (_ ∨ _))

/-- The use of a node. -/
def useAt? (source : ByteArray) (n : Node) : Option Use :=
  if IsLookup n then
    ((pathOf? source n).filter fun path ↦ path ≠ "").map fun path ↦
      { key := path, line := n.start.row + 1, column := n.start.column + 1 }
  else none

theorem useAt?_eq_some_iff {u : Use} :
    useAt? source n = some u ↔
      IsLookup n ∧ ∃ path, pathOf? source n = some path ∧ path ≠ "" ∧
        { key := path, line := n.start.row + 1, column := n.start.column + 1 } = u := by
  rw [useAt?]
  by_cases hlookup : IsLookup n
  · simp only [hlookup, if_true, true_and, Option.map_eq_some_iff, Option.filter_eq_some_iff,
      decide_eq_true_eq, and_assoc]
  · simp [hlookup]

/-- What a call calls and the object of a member with a property are named children. -/
structure FieldsNamed (n : Node) : Prop where
  function : n.kind = "call_expression" → ∀ c, n.field? "function" = some c → c.named = true
  object : n.kind = "member_expression" → (n.field? "property").isSome = true →
    ∀ c, n.field? "object" = some c → c.named = true

instance (n : Node) : Decidable (FieldsNamed n) :=
  decidable_of_iff
    ((n.kind = "call_expression" → ∀ c ∈ n.field? "function", c.named = true) ∧
      (n.kind = "member_expression" → (n.field? "property").isSome = true →
        ∀ c ∈ n.field? "object", c.named = true))
    ⟨fun h ↦ ⟨h.1, h.2⟩, fun h ↦ ⟨h.1, h.2⟩⟩

theorem pathOf?_call (source : ByteArray) (hkind : n.kind = "call_expression") :
    pathOf? source n = (n.field? "function").bind (pathOf? source) := by
  rw [pathOf?, if_pos hkind]
  split
  · rename_i callee hcallee
    rw [hcallee, Option.bind_some]
  · rename_i hcallee
    rw [hcallee, Option.bind_none]

theorem pathOf?_member (source : ByteArray) (hkind : n.kind = "member_expression") :
    pathOf? source n = (n.field? "object").bind fun object ↦ (n.field? "property").map
      fun property ↦
        match pathOf? source object with
        | some path => path ++ "." ++ property.text source
        | none => property.text source := by
  rw [pathOf?, if_neg (by simp [hkind]), if_pos hkind]
  split
  · rename_i object property hobject hproperty
    rw [hobject, hproperty]
    simp only [Option.bind_some, Option.map_some]
    split <;> rfl
  · rename_i hnone
    cases hobject : n.field? "object" with
    | none => rfl
    | some object =>
        cases hproperty : n.field? "property" with
        | none => rfl
        | some property => exact (hnone object property hobject hproperty).elim

theorem pathOf?_identifier (hkind : n.kind = "identifier") :
    pathOf? source n = some (n.text source) := by
  rw [pathOf?, if_neg (by simp [hkind]), if_neg (by simp [hkind]), if_pos hkind]

/-! ### The outlines of children -/

namespace Outline

/-- The outline of a child; an anonymous child has none. -/
def image? (source : ByteArray) (c : Node) : Option Outline :=
  if c.named then ofNode? source c else none

theorem imagesOf?_eq_some_iff {cs : List Node} {images : List (Option Outline)} :
    imagesOf? source cs = some images ↔
      (∀ c ∈ cs, c.named = true → (ofNode? source c).isSome = true) ∧
        cs.map (image? source) = images := by
  induction cs generalizing images with
  | nil => simp [imagesOf?]
  | cons c rest ih =>
      rw [imagesOf?, List.forall_mem_cons, List.map_cons]
      cases hrest : imagesOf? source rest with
      | none =>
          have hnot : ¬ ∀ d ∈ rest, d.named = true → (ofNode? source d).isSome = true := by
            intro hall
            have hsome := ih.mpr ⟨hall, rfl⟩
            rw [hrest] at hsome
            cases hsome
          exact ⟨fun h ↦ (by cases h), fun h ↦ absurd h.1.2 hnot⟩
      | some more =>
          obtain ⟨hall, rfl⟩ := ih.mp hrest
          cases hc : c.named with
          | false => simp [image?, hc, and_iff_right hall]
          | true =>
              cases ho : ofNode? source c with
              | none => simp
              | some o => simp [image?, hc, ho, and_iff_right hall]

theorem imageOf_map (n : Node) (name : String) :
    imageOf n (n.children.map (image? source)) name = (n.field? name).map (image? source) := by
  rw [imageOf, Node.field?]
  cases n.fields.lookup name with
  | none => rfl
  | some i => exact List.getElem?_map

theorem ofNode?_eq {images : List (Option Outline)}
    (himages : imagesOf? source n.children = some images) :
    ofNode? source n =
      if n.kind = "call_expression" then
        match imageOf n images "function" with
        | some (some callee) =>
            some (call callee (images.filterMap id) (n.start.row + 1) (n.start.column + 1))
        | some none => none
        | none => some (other n.kind (images.filterMap id) (n.start.row + 1) (n.start.column + 1))
      else if n.kind = "member_expression" then
        match imageOf n images "object", n.field? "property" with
        | some (some object), some property =>
            some (member object (property.text source) (images.filterMap id) (n.start.row + 1)
              (n.start.column + 1))
        | some none, some _ => none
        | _, _ => some (other n.kind (images.filterMap id) (n.start.row + 1) (n.start.column + 1))
      else if n.kind = "identifier" then
        some (identifier (n.text source) (images.filterMap id) (n.start.row + 1)
          (n.start.column + 1))
      else some (other n.kind (images.filterMap id) (n.start.row + 1) (n.start.column + 1)) := by
  obtain ⟨kind, named, missing, first, last, start, fields, children⟩ := n
  have himages : imagesOf? source children = some images := himages
  rw [ofNode?, himages]
  rfl

/-- What an outline shows of its node. -/
structure Depicts (source : ByteArray) (o : Outline) (n : Node) : Prop where
  isLookup : o.isLookup = true ↔ IsLookup n
  path : o.path? = pathOf? source n
  line : o.line = n.start.row + 1
  column : o.column = n.start.column + 1
  children : o.children = n.namedChildren.filterMap (ofNode? source)

theorem filterMap_images (source : ByteArray) (cs : List Node) :
    (cs.map (image? source)).filterMap id = (cs.filter Node.named).filterMap (ofNode? source) := by
  rw [List.filterMap_map, List.filterMap_filter]
  rfl

theorem Depicts.useOf? {o : Outline} (h : Depicts source o n) : useOf? o = useAt? source n := by
  rw [Script.useOf?, useAt?, h.path]
  by_cases hlookup : IsLookup n
  · rw [if_pos (h.isLookup.mpr hlookup), if_pos hlookup]
    cases pathOf? source n with
    | none => rfl
    | some path => by_cases hpath : path = "" <;> simp [hpath, Option.filter, h.line, h.column]
  · rw [if_neg (fun htrue ↦ hlookup (h.isLookup.mp htrue)), if_neg hlookup]

section Step

variable (hbelow : ∀ c ∈ n.namedChildren, ∃ o, ofNode? source c = some o ∧
  o.path? = pathOf? source c)

include hbelow

/-- A named child under a field has an outline, which the images of the children hold. -/
theorem exists_imageOf {name : String} {c : Node} (hfield : n.field? name = some c)
    (hnamed : c.named = true) :
    ∃ o, imageOf n (n.children.map (image? source)) name = some (some o) ∧
      o.path? = pathOf? source c := by
  have hmem : c ∈ n.namedChildren :=
    Node.mem_namedChildren.mpr ⟨Node.mem_children_of_field? hfield, hnamed⟩
  obtain ⟨o, ho, hpath⟩ := hbelow c hmem
  refine ⟨o, ?_, hpath⟩
  rw [imageOf_map, hfield, Option.map_some, image?, if_pos hnamed, ho]

omit hbelow in
theorem imageOf_eq_none {name : String} (hfield : n.field? name = none) :
    imageOf n (n.children.map (image? source)) name = none := by
  rw [imageOf_map, hfield, Option.map_none]

theorem exists_depicts (hfields : FieldsNamed n) :
    ∃ o, ofNode? source n = some o ∧ Depicts source o n := by
  have himages : imagesOf? source n.children = some (n.children.map (image? source)) := by
    refine imagesOf?_eq_some_iff.mpr ⟨fun c hc hnamed ↦ ?_, rfl⟩
    obtain ⟨o, ho, -⟩ := hbelow c (Node.mem_namedChildren.mpr ⟨hc, hnamed⟩)
    rw [ho, Option.isSome_some]
  have hchildren := filterMap_images source n.children
  have hother : ¬ IsLookup n → pathOf? source n = none →
      Depicts source (other n.kind ((n.children.map (image? source)).filterMap id)
        (n.start.row + 1) (n.start.column + 1)) n := by
    intro hlookup hpath
    exact
      { isLookup := by simpa [Outline.isLookup] using hlookup
        path := hpath.symm
        line := rfl
        column := rfl
        children := hchildren }
  rw [ofNode?_eq himages]
  by_cases hcall : n.kind = "call_expression"
  · rw [if_pos hcall]
    have hpath := pathOf?_call source hcall
    cases hfunction : n.field? "function" with
    | none =>
        rw [imageOf_eq_none hfunction]
        refine ⟨_, rfl, hother ?_ ?_⟩
        · simp [IsLookup, hcall, hfunction]
        · rw [hpath, hfunction, Option.bind_none]
    | some callee =>
        obtain ⟨o, ho, hcallee⟩ :=
          exists_imageOf hbelow hfunction (hfields.function hcall callee hfunction)
        rw [ho]
        refine ⟨_, rfl, ?_, ?_, rfl, rfl, hchildren⟩
        · simp [Outline.isLookup, IsLookup, hcall, hfunction]
        · rw [path?_call, hcallee, hpath, hfunction, Option.bind_some]
  · rw [if_neg hcall]
    by_cases hmember : n.kind = "member_expression"
    · rw [if_pos hmember]
      have hpath := pathOf?_member source hmember
      cases hproperty : n.field? "property" with
      | none =>
          refine ⟨other n.kind ((n.children.map (image? source)).filterMap id) (n.start.row + 1)
            (n.start.column + 1), ?_, hother ?_ ?_⟩
          · split <;> simp_all
          · simp [IsLookup, hmember, hproperty]
          · rw [hpath, hproperty]
            cases n.field? "object" <;> rfl
      | some property =>
          cases hobject : n.field? "object" with
          | none =>
              rw [imageOf_eq_none hobject]
              refine ⟨_, rfl, hother ?_ ?_⟩
              · simp [IsLookup, hmember, hobject]
              · rw [hpath, hobject, Option.bind_none]
          | some object =>
              have hsome : (n.field? "property").isSome = true := by rw [hproperty]; rfl
              obtain ⟨o, ho, hresolved⟩ :=
                exists_imageOf hbelow hobject (hfields.object hmember hsome object hobject)
              rw [ho]
              refine ⟨_, rfl, ?_, ?_, rfl, rfl, hchildren⟩
              · simp [Outline.isLookup, IsLookup, hmember, hobject, hproperty]
              · rw [path?_member, hresolved, hpath, hobject, hproperty]
                rfl
    · rw [if_neg hmember]
      have hlookup : ¬ IsLookup n := by simp [IsLookup, hcall, hmember]
      by_cases hidentifier : n.kind = "identifier"
      · rw [if_pos hidentifier]
        refine ⟨_, rfl, ?_, ?_, rfl, rfl, hchildren⟩
        · simpa [Outline.isLookup] using hlookup
        · rw [path?_identifier, pathOf?_identifier hidentifier]
      · rw [if_neg hidentifier]
        refine ⟨_, rfl, hother hlookup ?_⟩
        rw [pathOf?, if_neg hcall, if_neg hmember, if_neg hidentifier]

end Step

theorem filterMap_walk_children {cs : List Node}
    (h : ∀ c ∈ cs, ∃ o, ofNode? source c = some o ∧
      o.walk.filterMap Script.useOf? = c.namedNodes.filterMap (useAt? source)) :
    ((cs.filterMap (ofNode? source)).flatMap walk).filterMap Script.useOf? =
      (cs.flatMap Node.namedNodes).filterMap (useAt? source) := by
  induction cs with
  | nil => rfl
  | cons c rest ih =>
      obtain ⟨o, ho, hwalk⟩ := h c List.mem_cons_self
      have hrest := ih fun d hd ↦ h d (List.mem_cons_of_mem c hd)
      rw [List.filterMap_cons_some ho, List.flatMap_cons, List.filterMap_append, hwalk, hrest,
        List.flatMap_cons, List.filterMap_append]

/-- A tree whose fields are named children has an outline, and the walk of the outline finds the
uses of the nodes of the tree. -/
theorem exists_outline (source : ByteArray) (h : ∀ m ∈ n.namedNodes, FieldsNamed m) :
    ∃ o, ofNode? source n = some o ∧ o.path? = pathOf? source n ∧
      o.walk.filterMap Script.useOf? = n.namedNodes.filterMap (useAt? source) := by
  induction n using Node.induction_on_children with
  | step n ih =>
      have hbelow : ∀ c ∈ n.namedChildren, ∃ o, ofNode? source c = some o ∧
          o.path? = pathOf? source c ∧
          o.walk.filterMap Script.useOf? = c.namedNodes.filterMap (useAt? source) := by
        intro c hc
        exact ih c (Node.mem_namedChildren.mp hc).1 fun m hm ↦
          h m (Node.mem_namedNodes_of_mem hc hm)
      obtain ⟨o, ho, hdepicts⟩ := exists_depicts
        (fun c hc ↦ (hbelow c hc).imp fun o ho ↦ ⟨ho.1, ho.2.1⟩) (h n n.self_mem_namedNodes)
      refine ⟨o, ho, hdepicts.path, ?_⟩
      have hchildren := filterMap_walk_children
        fun c hc ↦ (hbelow c hc).imp fun o ho ↦ ⟨ho.1, ho.2.2⟩
      rw [walk_eq_cons, Node.namedNodes_eq_cons, List.filterMap_cons, List.filterMap_cons,
        hdepicts.useOf?, hdepicts.children, hchildren]

/-- A child that a path needs but that has no outline leaves its parent without one. -/
theorem fieldsNamed_of_ofNode? {o : Outline} (ho : ofNode? source n = some o)
    (himages : imagesOf? source n.children = some (n.children.map (image? source))) :
    FieldsNamed n := by
  have hnone : ∀ name c, n.field? name = some c → c.named ≠ true →
      imageOf n (n.children.map (image? source)) name = some none := by
    intro name c hfield hnamed
    rw [imageOf_map, hfield, Option.map_some, image?, if_neg hnamed]
  rw [ofNode?_eq himages] at ho
  refine ⟨fun hcall c hfield ↦ Decidable.byContradiction fun hnamed ↦ ?_,
    fun hmember hproperty c hfield ↦ Decidable.byContradiction fun hnamed ↦ ?_⟩
  · rw [if_pos hcall, hnone "function" c hfield hnamed] at ho
    cases ho
  · obtain ⟨property, hproperty⟩ := Option.isSome_iff_exists.mp hproperty
    rw [if_neg (by simp [hmember]), if_pos hmember, hnone "object" c hfield hnamed, hproperty] at ho
    cases ho

theorem fieldsNamed_of_isSome (h : (ofNode? source n).isSome = true) :
    ∀ m ∈ n.namedNodes, FieldsNamed m := by
  induction n using Node.induction_on_children with
  | step n ih =>
      obtain ⟨o, ho⟩ := Option.isSome_iff_exists.mp h
      obtain ⟨images, himages⟩ : ∃ images, imagesOf? source n.children = some images := by
        obtain ⟨kind, named, missing, first, last, start, fields, children⟩ := n
        rw [ofNode?] at ho
        split at ho
        · cases ho
        · exact ⟨_, ‹_›⟩
      obtain ⟨hchildren, rfl⟩ := imagesOf?_eq_some_iff.mp himages
      intro m hm
      rw [Node.namedNodes_eq_cons, List.mem_cons] at hm
      rcases hm with rfl | hm
      · exact fieldsNamed_of_ofNode? ho himages
      · obtain ⟨c, hc, hm⟩ := List.mem_flatMap.mp hm
        obtain ⟨hmem, hnamed⟩ := Node.mem_namedChildren.mp hc
        exact ih c hmem (hchildren c hmem hnamed) m hm

end Outline

/-- A script has uses exactly when it was read without a fault and what its paths need are named
children.  They are then those of its nodes. -/
theorem uses_eq_ok_iff {tree : Tree} {found : List Use} :
    uses tree = .ok found ↔
      tree.faulty = false ∧ (∀ m ∈ tree.root.namedNodes, FieldsNamed m) ∧
        tree.root.namedNodes.filterMap (useAt? tree.source) = found := by
  rw [uses]
  cases htree : tree.faulty with
  | true => simp
  | false =>
      rw [if_neg Bool.false_ne_true]
      cases hroot : Outline.ofNode? tree.source tree.root with
      | none =>
          have hnot : ¬ ∀ m ∈ tree.root.namedNodes, FieldsNamed m := by
            intro hfields
            obtain ⟨o, ho, -⟩ := Outline.exists_outline tree.source hfields
            rw [hroot] at ho
            cases ho
          exact ⟨fun h ↦ (by cases h), fun h ↦ absurd h.2.1 hnot⟩
      | some root =>
          have hfields := Outline.fieldsNamed_of_isSome (Option.isSome_of_eq_some hroot)
          obtain ⟨o, ho, -, hwalk⟩ := Outline.exists_outline tree.source hfields
          obtain rfl : root = o := Option.some.inj (hroot.symm.trans ho)
          have hfound : usesOf root = tree.root.namedNodes.filterMap (useAt? tree.source) := hwalk
          simp only [Except.ok.injEq, hfound]
          exact ⟨fun h ↦ ⟨trivial, hfields, h⟩, fun h ↦ h.2.2⟩

/-- A script that was read without a fault, and in which what is called and the objects of members
are named children, has one use for each call or member that named children lead to and whose path
says something.  The uses stand in document order, at the starts of their nodes. -/
theorem uses_eq_filterMap_namedNodes {tree : Tree} (hfaulty : tree.faulty = false)
    (hfields : ∀ m ∈ tree.root.namedNodes, FieldsNamed m) :
    uses tree = .ok (tree.root.namedNodes.filterMap (useAt? tree.source)) :=
  uses_eq_ok_iff.mpr ⟨hfaulty, hfields, rfl⟩

/-- In `a.b(f())` the outer call and the member it calls have one path, and the inner call stands
below a node of another kind. -/
theorem uses_eq_filterMap_namedNodes_nested :
    let name (kind : String) (first last : Nat) : Node :=
      .mk kind true false first last ⟨0, first⟩ [] []
    let callee : Node := .mk "member_expression" true false 0 3 ⟨0, 0⟩
      [("object", 0), ("property", 2)]
      [name "identifier" 0 1, .mk "." false false 1 2 ⟨0, 1⟩ [] [], name "property_identifier" 2 3]
    let inner : Node := .mk "call_expression" true false 4 7 ⟨0, 4⟩ [("function", 0)]
      [name "identifier" 4 5]
    let root : Node := .mk "call_expression" true false 0 8 ⟨0, 0⟩ [("function", 0)]
      [callee, .mk "arguments" true false 3 8 ⟨0, 3⟩ [] [inner]]
    let tree : Tree := { source := "a.b(f())".toUTF8, root, faulty := false }
    (∀ m ∈ tree.root.namedNodes, FieldsNamed m) ∧
      uses tree = .ok (tree.root.namedNodes.filterMap (useAt? tree.source)) ∧
      tree.root.namedNodes.filterMap (useAt? tree.source) =
        [{ key := "a.b", line := 1, column := 1 }, { key := "a.b", line := 1, column := 1 },
          { key := "f", line := 1, column := 5 }] := by
  intro name callee inner root tree
  have hfields : ∀ m ∈ tree.root.namedNodes, FieldsNamed m := by decide
  refine ⟨hfields, uses_eq_filterMap_namedNodes rfl hfields, ?_⟩
  decide +kernel

end WebBaseline.Script

import WebBaseline.Proofs.Css.Uses
import WebBaseline.Proofs.Css.Value
import WebBaseline.Proofs.Lists

/-!
# Style sheets without their broken nodes

Broken nodes can be taken out of a tree, with what lies below them, and the fields of the nodes that
remain can be made to lead where they led before.  The walk of a sheet never enters a broken node,
so the nodes it visits and the verdict on the sheet stay the same.  The rules look at the children
of a node by themselves, though, and do not ask whether the ones they find are broken.  The uses of
a sheet are those of the sheet without its broken nodes as long as no rule looks one up.
-/

namespace WebBaseline.Css

open Syntax

variable {source : ByteArray} {n : Node}

/-! ### Taking broken nodes out -/

/-- The fields that do not lead to a broken child, counted among the children that remain. -/
def soundFields (children : List Node) (fields : List (String × Nat)) : List (String × Nat) :=
  (fields.filter fun f ↦ !(children[f.2]?).any broken).map fun f ↦
    (f.1, (children.take f.2).countP fun c ↦ !broken c)

mutual

/-- A tree without the broken nodes below its root. -/
def pruned : Node → Node
  | .mk kind named missing first last start fields children =>
      .mk kind named missing first last start (soundFields children fields) (prunedOf children)

def prunedOf : List Node → List Node
  | [] => []
  | c :: rest => if broken c then prunedOf rest else pruned c :: prunedOf rest

end

def withoutBroken (tree : Tree) : Tree := { tree with root := pruned tree.root }

theorem prunedOf_eq_map (cs : List Node) :
    prunedOf cs = (cs.filter fun c ↦ !broken c).map pruned := by
  induction cs with
  | nil => rfl
  | cons c rest ih => cases hc : broken c <;> simp [prunedOf, hc, ih]

theorem pruned_eq (n : Node) :
    pruned n = .mk n.kind n.named n.missing n.first n.last n.start
      (soundFields n.children n.fields) ((n.children.filter fun c ↦ !broken c).map pruned) := by
  obtain ⟨kind, named, missing, first, last, start, fields, children⟩ := n
  rw [pruned, prunedOf_eq_map]
  rfl

@[simp] theorem kind_pruned (n : Node) : (pruned n).kind = n.kind := by
  rw [pruned_eq]; rfl

@[simp] theorem named_pruned (n : Node) : (pruned n).named = n.named := by
  rw [pruned_eq]; rfl

@[simp] theorem missing_pruned (n : Node) : (pruned n).missing = n.missing := by
  rw [pruned_eq]; rfl

@[simp] theorem start_pruned (n : Node) : (pruned n).start = n.start := by
  rw [pruned_eq]; rfl

@[simp] theorem text_pruned (n : Node) : (pruned n).text source = n.text source := by
  rw [pruned_eq]; rfl

theorem children_pruned (n : Node) :
    (pruned n).children = (n.children.filter fun c ↦ !broken c).map pruned := by
  rw [pruned_eq]; rfl

theorem fields_pruned (n : Node) : (pruned n).fields = soundFields n.children n.fields := by
  rw [pruned_eq]; rfl

@[simp] theorem broken_pruned (n : Node) : broken (pruned n) = broken n := by simp [broken]

@[simp] theorem silent_pruned (n : Node) : silent (pruned n) = silent n := by simp [silent]

@[simp] theorem usable_pruned (n : Node) : usable (pruned n) = usable n := by simp [usable]

@[simp] theorem contributes_pruned (n : Node) : contributes (pruned n) = contributes n := by
  simp [contributes]

@[simp] theorem useAt_pruned (n : Node) (key : String) (property value : Option String) :
    useAt (pruned n) key property value = useAt n key property value := by
  simp [useAt]

/-! ### The walk -/

theorem flatMap_soundNodes_filter (cs : List Node) :
    (cs.filter fun c ↦ !broken c).flatMap soundNodes = cs.flatMap soundNodes := by
  have hnodes : soundNodes = Node.preorder fun m ↦ !broken m := funext soundNodes_eq_preorder
  rw [hnodes, Node.flatMap_preorder_filter]

/-- The walk meets the same nodes, each without the broken ones below it. -/
theorem soundNodes_pruned (n : Node) : soundNodes (pruned n) = (soundNodes n).map pruned := by
  induction n using Node.induction_on_children with
  | step n ih =>
      cases hn : broken n with
      | true => rw [soundNodes_of_broken (by simpa using hn), soundNodes_of_broken hn, List.map_nil]
      | false =>
          have hchildren : ((n.children.filter fun c ↦ !broken c).map pruned).flatMap soundNodes =
              (n.children.flatMap soundNodes).map pruned := by
            rw [← flatMap_soundNodes_filter n.children, List.flatMap_map, List.map_flatMap]
            apply List.flatMap_congr
            intro c hc
            exact ih c (List.mem_of_mem_filter hc)
          rw [soundNodes_of_sound (by simpa using hn), soundNodes_of_sound hn, children_pruned,
            hchildren, List.map_cons]

theorem malformed_withoutBroken (tree : Tree) :
    malformed (withoutBroken tree) = malformed tree := by
  have husable : (pruned tree.root).children.any usable = tree.root.children.any usable := by
    rw [children_pruned, List.any_map, List.any_filter]
    refine List.any_congr rfl fun c ↦ ?_
    rw [Function.comp_apply, usable_pruned]
    cases hc : broken c <;> simp [usable, hc]
  rw [malformed, malformed, withoutBroken, broken_pruned, husable]

/-! ### Look-ups among children -/

/-- The first child of some form is the same one if it is not broken. -/
theorem find?_children_pruned {q : Node → Bool} (hq : ∀ c, q (pruned c) = q c)
    (h : ∀ c, n.children.find? q = some c → broken c = false) :
    (pruned n).children.find? q = (n.children.find? q).map pruned := by
  have hcomp : q ∘ pruned = q := funext hq
  rw [children_pruned, List.find?_map, hcomp, find?_filter_of_found fun c hc ↦ by simp [h c hc]]

theorem lookup_soundFields {children : List Node} {fields : List (String × Nat)} {name : String}
    (h : ∀ i c, fields.lookup name = some i → children[i]? = some c → broken c = false) :
    (soundFields children fields).lookup name =
      (fields.lookup name).map fun i ↦ (children.take i).countP fun c ↦ !broken c := by
  induction fields with
  | nil => rfl
  | cons f rest ih =>
      obtain ⟨key, i⟩ := f
      rw [soundFields] at ih ⊢
      cases hkey : name == key with
      | true =>
          rw [List.lookup_cons, hkey] at h ⊢
          have hsound : (children[i]?).any broken = false := by
            cases hi : children[i]? with
            | none => rfl
            | some c => simpa using h i c rfl hi
          simp [hsound, List.lookup_cons, hkey]
      | false =>
          rw [List.lookup_cons, hkey] at h ⊢
          have hrest := ih h
          cases hi : (children[i]?).any broken with
          | true => simpa [hi] using hrest
          | false => simpa [hi, List.lookup_cons, hkey] using hrest

theorem field?_eq_bind (n : Node) (name : String) :
    n.field? name = (n.fields.lookup name).bind fun i ↦ n.children[i]? := by
  rw [Node.field?]
  cases n.fields.lookup name <;> rfl

theorem field?_pruned {name : String} (h : ∀ c, n.field? name = some c → broken c = false) :
    (pruned n).field? name = (n.field? name).map pruned := by
  rw [field?_eq_bind] at h
  have hlookup : ∀ i c, n.fields.lookup name = some i → n.children[i]? = some c →
      broken c = false := by
    intro i c hi hc
    apply h c
    rw [hi]
    exact hc
  rw [field?_eq_bind, field?_eq_bind, fields_pruned, lookup_soundFields hlookup, children_pruned]
  cases hi : n.fields.lookup name with
  | none => rfl
  | some i =>
      have hsound : ∀ c, n.children[i]? = some c → (!broken c) = true := by
        intro c hc
        simp [hlookup i c hi hc]
      rw [Option.map_some, Option.bind_some, Option.bind_some, List.getElem?_map,
        getElem?_filter_countP hsound]

/-! ### Values -/

theorem functionName?_pruned (h : ∀ c, functionName? n = some c → broken c = false) :
    functionName? (pruned n) = (functionName? n).map pruned := by
  have hnamed : ∀ m : Node, (m.namedChildren.find? fun c ↦ c.kind = "function_name") =
      m.children.find? fun c ↦ c.named = true ∧ c.kind = "function_name" := by
    intro m
    rw [Node.namedChildren, List.find?_filter]
    simp
  simp only [functionName?, hnamed] at h ⊢
  cases hfield : n.field? "function_name" with
  | some name =>
      have hsound : ∀ c, n.field? "function_name" = some c → broken c = false := by
        intro c hc
        rw [hfield] at h hc
        exact h c hc
      rw [field?_pruned hsound, hfield]
      rfl
  | none =>
      rw [field?_pruned (by simp [hfield]), hfield]
      rw [hfield] at h
      exact find?_children_pruned (by simp) h

mutual

/-- The nodes that are looked up for the words of a value. -/
def wordNodes : Node → List Node
  | n@(.mk kind _ _ _ _ _ _ children) =>
      if kind = "call_expression" then (functionName? n).toList
      else if kind = "binary_expression" then operandNodes children
      else []

def operandNodes : List Node → List Node
  | [] => []
  | c :: rest =>
      (if silent c then [] else if c.named then c :: wordNodes c else [c]) ++ operandNodes rest

end

theorem wordNodes_eq (n : Node) :
    wordNodes n =
      if n.kind = "call_expression" then (functionName? n).toList
      else if n.kind = "binary_expression" then operandNodes n.children
      else [] := by
  obtain ⟨kind, named, missing, first, last, start, fields, children⟩ := n
  rw [wordNodes]
  rfl

theorem operandWords_pruned {cs : List Node}
    (hwords : ∀ c ∈ cs, (∀ m ∈ wordNodes c, broken m = false) →
      valueWords source (pruned c) = valueWords source c)
    (h : ∀ m ∈ operandNodes cs, broken m = false) :
    operandWords source ((cs.filter fun c ↦ !broken c).map pruned) = operandWords source cs := by
  induction cs with
  | nil => rfl
  | cons c rest ih =>
      rw [operandNodes, List.forall_mem_append] at h
      obtain ⟨hc, hrest⟩ := h
      have hrest := ih (fun d hd ↦ hwords d (List.mem_cons_of_mem c hd)) hrest
      rw [operandWords]
      cases hbroken : broken c with
      | true =>
          -- What is looked up is not broken, so this operand says nothing.
          have hsilent : silent c = true := by
            by_contra hsilent
            rw [if_neg hsilent] at hc
            have hself : broken c = false := by
              split at hc
              · exact hc c List.mem_cons_self
              · exact hc c List.mem_cons_self
            rw [hbroken] at hself
            cases hself
          rw [List.filter_cons_of_neg (by simp [hbroken]), hrest, if_pos hsilent, List.nil_append]
      | false =>
          rw [List.filter_cons_of_pos (by simp [hbroken]), List.map_cons, operandWords, hrest,
            silent_pruned, named_pruned, text_pruned]
          congr 1
          by_cases hsilent : silent c = true
          · rw [if_pos hsilent, if_pos hsilent]
          · rw [if_neg hsilent] at hc
            rw [if_neg hsilent, if_neg hsilent]
            by_cases hnamed : c.named = true
            · rw [if_pos hnamed] at hc
              rw [if_pos hnamed, if_pos hnamed]
              exact hwords c List.mem_cons_self fun m hm ↦ hc m (List.mem_cons_of_mem c hm)
            · rw [if_neg hnamed, if_neg hnamed]

theorem valueWords_pruned (h : ∀ m ∈ wordNodes n, broken m = false) :
    valueWords source (pruned n) = valueWords source n := by
  induction n using Node.induction_on_children with
  | step n ih =>
      rw [wordNodes_eq] at h
      rw [valueWords_eq, valueWords_eq, kind_pruned, text_pruned]
      by_cases hcall : n.kind = "call_expression"
      · rw [if_pos hcall] at h
        have hname := functionName?_pruned (n := n) fun c hc ↦ h c (by simp [hc])
        rw [if_pos hcall, if_pos hcall, hname, Option.map_map]
        congr 2
        funext c
        exact text_pruned c
      · rw [if_neg hcall] at h
        rw [if_neg hcall, if_neg hcall]
        by_cases hbinary : n.kind = "binary_expression"
        · rw [if_pos hbinary] at h
          rw [if_pos hbinary, if_pos hbinary, children_pruned]
          exact operandWords_pruned ih h
        · rw [if_neg hbinary, if_neg hbinary]

theorem afterColon_pruned {cs : List Node}
    (h : ∀ c, (cs.find? fun c ↦ c.kind = ":") = some c → broken c = false) :
    afterColon ((cs.filter fun c ↦ !broken c).map pruned) =
      ((afterColon cs).filter fun c ↦ !broken c).map pruned := by
  induction cs with
  | nil => rfl
  | cons c rest ih =>
      by_cases hc : c.kind = ":"
      · have hsound : broken c = false := h c (List.find?_cons_of_pos (by simp [hc]))
        rw [List.filter_cons_of_pos (by simp [hsound]), List.map_cons, afterColon, kind_pruned,
          if_pos hc, afterColon, if_pos hc]
      · rw [List.find?_cons_of_neg (by simp [hc])] at h
        rw [afterColon, if_neg hc, ← ih h]
        cases hbroken : broken c with
        | true => rw [List.filter_cons_of_neg (by simp [hbroken])]
        | false =>
            rw [List.filter_cons_of_pos (by simp [hbroken]), List.map_cons, afterColon,
              kind_pruned, if_neg hc]

theorem normalizedValue_pruned
    (hcolon : ∀ c, (n.children.find? fun c ↦ c.kind = ":") = some c → broken c = false)
    (hwords : ∀ v ∈ (afterColon n.children).filter contributes, ∀ m ∈ wordNodes v,
      broken m = false) :
    normalizedValue source (pruned n) = normalizedValue source n := by
  have hparts : (afterColon (pruned n).children).filter contributes =
      ((afterColon n.children).filter contributes).map pruned := by
    have hcomp : contributes ∘ pruned = contributes := funext contributes_pruned
    rw [children_pruned, afterColon_pruned hcolon, List.filter_map, hcomp, List.filter_filter]
    refine congrArg _ (List.filter_congr fun c _ ↦ ?_)
    cases hc : broken c <;> simp [contributes, hc]
  rw [normalizedValue, normalizedValue, hparts, List.flatMap_map,
    List.flatMap_congr fun v hv ↦ valueWords_pruned (hwords v hv)]

/-! ### Pseudo-classes and at-rules -/

theorem NoClassAfterColon.pruned {cs : List Node} (h : NoClassAfterColon cs) :
    NoClassAfterColon ((cs.filter fun c ↦ !broken c).map pruned) := by
  rw [NoClassAfterColon, List.pairwise_map]
  simp only [kind_pruned]
  exact h.filter _

theorem FirstClass.pruned {cs : List Node} {colon name : Node} (h : FirstClass cs colon name)
    (hcolon : broken colon = false) (hname : broken name = false) :
    FirstClass ((cs.filter fun c ↦ !broken c).map pruned) (pruned colon) (pruned name) := by
  obtain ⟨before, between, after, rfl, hcolon', hname', hbefore, hbetween⟩ := h
  refine ⟨(before.filter fun c ↦ !broken c).map Css.pruned,
    (between.filter fun c ↦ !broken c).map Css.pruned,
    (after.filter fun c ↦ !broken c).map Css.pruned, ?_, ?_, ?_, hbefore.pruned, ?_⟩
  · simp [hcolon, hname]
  · rwa [kind_pruned]
  · rwa [kind_pruned]
  · intro c hc
    obtain ⟨d, hd, rfl⟩ := List.mem_map.mp hc
    rw [kind_pruned]
    exact hbetween d (List.mem_of_mem_filter hd)

theorem firstClass?_pruned {cs : List Node}
    (h : ∀ found, firstClass? none cs = some found →
      broken found.1 = false ∧ broken found.2 = false) :
    firstClass? none ((cs.filter fun c ↦ !broken c).map pruned) =
      (firstClass? none cs).map fun found ↦ (pruned found.1, pruned found.2) := by
  cases hfound : firstClass? none cs with
  | none =>
      have hnone := (firstClass?_eq_none_iff.mp hfound).1
      exact firstClass?_eq_none_iff.mpr ⟨hnone.pruned, by simp⟩
  | some found =>
      obtain ⟨hcolon, hname⟩ := h found hfound
      exact ((firstClass?_eq_some_iff.mp hfound).pruned hcolon hname).eq_some

theorem atRuleName?_pruned (h : IsAtRule n → ∀ keyword ∈ n.children.head?,
      broken keyword = false) :
    atRuleName? source (pruned n) = atRuleName? source n := by
  rw [atRuleName?, atRuleName?, kind_pruned, children_pruned]
  by_cases hrule : IsAtRule n
  · cases hchildren : n.children with
    | nil => rfl
    | cons keyword rest =>
        have hkeyword : broken keyword = false := h hrule keyword (by rw [hchildren]; rfl)
        rw [List.filter_cons_of_pos (by simp [hkeyword]), List.map_cons]
        simp only [text_pruned]
  · have hnot := fun htrue ↦ hrule (isAtRule_iff.mp htrue)
    rw [if_neg hnot, if_neg hnot]

/-! ### What the rules look up -/

/-- The nodes that the rules look up among the children of a node. -/
def consulted (n : Node) : List Node :=
  if n.kind = "declaration" then
    match n.children.find? fun c ↦ c.kind = "property_name" with
    | none => []
    | some name =>
        name :: ((n.children.find? fun c ↦ c.kind = ":").toList ++
          ((afterColon n.children).filter contributes).flatMap wordNodes)
  else if n.kind = "pseudo_class_selector" then
    match firstClass? none n.children with
    | none => []
    | some (colon, name) => [colon, name]
  else if n.kind = "at_rule" || "_statement".toList.isSuffixOf n.kind.toList then
    n.children.head?.toList
  else []

theorem declarationUses_pruned (hkind : n.kind = "declaration")
    (h : ∀ m ∈ consulted n, broken m = false) :
    declarationUses source (pruned n) = declarationUses source n := by
  rw [consulted, if_pos hkind] at h
  have hfirst := find?_children_pruned (n := n) (q := fun c ↦ c.kind = "property_name") (by simp)
  cases hproperty : n.children.find? fun c ↦ c.kind = "property_name" with
  | none =>
      rw [hproperty] at hfirst
      rw [declarationUses, declarationUses, hproperty, hfirst (by simp)]
      rfl
  | some name =>
      rw [hproperty] at h hfirst
      obtain ⟨hname, hrest⟩ := List.forall_mem_cons.mp h
      obtain ⟨hcolon, hwords⟩ := List.forall_mem_append.mp hrest
      have hvalue : normalizedValue source (pruned n) = normalizedValue source n := by
        apply normalizedValue_pruned
        · intro c hc
          exact hcolon c (by rw [hc]; exact List.mem_singleton_self c)
        · intro v hv m hm
          exact hwords m (List.mem_flatMap.mpr ⟨v, hv, hm⟩)
      have hfound := hfirst fun c hc ↦ Option.some.inj hc ▸ hname
      rw [declarationUses, declarationUses, hproperty, hfound]
      simp only [Option.map_some, text_pruned, hvalue, useAt_pruned]

/-- A node none of whose rules looks up a broken node has the same uses without the broken nodes
below it. -/
theorem usesOf_pruned (h : ∀ m ∈ consulted n, broken m = false) :
    usesOf source (pruned n) = usesOf source n := by
  by_cases hdeclaration : n.kind = "declaration"
  · rw [usesOf_declaration (by simpa using hdeclaration), usesOf_declaration hdeclaration]
    exact declarationUses_pruned hdeclaration h
  · rw [consulted, if_neg hdeclaration] at h
    by_cases hpseudo : n.kind = "pseudo_class_selector"
    · rw [if_pos hpseudo] at h
      have hfound : ∀ found, firstClass? none n.children = some found →
          broken found.1 = false ∧ broken found.2 = false := by
        intro found hfound
        rw [hfound] at h
        simpa using h
      rw [usesOf_pseudoClass (by simpa using hpseudo), usesOf_pseudoClass hpseudo,
        children_pruned, firstClass?_pruned hfound, Option.map_map]
      simp only [Function.comp_def, text_pruned, useAt_pruned]
    · rw [if_neg hpseudo] at h
      rw [usesOf_other (by simpa using hdeclaration) (by simpa using hpseudo),
        usesOf_other hdeclaration hpseudo]
      have hkeyword : IsAtRule n → ∀ keyword ∈ n.children.head?, broken keyword = false := by
        intro hrule keyword hmem
        rw [if_pos (isAtRule_iff.mpr hrule)] at h
        exact h keyword (by simpa using hmem)
      rw [atRuleName?_pruned hkeyword]
      simp only [useAt_pruned]

/-! ### The uses of a sheet -/

theorem hopeless_withoutBroken_iff {tree : Tree} :
    Hopeless (withoutBroken tree) ↔ Hopeless tree := by
  rw [← malformed_iff, malformed_withoutBroken, malformed_iff]

/-- Taking the broken nodes out of a sheet never changes whether it is malformed.  It does not
change the uses of the sheet either, provided that no rule looks up a broken node for a node that
the walk visits. -/
theorem uses?_withoutBroken (tree : Tree) :
    (uses? (withoutBroken tree) = none ↔ uses? tree = none) ∧
    ((∀ n ∈ soundNodes tree.root, ∀ m ∈ consulted n, broken m = false) →
      uses? (withoutBroken tree) = uses? tree) := by
  have hnone : uses? (withoutBroken tree) = none ↔ uses? tree = none := by
    rw [uses?_eq_none_iff, uses?_eq_none_iff, hopeless_withoutBroken_iff]
  refine ⟨hnone, fun hsound ↦ ?_⟩
  by_cases htree : Hopeless tree
  · rw [uses?_eq_none_iff.mpr htree, uses?_eq_none_iff, hopeless_withoutBroken_iff]
    exact htree
  · have hnodes : (soundNodes (pruned tree.root)).flatMap (usesOf tree.source) =
        (soundNodes tree.root).flatMap (usesOf tree.source) := by
      rw [soundNodes_pruned, List.flatMap_map]
      apply List.flatMap_congr
      intro n hn
      exact usesOf_pruned (hsound n hn)
    rw [uses?_of_not_hopeless htree,
      uses?_of_not_hopeless fun h ↦ htree (hopeless_withoutBroken_iff.mp h)]
    exact congrArg some hnodes

/-- In `a:b x: ! 1` a value holds a broken node, the end of the declaration is missing and the sheet
ends with a node that could not be placed, but no rule looks any of them up. -/
theorem uses?_withoutBroken_recovered :
    let node (kind : String) (first last : Nat) (children : List Node) : Node :=
      .mk kind true false first last ⟨0, first⟩ [] children
    let token (kind : String) (missing : Bool) (first last : Nat) : Node :=
      .mk kind false missing first last ⟨0, first⟩ [] []
    let selector := node "pseudo_class_selector" 0 3
      [node "tag_name" 0 1 [], token ":" false 1 2, node "class_name" 2 3 []]
    let declaration := node "declaration" 4 10
      [node "property_name" 4 5 [], token ":" false 5 6, node "ERROR" 7 8 [],
        node "integer_value" 9 10 [], token ";" true 10 10]
    let tree : Tree :=
      { source := "a:b x: ! 1 ?".toUTF8
        root := node "stylesheet" 0 12 [selector, declaration, node "ERROR" 11 12 [declaration]]
        faulty := true }
    (∀ n ∈ soundNodes tree.root, ∀ m ∈ consulted n, broken m = false) ∧
      uses? (withoutBroken tree) = uses? tree ∧
      (uses? tree).map (fun found ↦ found.map (·.key)) =
        some ["css.selectors.b", "css.properties.x", "css.properties.x.1"] ∧
      (pruned tree.root).occurrences.length = 9 ∧ tree.root.occurrences.length = 18 := by
  intro node token selector declaration tree
  have hsound : ∀ n ∈ soundNodes tree.root, ∀ m ∈ consulted n, broken m = false := by
    decide +kernel
  refine ⟨hsound, (uses?_withoutBroken tree).2 hsound, ?_, ?_, ?_⟩ <;> decide +kernel

/-- Every rule takes a broken node at its word: an operand, the name of a function, the name of a
property, the colon before a value, the colon and the name of a pseudo-class, and the keyword of an
at-rule. -/
theorem uses?_withoutBroken_ne :
    let node (kind : String) (missing : Bool) (first last : Nat) (children : List Node) : Node :=
      .mk kind true missing first last ⟨0, first⟩ [] children
    let token (kind : String) (missing : Bool) (first last : Nat) : Node :=
      .mk kind false missing first last ⟨0, first⟩ [] []
    let sheet (text : String) (n : Node) : Tree :=
      { source := text.toUTF8
        root := node "stylesheet" false 0 text.utf8ByteSize [n]
        faulty := true }
    let call : Node := .mk "call_expression" true false 2 5 ⟨0, 2⟩ [("function_name", 0)]
      [node "ERROR" false 2 3 [], node "arguments" false 3 5 []]
    let operand := sheet "b:1 + ! 2" (node "declaration" false 0 9
      [node "property_name" false 0 1 [], token ":" false 1 2,
        node "binary_expression" false 2 9
          [node "integer_value" false 2 3 [], token "+" false 4 5, node "ERROR" false 6 7 [],
            node "integer_value" false 8 9 []]])
    let function := sheet "c:x()" (node "declaration" false 0 5
      [node "property_name" false 0 1 [], token ":" false 1 2, call])
    let property := sheet ":d" (node "declaration" false 0 2
      [node "property_name" true 0 0 [], token ":" false 0 1, node "plain_value" false 1 2 []])
    let colon := sheet "e f" (node "declaration" false 0 3
      [node "property_name" false 0 1 [], token ":" true 1 1, node "plain_value" false 2 3 []])
    let place := sheet "a g" (node "pseudo_class_selector" false 0 3
      [node "tag_name" false 0 1 [], token ":" true 1 1, node "class_name" false 2 3 []])
    let name := sheet "a:" (node "pseudo_class_selector" false 0 2
      [node "tag_name" false 0 1 [], token ":" false 1 2, node "class_name" true 2 2 []])
    let keyword := sheet "@h;" (node "at_rule" false 0 3
      [node "ERROR" false 0 2 [], token ";" false 2 3])
    let spoiled := [operand, function, property, colon, place, name, keyword]
    let keys (tree : Tree) : Option (List String) :=
      (uses? tree).map fun found ↦ found.map (·.key)
    (∀ tree ∈ spoiled, uses? (withoutBroken tree) ≠ uses? tree) ∧
    spoiled.map (fun tree ↦ (keys tree, keys (withoutBroken tree))) =
      [(some ["css.properties.b", "css.properties.b.1 + ! 2"],
          some ["css.properties.b", "css.properties.b.1 + 2"]),
        (some ["css.properties.c", "css.properties.c.x"], some ["css.properties.c"]),
        (some ["css.properties.", "css.properties..d"], some []),
        (some ["css.properties.e", "css.properties.e.f"], some ["css.properties.e"]),
        (some ["css.selectors.g"], some []),
        (some ["css.selectors."], some []),
        (some ["css.at-rules.h"], some [])] := by
  refine ⟨?_, ?_⟩ <;> decide +kernel

end WebBaseline.Css

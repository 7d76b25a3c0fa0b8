import WebBaseline.Css.Uses
import WebBaseline.Proofs.Syntax.Walk
import WebBaseline.Proofs.Text.Case
import Mathlib.Data.List.Forall2

/-!
# Uses of a style sheet by rules

Three rules say what a node has to do with features: a declaration is a use of its property, and of
its value if it has one, a pseudo-class selector is a use of its class, and an at-rule is a use of
its name.  Every other node stands for nothing.  The uses of a sheet are what the rules give for the
nodes of its tree, one after the other in document order, less the broken nodes and what lies below
them.
-/

namespace WebBaseline.Css

open Syntax

variable {source : ByteArray} {n : Node}

/-! ### Pseudo-classes -/

/-- The first class name that follows a colon, with the last colon before it in front, given the
last colon passed. -/
def firstClass? : Option Node → List Node → Option (Node × Node)
  | _, [] => none
  | colon?, c :: rest =>
      if c.kind = ":" then firstClass? (some c) rest
      else
        match colon? with
        | some colon =>
            if c.kind = "class_name" then some (colon, c) else firstClass? (some colon) rest
        | none => firstClass? none rest

theorem pseudoClassFrom_eq_map (colon? : Option Node) (cs : List Node) :
    pseudoClassFrom source colon? cs =
      (firstClass? colon? cs).map fun found ↦ (Text.lower (found.2.text source), found.1) := by
  induction cs generalizing colon? with
  | nil => cases colon? <;> rfl
  | cons c rest ih =>
      cases colon? with
      | none =>
          rw [pseudoClassFrom, firstClass?]
          split
          · exact ih (some c)
          · exact ih none
      | some colon =>
          rw [pseudoClassFrom, firstClass?]
          split
          · exact ih (some c)
          · split
            · rfl
            · exact ih (some colon)

theorem firstClass?_colon {colon? : Option Node} {c : Node} (hc : c.kind = ":")
    (rest : List Node) : firstClass? colon? (c :: rest) = firstClass? (some c) rest := by
  cases colon? <;> rw [firstClass?, if_pos hc]

theorem firstClass?_name {colon c : Node} (hc : c.kind = "class_name") (rest : List Node) :
    firstClass? (some colon) (c :: rest) = some (colon, c) := by
  rw [firstClass?, if_neg (by simp [hc])]
  exact if_pos hc

/-- A child that is no colon is passed over, unless it is a class name after a colon. -/
theorem firstClass?_skip {colon? : Option Node} {c : Node} (hcolon : c.kind ≠ ":")
    (hname : colon?.isSome = true → c.kind ≠ "class_name") (rest : List Node) :
    firstClass? colon? (c :: rest) = firstClass? colon? rest := by
  cases colon? with
  | none => rw [firstClass?, if_neg hcolon]
  | some colon =>
      rw [firstClass?, if_neg hcolon]
      exact if_neg (hname rfl)

def NoClassAfterColon (cs : List Node) : Prop :=
  cs.Pairwise fun a b ↦ a.kind = ":" → b.kind ≠ "class_name"

theorem firstClass?_eq_none_iff {colon? : Option Node} {cs : List Node} :
    firstClass? colon? cs = none ↔
      NoClassAfterColon cs ∧ (colon?.isSome = true → ∀ c ∈ cs, c.kind ≠ "class_name") := by
  induction cs generalizing colon? with
  | nil => simp [firstClass?, NoClassAfterColon]
  | cons c rest ih =>
      rw [NoClassAfterColon, List.pairwise_cons, List.forall_mem_cons]
      by_cases hc : c.kind = ":"
      · rw [firstClass?_colon hc, ih]
        constructor
        · rintro ⟨hrest, hafter⟩
          exact ⟨⟨fun d hd _ ↦ hafter rfl d hd, hrest⟩, fun _ ↦ ⟨by simp [hc], hafter rfl⟩⟩
        · rintro ⟨⟨hafter, hrest⟩, -⟩
          exact ⟨hrest, fun _ d hd ↦ hafter d hd hc⟩
      · by_cases hname : colon?.isSome = true → c.kind ≠ "class_name"
        · rw [firstClass?_skip hc hname, ih]
          constructor
          · rintro ⟨hrest, hseen⟩
            exact ⟨⟨fun _ _ hkind ↦ absurd hkind hc, hrest⟩,
              fun hsome ↦ ⟨hname hsome, hseen hsome⟩⟩
          · rintro ⟨⟨-, hrest⟩, hseen⟩
            exact ⟨hrest, fun hsome ↦ (hseen hsome).2⟩
        · push Not at hname
          obtain ⟨colon, rfl⟩ := Option.isSome_iff_exists.mp hname.1
          rw [firstClass?_name hname.2]
          simp [hname.2]

/-- Some class name follows a colon; this is the first one, and the colon is the last before it. -/
def FirstClass (cs : List Node) (colon name : Node) : Prop :=
  ∃ before between after, cs = before ++ colon :: (between ++ name :: after) ∧
    colon.kind = ":" ∧ name.kind = "class_name" ∧ NoClassAfterColon before ∧
    ∀ c ∈ between, c.kind ≠ ":" ∧ c.kind ≠ "class_name"

theorem firstClass?_append {before : List Node} (h : NoClassAfterColon before)
    {colon? : Option Node} (hseen : colon?.isSome = true → ∀ c ∈ before, c.kind ≠ "class_name")
    {colon : Node} (hcolon : colon.kind = ":") (rest : List Node) :
    firstClass? colon? (before ++ colon :: rest) = firstClass? (some colon) rest := by
  induction before generalizing colon? with
  | nil => exact firstClass?_colon hcolon rest
  | cons c before ih =>
      obtain ⟨hafter, hbefore⟩ := List.pairwise_cons.mp h
      rw [List.cons_append]
      by_cases hc : c.kind = ":"
      · rw [firstClass?_colon hc]
        apply ih hbefore
        intro _ d hd
        exact hafter d hd hc
      · rw [firstClass?_skip hc fun hsome ↦ hseen hsome c List.mem_cons_self]
        apply ih hbefore
        intro hsome d hd
        exact hseen hsome d (List.mem_cons_of_mem c hd)

theorem firstClass?_append_plain {colon : Node} {between : List Node}
    (h : ∀ c ∈ between, c.kind ≠ ":" ∧ c.kind ≠ "class_name") (rest : List Node) :
    firstClass? (some colon) (between ++ rest) = firstClass? (some colon) rest := by
  induction between with
  | nil => rfl
  | cons c between ih =>
      obtain ⟨hcolon, hname⟩ := h c List.mem_cons_self
      rw [List.cons_append, firstClass?_skip hcolon fun _ ↦ hname]
      exact ih fun d hd ↦ h d (List.mem_cons_of_mem c hd)

section FirstClass

variable {cs : List Node} {colon name : Node}

theorem FirstClass.eq_some (h : FirstClass cs colon name) :
    firstClass? none cs = some (colon, name) := by
  obtain ⟨before, between, after, rfl, hcolon, hname, hbefore, hbetween⟩ := h
  have hnone : (none : Option Node).isSome = true → ∀ c ∈ before, c.kind ≠ "class_name" := by
    intro hsome
    cases hsome
  rw [firstClass?_append hbefore hnone hcolon, firstClass?_append_plain hbetween,
    firstClass?_name hname]

/-- A colon in front of another one changes nothing. -/
theorem FirstClass.cons_colon {c d : Node} (h : FirstClass (d :: cs) colon name)
    (hd : d.kind = ":") : FirstClass (c :: d :: cs) colon name := by
  obtain ⟨before, between, after, hcs, hcolon, hname, hbefore, hbetween⟩ := h
  refine ⟨c :: before, between, after, by rw [hcs, List.cons_append], hcolon, hname, ?_, hbetween⟩
  refine List.pairwise_cons.mpr ⟨?_, hbefore⟩
  intro e he _
  cases before with
  | nil => simp at he
  | cons d' before =>
      obtain rfl : d = d' := (List.cons.inj hcs).1
      rcases List.mem_cons.mp he with rfl | he
      · simp [hd]
      · exact (List.pairwise_cons.mp hbefore).1 e he hd

theorem FirstClass.cons_plain {c : Node} (h : FirstClass cs colon name) (hc : c.kind ≠ ":") :
    FirstClass (c :: cs) colon name := by
  obtain ⟨before, between, after, rfl, hcolon, hname, hbefore, hbetween⟩ := h
  refine ⟨c :: before, between, after, rfl, hcolon, hname, ?_, hbetween⟩
  exact List.pairwise_cons.mpr ⟨fun _ _ hkind ↦ absurd hkind hc, hbefore⟩

theorem FirstClass.insert_plain {c d : Node} (h : FirstClass (d :: cs) colon name)
    (hc : c.kind ≠ ":" ∧ c.kind ≠ "class_name") : FirstClass (d :: c :: cs) colon name := by
  obtain ⟨before, between, after, hcs, hcolon, hname, hbefore, hbetween⟩ := h
  cases before with
  | nil =>
      obtain ⟨rfl, rfl⟩ := List.cons.inj hcs
      refine ⟨[], c :: between, after, rfl, hcolon, hname, List.Pairwise.nil, ?_⟩
      exact List.forall_mem_cons.mpr ⟨hc, hbetween⟩
  | cons d' before =>
      obtain ⟨rfl, rfl⟩ := List.cons.inj hcs
      obtain ⟨hafter, hrest⟩ := List.pairwise_cons.mp hbefore
      refine ⟨d :: c :: before, between, after, rfl, hcolon, hname, ?_, hbetween⟩
      refine List.pairwise_cons.mpr ⟨?_, ?_⟩
      · intro e he hd
        rcases List.mem_cons.mp he with rfl | he
        · exact hc.2
        · exact hafter e he hd
      · exact List.pairwise_cons.mpr ⟨fun _ _ hkind ↦ absurd hkind hc.1, hrest⟩

-- The colon that was passed last stands, for the search, in front of the children that are left.
theorem firstClass_of_eq_some {colon? : Option Node} (hcolon? : ∀ c ∈ colon?, c.kind = ":")
    (h : firstClass? colon? cs = some (colon, name)) :
    FirstClass (colon?.toList ++ cs) colon name := by
  induction cs generalizing colon? with
  | nil =>
      rw [firstClass?] at h
      cases h
  | cons c rest ih =>
      by_cases hc : c.kind = ":"
      · rw [firstClass?_colon hc] at h
        have hfirst := ih (by simpa using hc) h
        cases colon? with
        | none => exact hfirst
        | some d => exact FirstClass.cons_colon hfirst hc
      · cases colon? with
        | none =>
            rw [firstClass?_skip hc (by simp)] at h
            exact (ih (by simp) h).cons_plain hc
        | some d =>
            by_cases hname : c.kind = "class_name"
            · rw [firstClass?_name hname] at h
              obtain ⟨rfl, rfl⟩ := Prod.mk.inj (Option.some.inj h)
              exact ⟨[], [], rest, rfl, hcolon? d rfl, hname, List.Pairwise.nil, by simp⟩
            · rw [firstClass?_skip hc fun _ ↦ hname] at h
              exact FirstClass.insert_plain (ih hcolon? h) ⟨hc, hname⟩

theorem firstClass?_eq_some_iff :
    firstClass? none cs = some (colon, name) ↔ FirstClass cs colon name :=
  ⟨firstClass_of_eq_some (by simp), FirstClass.eq_some⟩

end FirstClass

/-! ### At-rules -/

def IsAtRule (n : Node) : Prop :=
  n.kind = "at_rule" ∨ ∃ stem : String, n.kind = stem ++ "_statement"

theorem isAtRule_iff :
    (n.kind = "at_rule" || "_statement".toList.isSuffixOf n.kind.toList) = true ↔ IsAtRule n := by
  rw [Bool.or_eq_true, decide_eq_true_iff, List.isSuffixOf_iff_suffix, IsAtRule]
  apply or_congr_right
  constructor
  · rintro ⟨stem, hstem⟩
    refine ⟨String.ofList stem, ?_⟩
    rw [← String.toList_inj, String.toList_append, String.toList_ofList, hstem]
  · rintro ⟨stem, hstem⟩
    exact ⟨stem.toList, by rw [hstem, String.toList_append]⟩

theorem isAtRule_of_atRuleName? {text : String} (h : atRuleName? source n = some text) :
    IsAtRule n ∧ ∃ keyword rest name, n.children = keyword :: rest ∧
      keyword.text source = "@" ++ name ∧ name ≠ "" ∧ text = Text.lower name := by
  rw [atRuleName?] at h
  split at h
  · rename_i hkind
    refine ⟨isAtRule_iff.mp hkind, ?_⟩
    split at h
    · cases h
    · rename_i keyword rest hchildren
      split at h
      · rename_i name hword
        dsimp only at h
        split at h
        · cases h
        · rename_i hempty
          have hne : Text.lower (String.ofList name) ≠ "" := by simpa using hempty
          refine ⟨keyword, rest, String.ofList name, hchildren, ?_, ?_, (Option.some.inj h).symm⟩
          · simp [← String.toList_inj, hword]
          · exact fun heq ↦ hne (Text.lower_eq_empty_iff.mpr heq)
      · cases h
  · cases h

theorem atRuleName?_of_isAtRule (hkind : IsAtRule n) {keyword : Node} {rest : List Node}
    (hchildren : n.children = keyword :: rest) {name : String}
    (htext : keyword.text source = "@" ++ name) (hne : name ≠ "") :
    atRuleName? source n = some (Text.lower name) := by
  have hword : (keyword.text source).toList = '@' :: name.toList := by
    rw [htext, String.toList_append]
    exact rfl
  have hlower : ¬ (Text.lower name).isEmpty = true := by
    rw [String.isEmpty_iff, Text.lower_eq_empty_iff]
    exact hne
  rw [atRuleName?, if_pos (isAtRule_iff.mpr hkind)]
  simp only [hchildren, hword, String.ofList_toList]
  exact if_neg hlower

theorem IsAtRule.kind_ne (h : IsAtRule n) {kind : String}
    (hrule : kind ≠ "at_rule") (hsuffix : "_statement".toList.isSuffixOf kind.toList = false) :
    n.kind ≠ kind := by
  rintro rfl
  have htrue := isAtRule_iff.mpr h
  rw [Bool.or_eq_true, decide_eq_true_iff, hsuffix] at htrue
  exact htrue.elim hrule Bool.false_ne_true

/-! ### The rules -/

/-- What the three rules find in a node. -/
inductive Yields (source : ByteArray) (n : Node) : List Use → Prop where
  | property {before after : List Node} {name : Node} (hkind : n.kind = "declaration")
      (hchildren : n.children = before ++ name :: after) (hname : name.kind = "property_name")
      (hfirst : ∀ c ∈ before, c.kind ≠ "property_name") (hvalue : normalizedValue source n = "") :
      Yields source n
        [{ key := "css.properties." ++ Text.lower (name.text source)
           line := n.start.row + 1
           column := n.start.column + 1
           property := some (Text.lower (name.text source)) }]
  | valued {before after : List Node} {name : Node} {value : String}
      (hkind : n.kind = "declaration") (hchildren : n.children = before ++ name :: after)
      (hname : name.kind = "property_name") (hfirst : ∀ c ∈ before, c.kind ≠ "property_name")
      (hvalue : normalizedValue source n = value) (hne : value ≠ "") :
      Yields source n
        [{ key := "css.properties." ++ Text.lower (name.text source)
           line := n.start.row + 1
           column := n.start.column + 1
           property := some (Text.lower (name.text source))
           value := some value },
         { key := "css.properties." ++ Text.lower (name.text source) ++ "." ++ value
           line := n.start.row + 1
           column := n.start.column + 1
           property := some (Text.lower (name.text source))
           value := some value }]
  | pseudoClass {colon name : Node} (hkind : n.kind = "pseudo_class_selector")
      (hfirst : FirstClass n.children colon name) :
      Yields source n
        [{ key := "css.selectors." ++ Text.lower (name.text source)
           line := colon.start.row + 1
           column := colon.start.column + 1 }]
  | atRule {keyword : Node} {rest : List Node} {name : String} (hkind : IsAtRule n)
      (hchildren : n.children = keyword :: rest) (htext : keyword.text source = "@" ++ name)
      (hne : name ≠ "") :
      Yields source n
        [{ key := "css.at-rules." ++ Text.lower name
           line := n.start.row + 1
           column := n.start.column + 1 }]

/-- What a node contributes to the uses of a sheet: what the rules find in it, else nothing. -/
def Contributes (source : ByteArray) (n : Node) (us : List Use) : Prop :=
  Yields source n us ∨ us = [] ∧ ∀ vs, ¬ Yields source n vs

theorem usesOf_declaration (h : n.kind = "declaration") :
    usesOf source n = declarationUses source n := by
  rw [usesOf, if_pos h]

theorem usesOf_pseudoClass (h : n.kind = "pseudo_class_selector") :
    usesOf source n = ((firstClass? none n.children).map fun found ↦
      useAt found.1 ("css.selectors." ++ Text.lower (found.2.text source)) none none).toList := by
  rw [usesOf, if_neg (by simp [h]), if_pos h, pseudoClassFrom_eq_map]
  cases firstClass? none n.children <;> rfl

theorem usesOf_other (hdeclaration : n.kind ≠ "declaration")
    (hpseudo : n.kind ≠ "pseudo_class_selector") :
    usesOf source n = ((atRuleName? source n).map fun name ↦
      useAt n ("css.at-rules." ++ name) none none).toList := by
  rw [usesOf, if_neg hdeclaration, if_neg hpseudo]
  cases atRuleName? source n <;> rfl

theorem find?_property_of_first {before after : List Node} {name : Node}
    (hchildren : n.children = before ++ name :: after) (hname : name.kind = "property_name")
    (hfirst : ∀ c ∈ before, c.kind ≠ "property_name") :
    (n.children.find? fun c ↦ c.kind = "property_name") = some name := by
  rw [List.find?_eq_some_iff_append]
  exact ⟨decide_eq_true hname, before, after, hchildren, fun c hc ↦ by simpa using hfirst c hc⟩

theorem Yields.usesOf_eq {us : List Use} (h : Yields source n us) : usesOf source n = us := by
  cases h with
  | property hkind hchildren hname hfirst hvalue =>
      rw [usesOf_declaration hkind, declarationUses,
        find?_property_of_first hchildren hname hfirst]
      exact if_pos (by simp [hvalue])
  | valued hkind hchildren hname hfirst hvalue hne =>
      rw [usesOf_declaration hkind, declarationUses,
        find?_property_of_first hchildren hname hfirst]
      subst hvalue
      exact if_neg (by simpa using hne)
  | pseudoClass hkind hfirst =>
      rw [usesOf_pseudoClass hkind, hfirst.eq_some]
      exact rfl
  | atRule hkind hchildren htext hne =>
      have hdeclaration : n.kind ≠ "declaration" :=
        hkind.kind_ne (by decide) (by decide)
      have hpseudo : n.kind ≠ "pseudo_class_selector" :=
        hkind.kind_ne (by decide) (by decide)
      rw [usesOf_other hdeclaration hpseudo, atRuleName?_of_isAtRule hkind hchildren htext hne]
      exact rfl

theorem Yields.ne_nil {us : List Use} (h : Yields source n us) : us ≠ [] := by
  cases h <;> simp

theorem yields_usesOf (h : usesOf source n ≠ []) : Yields source n (usesOf source n) := by
  by_cases hdeclaration : n.kind = "declaration"
  · rw [usesOf_declaration hdeclaration, declarationUses] at h ⊢
    cases hfind : n.children.find? fun c ↦ c.kind = "property_name" with
    | none => simp [hfind] at h
    | some name =>
        obtain ⟨hname, before, after, hchildren, hbefore⟩ := List.find?_eq_some_iff_append.mp hfind
        have hfirst : ∀ c ∈ before, c.kind ≠ "property_name" := by simpa using hbefore
        dsimp only
        split
        · rename_i hvalue
          exact .property hdeclaration hchildren (of_decide_eq_true hname) hfirst
            (String.isEmpty_iff.mp hvalue)
        · rename_i hvalue
          exact .valued hdeclaration hchildren (of_decide_eq_true hname) hfirst rfl
            (fun heq ↦ hvalue (String.isEmpty_iff.mpr heq))
  · by_cases hpseudo : n.kind = "pseudo_class_selector"
    · rw [usesOf_pseudoClass hpseudo] at h ⊢
      cases hfound : firstClass? none n.children with
      | none => simp [hfound] at h
      | some found => exact .pseudoClass hpseudo (firstClass?_eq_some_iff.mp hfound)
    · rw [usesOf_other hdeclaration hpseudo] at h ⊢
      cases hfound : atRuleName? source n with
      | none => simp [hfound] at h
      | some text =>
          obtain ⟨hkind, keyword, rest, name, hchildren, hword, hne, rfl⟩ :=
            isAtRule_of_atRuleName? hfound
          exact .atRule hkind hchildren hword hne

theorem contributes_iff {us : List Use} : Contributes source n us ↔ usesOf source n = us := by
  constructor
  · rintro (h | ⟨rfl, h⟩)
    · exact h.usesOf_eq
    · by_contra hne
      exact h _ (yields_usesOf hne)
  · rintro rfl
    by_cases hne : usesOf source n = []
    · right
      refine ⟨hne, fun vs h ↦ h.ne_nil ?_⟩
      rw [← h.usesOf_eq, hne]
    · left
      exact yields_usesOf hne

/-! ### The uses of a sheet -/

/-- The nodes that are not broken and do not lie below a broken node, in document order. -/
def soundNodes (root : Node) : List Node :=
  (root.occurrences.filter fun o ↦ (o.node :: o.above).all fun m ↦ !broken m).map (·.node)

/-- A sheet of which nothing could be placed. -/
def Hopeless (tree : Tree) : Prop :=
  broken tree.root = true ∨ tree.faulty = true ∧
    ∀ c ∈ tree.root.children, ¬ (c.named = true ∧ c.kind ≠ "comment" ∧ ¬ broken c = true)

theorem soundNodes_eq_preorder (root : Node) :
    soundNodes root = root.preorder fun m ↦ !broken m :=
  root.preorder_eq_filter_occurrences.symm

theorem soundNodes_of_broken (h : broken n = true) : soundNodes n = [] := by
  rw [soundNodes_eq_preorder, Node.preorder_of_not_keep (by simp [h])]

theorem soundNodes_of_sound (h : broken n = false) :
    soundNodes n = n :: n.children.flatMap soundNodes := by
  have hnodes : soundNodes = Node.preorder fun m ↦ !broken m := funext soundNodes_eq_preorder
  rw [hnodes, Node.preorder_of_keep (by simp [h])]

theorem soundNodes_sublist_reach (n : Node) :
    (soundNodes n).Sublist (n.reach fun m ↦ !broken m) := by
  rw [soundNodes_eq_preorder]
  cases hn : broken n with
  | true =>
      rw [Node.preorder_of_not_keep (by simp [hn])]
      exact List.nil_sublist _
  | false =>
      rw [Node.preorder_eq_reach (by simp [hn])]

theorem malformed_iff {tree : Tree} : malformed tree = true ↔ Hopeless tree := by
  rw [malformed, Hopeless, Bool.or_eq_true, Bool.and_eq_true, Bool.not_eq_true', List.any_eq_false]
  simp [usable]

theorem uses?_of_not_hopeless {tree : Tree} (h : ¬ Hopeless tree) :
    uses? tree = some ((soundNodes tree.root).flatMap (usesOf tree.source)) := by
  rw [uses?, if_neg (fun hmalformed ↦ h (malformed_iff.mp hmalformed)), soundNodes_eq_preorder]

theorem uses?_eq_none_iff {tree : Tree} : uses? tree = none ↔ Hopeless tree := by
  rw [← malformed_iff, uses?]
  split <;> simp_all

/-- A sheet is malformed exactly if its root is broken, or if it has a fault and nothing at its top
could be placed.  The uses of any other sheet are, in document order, the contributions of the nodes
that neither are broken nor lie below a broken node. -/
theorem uses?_iff_contributions (tree : Tree) :
    (uses? tree = none ↔ Hopeless tree) ∧
    ∀ found, uses? tree = some found ↔ ¬ Hopeless tree ∧
      ∃ parts, List.Forall₂ (Contributes tree.source) (soundNodes tree.root) parts ∧
        parts.flatten = found := by
  refine ⟨uses?_eq_none_iff, fun found ↦ ?_⟩
  have hparts : ∀ parts, List.Forall₂ (Contributes tree.source) (soundNodes tree.root) parts ↔
      (soundNodes tree.root).map (usesOf tree.source) = parts := by
    intro parts
    have hrule : Contributes tree.source = fun n us ↦ usesOf tree.source n = us := by
      funext n us
      exact propext contributes_iff
    rw [hrule, ← List.forall₂_map_left_iff, List.forall₂_eq_eq_eq]
  by_cases h : Hopeless tree
  · simp [h, uses?_eq_none_iff.mpr h]
  · rw [uses?_of_not_hopeless h]
    simp [hparts, h, List.flatMap_def]

end WebBaseline.Css

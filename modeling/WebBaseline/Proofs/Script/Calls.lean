import WebBaseline.Proofs.Script.Order

/-!
# Calls of members

A call has the path of what it calls.  When it calls a member, then the two stand at one place and
the member comes next in the walk, so the use of the call is the use of the member said twice.
Leaving out the uses of such calls changes no issue, however calls and members are nested.
-/

namespace WebBaseline.Script

open Syntax

variable {source : ByteArray} {n : Node}

/-- What a call calls is its first named child and starts where the call starts. -/
def CalleeFirst (n : Node) : Prop :=
  n.kind = "call_expression" → ∀ callee, n.field? "function" = some callee →
    n.namedChildren.head? = some callee ∧ callee.start = n.start

/-- A call of a member. -/
def CallsMember (n : Node) : Prop :=
  n.kind = "call_expression" ∧ ∃ callee ∈ n.field? "function", callee.kind = "member_expression"

instance (n : Node) : Decidable (CallsMember n) := inferInstanceAs (Decidable (_ ∧ _))

/-- The uses of all nodes that named children lead to, other than calls of members. -/
def directUses (source : ByteArray) (n : Node) : List Use :=
  (n.namedNodes.filter fun m ↦ ¬ CallsMember m).filterMap (useAt? source)

/-- A call of a member has the use of the member. -/
theorem useAt?_of_callsMember {callee : Node} (hkind : n.kind = "call_expression")
    (hfunction : n.field? "function" = some callee) (hmember : callee.kind = "member_expression")
    (hstart : callee.start = n.start) : useAt? source n = useAt? source callee := by
  have hpath : pathOf? source n = pathOf? source callee := by
    rw [pathOf?_call source hkind, hfunction, Option.bind_some]
  have hlookup : IsLookup n := .inl ⟨hkind, by rw [hfunction]; rfl⟩
  by_cases hcallee : IsLookup callee
  · rw [useAt?, useAt?, if_pos hlookup, if_pos hcallee, hpath, hstart]
  · -- A member without an object or a property has no path, so neither of the two is a use.
    have hnone : pathOf? source callee = none := by
      rw [pathOf?_member source hmember]
      cases hobject : callee.field? "object" with
      | none => rfl
      | some object =>
          cases hproperty : callee.field? "property" with
          | none => rfl
          | some property =>
              refine absurd (.inr ⟨hmember, ?_, ?_⟩) hcallee
              · rw [hobject]; rfl
              · rw [hproperty]; rfl
    rw [useAt?, useAt?, if_pos hlookup, if_neg hcallee, hpath, hnone]
    rfl

theorem filterMap_namedNodes_eq (source : ByteArray) (n : Node) :
    n.namedNodes.filterMap (useAt? source) =
      (useAt? source n).toList ++
        n.namedChildren.flatMap fun c ↦ c.namedNodes.filterMap (useAt? source) := by
  rw [Node.namedNodes_eq_cons, List.filterMap_cons, List.filterMap_flatMap]
  cases useAt? source n <;> rfl

theorem directUses_of_not_callsMember (h : ¬ CallsMember n) :
    directUses source n =
      (useAt? source n).toList ++ n.namedChildren.flatMap (directUses source) := by
  rw [directUses, Node.namedNodes_eq_cons, List.filter_cons_of_pos (by simpa using h),
    List.filterMap_cons, List.filter_flatMap, List.filterMap_flatMap]
  cases useAt? source n <;> rfl

theorem directUses_of_callsMember (h : CallsMember n) :
    directUses source n = n.namedChildren.flatMap (directUses source) := by
  rw [directUses, Node.namedNodes_eq_cons, List.filter_cons_of_neg (by simpa using h),
    List.filter_flatMap, List.filterMap_flatMap]
  rfl

/-- The first uses are those of the members and of the calls of other things. -/
theorem firsts_filterMap_namedNodes (h : ∀ m ∈ n.namedNodes, CalleeFirst m) :
    Report.firsts (n.namedNodes.filterMap (useAt? source)) =
      Report.firsts (directUses source n) := by
  induction n using Node.induction_on_children with
  | step n ih =>
      have hbelow : Report.firsts (n.namedChildren.flatMap fun c ↦
            c.namedNodes.filterMap (useAt? source)) =
          Report.firsts (n.namedChildren.flatMap (directUses source)) := by
        refine Report.firsts_flatMap_congr fun c hc ↦ ?_
        exact ih c (Node.mem_namedChildren.mp hc).1 fun m hm ↦
          h m (Node.mem_namedNodes_of_mem hc hm)
      rw [filterMap_namedNodes_eq]
      by_cases hcalls : CallsMember n
      · obtain ⟨hkind, callee, hfunction, hmember⟩ := hcalls
        obtain ⟨hhead, hstart⟩ := h n n.self_mem_namedNodes hkind callee hfunction
        obtain ⟨more, hchildren⟩ := List.head?_eq_some_iff.mp hhead
        rw [directUses_of_callsMember ⟨hkind, callee, hfunction, hmember⟩, ← hbelow, hchildren,
          List.flatMap_cons, filterMap_namedNodes_eq source callee,
          useAt?_of_callsMember hkind hfunction hmember hstart, List.append_assoc,
          Report.firsts_twice]
      · rw [directUses_of_not_callsMember hcalls]
        exact Report.firsts_append_congr rfl hbelow

theorem issues_of_analyze_of_error {content file : String} {table : Table} {level : Level}
    {failure : Failure} (h : uses (read (Analyzer.dialectOf file) content) = .error failure)
    {issues : List Issue} {notes : List LogRecord}
    (hanalyze : Analyzer.script.analyze content file table level = some (issues, notes)) :
    issues = [] := by
  cases failure with
  | malformed =>
      simp only [Analyzer.analyze, Analyzer.script, h, Option.some.injEq, Prod.mk.injEq] at hanalyze
      exact hanalyze.1.symm
  | danglingField => simp [Analyzer.analyze, Analyzer.script, h] at hanalyze

/-- If what is called is always the first named child and starts where its call starts, then the
issues of a script stay the same, in the same order, without the uses of calls of members.  No two
issues have key, line and column in common, and each path that is found at a place is reported there
once, if it is reported at all.  A script whose uses cannot be found has no issues. -/
theorem issues_directUses (tree : Tree) (file : String) (table : Table) (level : Level) :
    ((∀ m ∈ tree.root.namedNodes, CalleeFirst m) → ∀ found, uses tree = .ok found →
      let issues := Report.issues .javascript file table level found
      issues = Report.issues .javascript file table level
        ((tree.root.namedNodes.filter fun m ↦ ¬ CallsMember m).filterMap (useAt? tree.source)) ∧
      (issues.map Issue.marker).Nodup ∧
      (∀ m ∈ tree.root.namedNodes, ∀ u, useAt? tree.source m = some u →
        (issues.map Issue.marker).count u.marker =
          if (table.lookup u.key).any fun f ↦ level.reports f.tier then 1 else 0) ∧
      ∀ content, read (Analyzer.dialectOf file) content = tree →
        Analyzer.script.analyze content file table level = some (issues, [])) ∧
    ∀ failure, uses tree = .error failure →
      ∀ content, read (Analyzer.dialectOf file) content = tree → ∀ issues notes,
        Analyzer.script.analyze content file table level = some (issues, notes) → issues = [] := by
  constructor
  · intro hcallee found hfound issues
    obtain ⟨-, -, hnodes⟩ := uses_eq_ok_iff.mp hfound
    refine ⟨?_, Report.nodup_map_marker_issues .javascript file table level found, ?_, ?_⟩
    · apply Report.issues_congr
      rw [← hnodes]
      exact firsts_filterMap_namedNodes hcallee
    · intro m hm u hu
      apply Report.count_marker_issues
      rw [← hnodes]
      exact List.mem_filterMap.mpr ⟨m, hm, hu⟩
    · rintro content rfl
      exact analyze_of_uses hfound
  · rintro failure hfailure content rfl issues notes hanalyze
    exact issues_of_analyze_of_error hfailure hanalyze

/-- A callee is the first named child if it is named and no child before it is. -/
theorem calleeFirst_of_lookup (h : ∀ i ∈ n.fields.lookup "function", ∀ c ∈ n.children[i]?,
      c.named = true ∧ (∀ b ∈ n.children.take i, b.named = false) ∧ c.start = n.start) :
    CalleeFirst n := by
  intro _ callee hfunction
  rw [Node.field?] at hfunction
  cases hi : n.fields.lookup "function" with
  | none => simp [hi] at hfunction
  | some i =>
      rw [hi] at hfunction
      obtain ⟨hnamed, hbefore, hstart⟩ := h i hi callee hfunction
      refine ⟨?_, hstart⟩
      have hsplit : n.children = n.children.take i ++ callee :: n.children.drop (i + 1) := by
        obtain ⟨hlt, hget⟩ := List.getElem?_eq_some_iff.mp hfunction
        rw [← hget, ← List.drop_eq_getElem_cons hlt, List.take_append_drop]
      rw [Node.namedChildren, List.head?_filter, List.find?_eq_some_iff_append]
      exact ⟨hnamed, _, _, hsplit, by simpa using hbefore⟩

/-- A chain of calls of members, in which everything starts at one place, and a part of it on a line
of its own; and a script that cannot be read. -/
theorem issues_directUses_chained :
    let content : String := "a.b().c().d();\na.b();"
    let tree := read .script content
    let table : Table :=
      { version := ""
        features := [{ id := "chain", name := "chain", description := "", group := "javascript",
                       tier := .limited, keys := ["a.b", "a.b.c", "a.b.c.d"] }] }
    let found : List Use :=
      [("a.b.c.d", 1), ("a.b.c.d", 1), ("a.b.c", 1), ("a.b.c", 1), ("a.b", 1), ("a.b", 1),
        ("a.b", 2), ("a.b", 2)].map fun use ↦ { key := use.1, line := use.2, column := 1 }
    let issues := Report.issues .javascript "a.js" table .limited found
    (∀ m ∈ tree.root.namedNodes, CalleeFirst m) ∧ uses tree = .ok found ∧
      issues = Report.issues .javascript "a.js" table .limited (directUses tree.source tree.root) ∧
      (issues.map Issue.marker).Nodup ∧
      issues.map Issue.marker =
        [("a.b.c.d", 1, 1), ("a.b.c", 1, 1), ("a.b", 1, 1), ("a.b", 2, 1)] ∧
      Analyzer.script.analyze content "a.js" table .limited = some (issues, []) ∧
      uses (read .script "a.b().(") = .error .malformed ∧
      ∀ issues notes, Analyzer.script.analyze "a.b().(" "a.js" table .limited =
        some (issues, notes) → issues = [] := by
  intro content tree table found issues
  have htree : (∀ m ∈ tree.root.namedNodes, ∀ i ∈ m.fields.lookup "function",
        ∀ c ∈ m.children[i]?, c.named = true ∧ (∀ b ∈ m.children.take i, b.named = false) ∧
          c.start = m.start) ∧
      tree.faulty = false ∧ (∀ m ∈ tree.root.namedNodes, FieldsNamed m) ∧
      tree.root.namedNodes.filterMap (useAt? tree.source) = found := by
    decide +kernel
  obtain ⟨hfirst, hread⟩ := htree
  have hcallee : ∀ m ∈ tree.root.namedNodes, CalleeFirst m :=
    fun m hm ↦ calleeFirst_of_lookup (hfirst m hm)
  have hfound : uses tree = .ok found := uses_eq_ok_iff.mpr hread
  have hdialect : Analyzer.dialectOf "a.js" = .script := by decide +kernel
  have hfaulty : (read .script "a.b().(").faulty = true := by decide +kernel
  have hmalformed : uses (read .script "a.b().(") = .error .malformed := by
    rw [uses, hfaulty, if_pos rfl]
  obtain ⟨hsame, hnodup, -, hanalyze⟩ :=
    (issues_directUses tree "a.js" table .limited).1 hcallee found hfound
  refine ⟨hcallee, hfound, hsame, hnodup, ?_, hanalyze content (by rw [hdialect]), hmalformed, ?_⟩
  · decide +kernel
  · exact (issues_directUses _ "a.js" table .limited).2 _ hmalformed _ (by rw [hdialect])

end WebBaseline.Script

import WebBaseline.Css.Uses
import WebBaseline.Proofs.Syntax.Walk
import WebBaseline.Proofs.Text.Words

/-!
# Values of declarations

A value is read off the tree of a declaration.  Operations may lie in each other, but only what they
are made of is written: in document order, the nodes that lie below operations only and are none
themselves.  White space plays no part, and neither does what stands between the parts of a value,
so that a value is written in one way.
-/

namespace WebBaseline.Css

open Syntax

variable {source : ByteArray} {n : Node}

/-! ### The parts of a value -/

def operation (n : Node) : Bool := n.named && n.kind = "binary_expression"

/-- What lies below operations only and is none itself, unless it says nothing about a value. -/
def isPart (o : Node.Occurrence) : Bool :=
  o.above.all operation && !operation o.node && !silent o.node

/-- The nodes that a value is made of, in document order. -/
def parts (n : Node) : List Node := (n.occurrences.filter isPart).map (·.node)

/-- What a part of a value is written as: an operator as it stands, a call as the name of its
function, and anything else with the white space in it collapsed. -/
def token (source : ByteArray) (n : Node) : String :=
  if n.named = false then n.text source
  else if n.kind = "call_expression" then ((functionName? n).map (Node.text source)).getD ""
  else Text.collapse (n.text source)

theorem token_of_anonymous (h : n.named = false) : token source n = n.text source := by
  rw [token, if_pos h]

theorem token_of_call (hnamed : n.named = true) (hcall : n.kind = "call_expression") :
    token source n = ((functionName? n).map (Node.text source)).getD "" := by
  rw [token, if_neg (by simp [hnamed]), if_pos hcall]

theorem token_of_not_call (hnamed : n.named = true) (hcall : n.kind ≠ "call_expression") :
    token source n = Text.collapse (n.text source) := by
  rw [token, if_neg (by simp [hnamed]), if_neg hcall]

theorem silent_of_operation (h : operation n = true) : silent n = false := by
  simp only [operation, Bool.and_eq_true, decide_eq_true_eq] at h
  simp [silent, h.2]

theorem operation_of_silent (h : silent n = true) : operation n = false := by
  cases hn : operation n with
  | false => rfl
  | true =>
      rw [silent_of_operation hn] at h
      cases h

theorem filter_isPart_below {above : List Node} (h : above.all operation = false) :
    (n.occurrencesUnder above).filter isPart = [] := by
  apply List.filter_eq_nil_iff.mpr
  intro o ho hpart
  simp only [isPart, Bool.and_eq_true, List.all_eq_true] at hpart
  have habove : above.all operation = true :=
    List.all_eq_true.mpr fun m hm ↦ hpart.1.1 m (Node.above_subset_of_mem ho hm)
  rw [h] at habove
  cases habove

/-- Parts are the same wherever a node stands, as long as it stands below operations only. -/
theorem map_node_filter_isPart {above : List Node} (habove : above.all operation = true) :
    ((n.occurrencesUnder above).filter isPart).map (·.node) =
      if operation n then n.children.flatMap parts else if silent n then [] else [n] := by
  induction n using Node.induction_on_children generalizing above with
  | step n ih =>
      rw [Node.occurrencesUnder_eq_cons]
      cases hn : operation n with
      | true =>
          have hbelow : (n :: above).all operation = true := by rw [List.all_cons, hn, habove]; rfl
          rw [List.filter_cons_of_neg (by simp [isPart, hn]), if_pos rfl, List.filter_flatMap,
            List.map_flatMap]
          apply List.flatMap_congr
          intro c hc
          rw [ih c hc hbelow, parts, Node.occurrences, ih c hc rfl]
      | false =>
          have hbelow : (n :: above).all operation = false := by rw [List.all_cons, hn]; rfl
          have hnone :
              (n.children.flatMap (Node.occurrencesUnder (n :: above))).filter isPart = [] := by
            rw [List.filter_flatMap, List.flatMap_eq_nil_iff]
            exact fun c _ ↦ filter_isPart_below hbelow
          rw [if_neg Bool.false_ne_true]
          cases hs : silent n with
          | true => rw [List.filter_cons_of_neg (by simp [isPart, hs]), hnone]; rfl
          | false =>
              rw [List.filter_cons_of_pos (by simp [isPart, hn, hs, habove]), hnone]
              rfl

theorem parts_eq (n : Node) :
    parts n = if operation n then n.children.flatMap parts else if silent n then [] else [n] :=
  map_node_filter_isPart rfl

theorem parts_of_operation (h : operation n = true) : parts n = n.children.flatMap parts := by
  rw [parts_eq, if_pos h]

theorem parts_of_silent (h : silent n = true) : parts n = [] := by
  rw [parts_eq, if_neg (by simp [operation_of_silent h]), if_pos h]

theorem parts_of_single (hoperation : operation n = false) (hsilent : silent n = false) :
    parts n = [n] := by
  rw [parts_eq, if_neg (by simp [hoperation]), if_neg (by simp [hsilent])]

/-- A node that is not an operation is its only part, if it is one. -/
theorem eq_of_mem_parts {p : Node} (hoperation : operation n = false) (hp : p ∈ parts n) :
    p = n := by
  cases hsilent : silent n with
  | true =>
      rw [parts_of_silent hsilent] at hp
      cases hp
  | false =>
      rw [parts_of_single hoperation hsilent] at hp
      exact List.mem_singleton.mp hp

/-! ### The words of a value -/

theorem valueWords_eq (source : ByteArray) (n : Node) :
    valueWords source n =
      if n.kind = "call_expression" then ((functionName? n).map (Node.text source)).toList
      else if n.kind = "binary_expression" then operandWords source n.children
      else if (Text.collapse (n.text source)).isEmpty then []
      else [Text.collapse (n.text source)] := by
  obtain ⟨kind, named, missing, first, last, start, fields, children⟩ := n
  rw [valueWords]
  cases functionName? (.mk kind named missing first last start fields children) <;> rfl

/-- Texts that are not empty. -/
def spoken (words : List String) : List String := words.filter fun w ↦ !w.isEmpty

theorem spoken_operandWords {cs : List Node}
    (h : ∀ c ∈ cs, c.named = true → silent c = false →
      spoken (valueWords source c) = spoken ((parts c).map (token source))) :
    spoken (operandWords source cs) = spoken ((cs.flatMap parts).map (token source)) := by
  induction cs with
  | nil => rfl
  | cons c rest ih =>
      obtain ⟨hc, hrest⟩ := List.forall_mem_cons.mp h
      rw [operandWords, List.flatMap_cons, List.map_append, spoken, spoken, List.filter_append,
        List.filter_append, ← spoken, ← spoken, ← spoken, ← spoken, ih hrest]
      congr 1
      cases hs : silent c with
      | true => rw [if_pos rfl, parts_of_silent hs, List.map_nil]
      | false =>
          rw [if_neg Bool.false_ne_true]
          cases hnamed : c.named with
          | true => exact hc hnamed hs
          | false =>
              have hop : operation c = false := by rw [operation, hnamed]; rfl
              rw [if_neg Bool.false_ne_true, parts_of_single hop hs, List.map_singleton,
                token_of_anonymous hnamed]

/-- The words of a value are what its parts are written as. -/
theorem spoken_valueWords (hnamed : n.named = true) (hsilent : silent n = false) :
    spoken (valueWords source n) = spoken ((parts n).map (token source)) := by
  induction n using Node.induction_on_children with
  | step n ih =>
      rw [valueWords_eq]
      by_cases hbinary : n.kind = "binary_expression"
      · have hop : operation n = true := by simp [operation, hnamed, hbinary]
        rw [if_neg (by simp [hbinary]), if_pos hbinary, parts_of_operation hop]
        exact spoken_operandWords ih
      · have hop : operation n = false := by simp [operation, hbinary]
        rw [if_neg hbinary, parts_of_single hop hsilent, List.map_singleton]
        by_cases hcall : n.kind = "call_expression"
        · rw [if_pos hcall, token_of_call hnamed hcall]
          cases functionName? n <;> rfl
        · rw [if_neg hcall, token_of_not_call hnamed hcall]
          by_cases hempty : (Text.collapse (n.text source)).isEmpty = true
          · simp [spoken, hempty]
          · rw [if_neg hempty]

/-! ### What a value is written as -/

/-- The children of a node behind its first colon. -/
def Behind (n : Node) (after : List Node) : Prop :=
  ∃ before colon, n.children = before ++ colon :: after ∧ colon.kind = ":" ∧
    ∀ c ∈ before, c.kind ≠ ":"

/-- A named child that was read without a fault and is none of those that say nothing about the
value. -/
def Valued (n : Node) : Prop :=
  n.named = true ∧ n.kind ∉ ["property_name", "important", "comment", "ERROR"] ∧ n.missing = false

instance (n : Node) : Decidable (Valued n) := inferInstanceAs (Decidable (_ ∧ _))

theorem contributes_iff_valued : contributes n = true ↔ Valued n := by
  simp only [contributes, silent, broken, Valued, Bool.and_eq_true, Bool.not_eq_true',
    Bool.or_eq_false_iff, decide_eq_false_iff_not, List.mem_cons, List.not_mem_nil, or_false,
    not_or, and_assoc]

/-- What a value is written as, given the children behind the colon. -/
def tokens (source : ByteArray) (after : List Node) : List String :=
  spoken (((after.filter fun c ↦ Valued c).flatMap parts).map (token source))

theorem afterColon_of_behind {after : List Node} (h : Behind n after) :
    afterColon n.children = after := by
  obtain ⟨before, colon, hchildren, hcolon, hbefore⟩ := h
  rw [hchildren]
  clear hchildren
  induction before with
  | nil => rw [List.nil_append, afterColon, if_pos hcolon]
  | cons c before ih =>
      obtain ⟨hc, hbefore⟩ := List.forall_mem_cons.mp hbefore
      rw [List.cons_append, afterColon, if_neg hc, ih hbefore]

theorem afterColon_of_no_colon {cs : List Node} (h : ∀ c ∈ cs, c.kind ≠ ":") :
    afterColon cs = [] := by
  induction cs with
  | nil => rfl
  | cons c rest ih =>
      obtain ⟨hc, hrest⟩ := List.forall_mem_cons.mp h
      rw [afterColon, if_neg hc, ih hrest]

theorem spoken_flatMap {α : Type} (xs : List α) (f : α → List String) :
    spoken (xs.flatMap f) = xs.flatMap fun x ↦ spoken (f x) :=
  List.filter_flatMap

theorem normalizedValue_of_behind {after : List Node} (h : Behind n after) :
    normalizedValue source n = " ".intercalate (tokens source after) := by
  have hvalued : contributes = fun c ↦ decide (Valued c) := by
    funext c
    exact Bool.eq_iff_iff.mpr (contributes_iff_valued.trans decide_eq_true_iff.symm)
  have hwords : ∀ c ∈ after.filter contributes,
      spoken (valueWords source c) = spoken ((parts c).map (token source)) := by
    intro c hc
    have hc := List.of_mem_filter hc
    simp only [contributes, Bool.and_eq_true, Bool.not_eq_true'] at hc
    exact spoken_valueWords hc.1.1 hc.1.2
  rw [normalizedValue, afterColon_of_behind h, ← spoken, spoken_flatMap,
    List.flatMap_congr hwords, ← spoken_flatMap, ← List.map_flatMap, hvalued, ← tokens]

theorem normalizedValue_of_no_colon (h : ∀ c ∈ n.children, c.kind ≠ ":") :
    normalizedValue source n = "" := by
  rw [normalizedValue, afterColon_of_no_colon h]
  rfl

theorem behind_or_no_colon (n : Node) :
    (∃ after, Behind n after) ∨ ∀ c ∈ n.children, c.kind ≠ ":" := by
  cases hfind : n.children.find? fun c ↦ c.kind = ":" with
  | none =>
      right
      simpa using hfind
  | some colon =>
      left
      obtain ⟨hcolon, before, after, hchildren, hbefore⟩ := List.find?_eq_some_iff_append.mp hfind
      exact ⟨after, before, colon, hchildren, by simpa using hcolon, by simpa using hbefore⟩

/-! ### Canonical values -/

/-- The name of a called function and the operators of an operation hold no white space. -/
structure Unspaced (source : ByteArray) (n : Node) : Prop where
  function : n.kind = "call_expression" → ∀ name, functionName? n = some name →
    Text.Solid (name.text source)
  operator : n.kind = "binary_expression" → ∀ m ∈ n.children, m.named = false →
    Text.Solid (m.text source)

instance (source : ByteArray) (n : Node) : Decidable (Unspaced source n) :=
  decidable_of_iff
    ((n.kind = "call_expression" → ∀ name ∈ functionName? n, Text.Solid (name.text source)) ∧
      (n.kind = "binary_expression" → ∀ m ∈ n.children, m.named = false →
        Text.Solid (m.text source)))
    ⟨fun h ↦ ⟨h.1, h.2⟩, fun h ↦ ⟨h.1, h.2⟩⟩

theorem collapse_token_self (hnamed : n.named = true) (h : Unspaced source n) :
    Text.collapse (token source n) = token source n := by
  by_cases hcall : n.kind = "call_expression"
  · rw [token_of_call hnamed hcall]
    cases hname : functionName? n with
    | none => rfl
    | some name => exact Text.collapse_of_solid (h.function hcall name hname)
  · rw [token_of_not_call hnamed hcall, Text.collapse_collapse]

theorem collapse_token (hnamed : n.named = true)
    (h : ∀ m ∈ n.reach fun _ ↦ true, Unspaced source m) :
    ∀ p ∈ parts n, Text.collapse (token source p) = token source p := by
  induction n using Node.induction_on_children with
  | step n ih =>
      intro p hp
      cases hop : operation n with
      | true =>
          rw [parts_of_operation hop, List.mem_flatMap] at hp
          obtain ⟨c, hc, hp⟩ := hp
          cases hcnamed : c.named with
          | true => exact ih c hc hcnamed (fun m hm ↦ h m (Node.reach_subset_of_mem hc rfl hm)) p hp
          | false =>
              -- An operator stands below the operation itself, so its text is known to be one word.
              have hcop : operation c = false := by rw [operation, hcnamed]; rfl
              have hkind : n.kind = "binary_expression" := by
                simpa [operation, hnamed] using hop
              obtain rfl : p = c := eq_of_mem_parts hcop hp
              rw [token_of_anonymous hcnamed]
              exact Text.collapse_of_solid ((h n n.self_mem_reach).operator hkind p hc hcnamed)
      | false =>
          obtain rfl : p = n := eq_of_mem_parts hop hp
          exact collapse_token_self hnamed (h p p.self_mem_reach)

theorem exists_of_mem_tokens {after : List Node} {w : String} (h : w ∈ tokens source after) :
    w ≠ "" ∧ ∃ c ∈ after, Valued c ∧ ∃ p ∈ parts c, token source p = w := by
  obtain ⟨hw, hne⟩ := List.mem_filter.mp h
  obtain ⟨p, hp, rfl⟩ := List.mem_map.mp hw
  obtain ⟨c, hc, hp⟩ := List.mem_flatMap.mp hp
  obtain ⟨hc, hvalued⟩ := List.mem_filter.mp hc
  exact ⟨by simpa using hne, c, hc, of_decide_eq_true hvalued, p, hp, rfl⟩

theorem tokens_eq_nil_iff {after : List Node} :
    tokens source after = [] ↔ ∀ c ∈ after, Valued c → ∀ p ∈ parts c, token source p = "" := by
  simp only [tokens, spoken, List.filter_eq_nil_iff, List.forall_mem_map, List.mem_flatMap,
    List.mem_filter, decide_eq_true_iff, Bool.not_eq_true', Bool.not_eq_false, String.isEmpty_iff]
  constructor
  · intro h c hc hvalued p hp
    exact h p ⟨c, ⟨hc, hvalued⟩, hp⟩
  · rintro h p ⟨c, ⟨hc, hvalued⟩, hp⟩
    exact h c hc hvalued p hp

/-- Without white space in operators and names of functions, every token is collapsed, and so is the
value. -/
theorem collapse_normalizedValue (h : ∀ m ∈ n.reach fun _ ↦ true, Unspaced source m) :
    Text.collapse (normalizedValue source n) = normalizedValue source n := by
  rcases behind_or_no_colon n with ⟨after, hafter⟩ | hcolon
  · rw [normalizedValue_of_behind hafter]
    refine Text.collapse_intercalate (fun w hw ↦ (exists_of_mem_tokens hw).1) fun w hw ↦ ?_
    obtain ⟨-, c, hc, hvalued, p, hp, rfl⟩ := exists_of_mem_tokens hw
    have hchild : c ∈ n.children := by
      obtain ⟨before, colon, hchildren, -⟩ := hafter
      rw [hchildren]
      exact List.mem_append_right before (List.mem_cons_of_mem colon hc)
    exact collapse_token hvalued.1 (fun m hm ↦ h m (Node.reach_subset_of_mem hchild rfl hm)) p hp
  · rw [normalizedValue_of_no_colon hcolon]
    rfl

/-- What may stand between the parts of a value: separators, comments, the mark of importance and
what could not be read. -/
def Passive (n : Node) : Prop :=
  n.named = false ∨ n.kind ∈ ["comment", "important", "ERROR"] ∨ n.missing = true

instance (n : Node) : Decidable (Passive n) := inferInstanceAs (Decidable (_ ∨ _))

theorem tokens_congr {after after' : List Node}
    (h : (after'.filter fun c ↦ ¬ Passive c) = after.filter fun c ↦ ¬ Passive c) :
    tokens source after' = tokens source after := by
  have hvalued : ∀ cs : List Node, (cs.filter fun c ↦ Valued c) =
      (cs.filter fun c ↦ ¬ Passive c).filter fun c ↦ Valued c := by
    intro cs
    rw [List.filter_filter]
    refine List.filter_congr fun c _ ↦ ?_
    have himp : Valued c → ¬ Passive c := by
      rintro ⟨hnamed, hkind, hmissing⟩
      simp only [List.mem_cons, List.not_mem_nil, or_false, not_or] at hkind
      simp [Passive, hnamed, hkind, hmissing]
    by_cases hc : Valued c
    · simp [hc, himp hc]
    · simp [hc]
  rw [tokens, tokens, hvalued after', h, ← hvalued after]

/-- The value of a declaration is canonical.  Without a colon it is empty.  Otherwise it is what the
parts of the valued children behind the first colon are written as, less what is empty, joined by
single spaces; it is empty exactly if none of these parts is written as anything; and it is the
value of every declaration whose children behind the first colon differ in passive ones only.  If
operators and names of functions hold no white space, then a value holds single spaces between other
characters and no other white space. -/
theorem normalizedValue_canonical (source : ByteArray) (n : Node) :
    ((∀ c ∈ n.children, c.kind ≠ ":") → normalizedValue source n = "") ∧
    (∀ after, Behind n after →
      normalizedValue source n = " ".intercalate
        ((((after.filter fun c ↦ Valued c).flatMap parts).map (token source)).filter fun w ↦
          w ≠ "") ∧
      (normalizedValue source n = "" ↔
        ∀ c ∈ after, Valued c → ∀ p ∈ parts c, token source p = "") ∧
      ∀ n' after', Behind n' after' →
        (after'.filter fun c ↦ ¬ Passive c) = (after.filter fun c ↦ ¬ Passive c) →
          normalizedValue source n' = normalizedValue source n) ∧
    ((∀ m ∈ n.reach fun _ ↦ true, Unspaced source m) →
      Text.Collapsed (normalizedValue source n) ∧
        Text.collapse (normalizedValue source n) = normalizedValue source n) := by
  refine ⟨normalizedValue_of_no_colon, fun after hafter ↦ ⟨?_, ?_, ?_⟩, fun hunspaced ↦ ?_⟩
  · rw [normalizedValue_of_behind hafter, tokens, spoken]
    congr 1
    refine List.filter_congr fun w _ ↦ ?_
    by_cases hw : w = "" <;> simp [hw]
  · rw [normalizedValue_of_behind hafter,
      Text.intercalate_eq_empty_iff fun w hw ↦ (exists_of_mem_tokens hw).1, tokens_eq_nil_iff]
  · intro n' after' hafter' hactive
    rw [normalizedValue_of_behind hafter', normalizedValue_of_behind hafter,
      tokens_congr hactive]
  · have hcollapse := collapse_normalizedValue hunspaced
    refine ⟨?_, hcollapse⟩
    rw [← hcollapse]
    exact Text.collapsed_collapse _

/-- A call, an operation in an operation and a text with two spaces in it, with and without what
stands between and behind them. -/
theorem normalizedValue_canonical_nested :
    let source := "b:calc(1) 2+3 / 4,\"x  y\" !important".toUTF8
    let node (kind : String) (first last : Nat) (children : List Node) : Node :=
      .mk kind true false first last ⟨0, first⟩ [] children
    let sign (kind : String) (first last : Nat) : Node :=
      .mk kind false false first last ⟨0, first⟩ [] []
    let call : Node := .mk "call_expression" true false 2 9 ⟨0, 2⟩ [("function_name", 0)]
      [node "function_name" 2 6 [], node "arguments" 6 9 []]
    let inner := node "binary_expression" 10 13
      [node "integer_value" 10 11 [], sign "+" 11 12, node "integer_value" 12 13 []]
    let outer := node "binary_expression" 10 17
      [inner, sign "/" 14 15, node "integer_value" 16 17 []]
    let quoted := node "string_value" 18 24 []
    let after := [call, outer, sign "," 17 18, quoted, node "important" 25 35 []]
    let full := node "declaration" 0 35 (node "property_name" 0 1 [] :: sign ":" 1 2 :: after)
    let bare := node "declaration" 0 35 [sign ":" 1 2, call, outer, quoted]
    let lone := node "declaration" 0 1 [node "property_name" 0 1 []]
    let value := "calc 2 + 3 / 4 \"x y\""
    (Behind full after ∧ Behind bare [call, outer, quoted]) ∧
      ((after.filter fun c ↦ ¬ Passive c) = [call, outer, quoted].filter fun c ↦ ¬ Passive c) ∧
      (∀ m ∈ full.reach fun _ ↦ true, Unspaced source m) ∧
      (∀ c ∈ lone.children, c.kind ≠ ":") ∧
      normalizedValue source full = value ∧ normalizedValue source bare = value ∧
      normalizedValue source lone = "" ∧ Text.Collapsed value := by
  intro source node sign call inner outer quoted after full bare lone value
  have hfull : Behind full after :=
    ⟨[node "property_name" 0 1 []], sign ":" 1 2, rfl, rfl, by decide⟩
  have hbare : Behind bare [call, outer, quoted] := ⟨[], sign ":" 1 2, rfl, rfl, by decide⟩
  have hactive : (after.filter fun c ↦ ¬ Passive c) =
      [call, outer, quoted].filter fun c ↦ ¬ Passive c := rfl
  have hunspaced : ∀ m ∈ full.reach fun _ ↦ true, Unspaced source m := by decide +kernel
  have hopen : ∀ c ∈ lone.children, c.kind ≠ ":" := by decide
  obtain ⟨-, hbehind, -⟩ := normalizedValue_canonical source bare
  obtain ⟨hwritten, -, hsame⟩ := hbehind [call, outer, quoted] hbare
  have hvalue : normalizedValue source bare = value := by
    rw [hwritten]
    decide +kernel
  have hfullvalue : normalizedValue source full = value :=
    (hsame full after hfull hactive).trans hvalue
  refine ⟨⟨hfull, hbare⟩, hactive, hunspaced, hopen, hfullvalue, hvalue, ?_, ?_⟩
  · exact (normalizedValue_canonical source lone).1 hopen
  · rw [← hfullvalue]
    exact ((normalizedValue_canonical source full).2.2 hunspaced).1

end WebBaseline.Css

import WebBaseline.Display.Tagged

/-!
# Texts that are shown as they are

Tags, escapes, names of emoji and control characters are the parts of a tagged text that are not
shown as they are.  Each of them takes a character away that nothing puts back: a bracket, a
backslash, a colon or the control character itself.  So a text is shown as it is only if it has no
such part.
-/

namespace WebBaseline.Display

/-- The characters that a part which is not shown as it is holds at least one of. -/
def isMark (c : Char) : Bool :=
  c = '[' || c = '\\' || c = ':' || isStripped c

def marks (cs : List Char) : Nat := cs.countP isMark

theorem marks_append (a b : List Char) : marks (a ++ b) = marks a + marks b :=
  List.countP_append

theorem marks_reverse (cs : List Char) : marks cs.reverse = marks cs :=
  List.countP_reverse

theorem marks_cons_of_mark {c : Char} (h : isMark c = true) (cs : List Char) :
    marks (c :: cs) = marks cs + 1 :=
  List.countP_cons_of_pos h

theorem marks_cons_of_not_mark {c : Char} (h : isMark c = false) (cs : List Char) :
    marks (c :: cs) = marks cs :=
  List.countP_cons_of_neg (by rw [h]; exact Bool.false_ne_true)

theorem marks_cons_lt {cs cs' : List Char} (h : marks cs < marks cs') (c : Char) :
    marks (c :: cs) < marks (c :: cs') := by
  rw [marks, marks, List.countP_cons, List.countP_cons]
  exact Nat.add_lt_add_right h _

/-- A step that takes a mark away from a text, if it changes the text at all. -/
theorem marks_le_of_cases {out cs : List Char} {p q : Prop}
    (h : (out = cs ∧ p) ∨ (marks out < marks cs ∧ q)) : marks out ≤ marks cs := by
  obtain ⟨hself, -⟩ | ⟨hless, -⟩ := h
  · exact Nat.le_of_eq (congrArg marks hself)
  · exact Nat.le_of_lt hless

/-! ### Emoji -/

variable {cs name after : List Char}

theorem of_untilColon (h : untilColon cs = some (name, after)) :
    cs = name ++ ':' :: after ∧ ':' ∉ name := by
  induction cs generalizing name with
  | nil => simp [untilColon] at h
  | cons c rest ih =>
      rw [untilColon] at h
      split at h
      · rename_i hc
        simp only [Option.some.injEq, Prod.mk.injEq] at h
        obtain ⟨rfl, rfl⟩ := h
        exact ⟨by rw [hc, List.nil_append], List.not_mem_nil⟩
      · rename_i hc
        split at h
        · cases h
        · obtain ⟨⟨more, left⟩, hmore, heq⟩ := Option.map_eq_some_iff.mp h
          simp only [Prod.mk.injEq] at heq
          obtain ⟨rfl, rfl⟩ := heq
          obtain ⟨hrest, hnot⟩ := ih hmore
          refine ⟨by rw [hrest, List.cons_append], ?_⟩
          rw [List.mem_cons, not_or]
          exact ⟨Ne.symm hc, hnot⟩

/-- The names between colons, from the first colon on. -/
def emojiNames (cs : List Char) : List (List Char) :=
  match cs with
  | [] => []
  | c :: rest =>
      if c = ':' then
        match _h : untilColon rest with
        | some (name, after) => name :: emojiNames after
        | none => emojiNames rest
      else emojiNames rest
termination_by cs.length
decreasing_by
  all_goals simp_wf
  have := untilColon_length (by assumption)
  omega

theorem emojiNames_of_untilColon {rest : List Char} (h : untilColon rest = some (name, after)) :
    emojiNames (':' :: rest) = name :: emojiNames after := by
  rw [emojiNames, if_pos rfl]
  split <;> simp_all

theorem emojiNames_of_none {rest : List Char} (h : untilColon rest = none) :
    emojiNames (':' :: rest) = emojiNames rest := by
  rw [emojiNames, if_pos rfl]
  split <;> simp_all

theorem emojiNames_of_ne {c : Char} (h : c ≠ ':') (rest : List Char) :
    emojiNames (c :: rest) = emojiNames rest := by
  rw [emojiNames, if_neg h]

/-- No emoji is called so. -/
def Nameless (name : List Char) : Prop := emoji? name = none

theorem emojiNamed_of_nameless (h : Nameless name) : emojiNamed name = ':' :: name ++ [':'] := by
  rw [emojiNamed, h, Option.getD_none]

theorem isMark_emojiPoints : ∀ p ∈ emojiPoints, ∀ n ∈ p.2, isMark (Char.ofNat n) = false := by
  decide +kernel

theorem isMark_of_mem_emojiWish {c : Char} (h : c ∈ (emojiWish name).2) : isMark c = false := by
  rw [emojiWish] at h
  split at h
  · rw [List.mem_singleton.mp h]
    decide
  · split at h
    · rw [List.mem_singleton.mp h]
      decide
    · cases h

theorem isMark_of_emoji? {emoji : List Char} (h : emoji? name = some emoji) :
    ∀ c ∈ emoji, isMark c = false := by
  intro c hc
  obtain ⟨points, hlookup, rfl⟩ := Option.map_eq_some_iff.mp h
  obtain hc | hc := List.mem_append.mp hc
  · obtain ⟨n, hn, rfl⟩ := List.mem_map.mp hc
    obtain ⟨l, r, heq, -⟩ := List.lookup_eq_some_iff.mp hlookup
    apply isMark_emojiPoints (Text.lower (String.ofList (emojiWish name).1), points) _ n hn
    rw [heq]
    exact List.mem_append_right l List.mem_cons_self
  · exact isMark_of_mem_emojiWish hc

theorem marks_emojiNamed (h : ¬ Nameless name) : marks (emojiNamed name) = 0 := by
  obtain ⟨emoji, hemoji⟩ := Option.ne_none_iff_exists'.mp h
  rw [emojiNamed, hemoji, Option.getD_some]
  apply List.countP_eq_zero.mpr
  intro c hc
  rw [isMark_of_emoji? hemoji c hc]
  exact Bool.false_ne_true

/-- Where a name is no emoji, it stays as it is; an emoji takes the colons away. -/
theorem withEmoji_cases (cs : List Char) :
    (withEmoji cs = cs ∧ ∀ name ∈ emojiNames cs, Nameless name) ∨
      (marks (withEmoji cs) < marks cs ∧ ∃ name ∈ emojiNames cs, ¬ Nameless name) := by
  fun_induction withEmoji cs with
  | case1 =>
      refine Or.inl ⟨rfl, ?_⟩
      simp [emojiNames]
  | case2 rest name after hrest ih =>
      obtain ⟨hcs, -⟩ := of_untilColon hrest
      have hcolons : marks (':' :: rest) = marks name + 1 + marks after + 1 := by
        rw [hcs, marks_cons_of_mark (by decide), marks_append, marks_cons_of_mark (by decide)]
        omega
      rw [emojiNames_of_untilColon hrest, List.forall_mem_cons, marks_append, hcolons]
      by_cases hname : Nameless name
      · have hmarks : marks (emojiNamed name) = marks name + 2 := by
          rw [emojiNamed_of_nameless hname, List.cons_append, marks_cons_of_mark (by decide),
            marks_append]
          rfl
        obtain ⟨hafter, hall⟩ | ⟨hafter, other, hother, hnot⟩ := ih
        · left
          refine ⟨?_, hname, hall⟩
          rw [emojiNamed_of_nameless hname, hafter, hcs]
          simp only [List.cons_append, List.append_assoc, List.nil_append]
        · exact Or.inr ⟨by omega, other, List.mem_cons_of_mem name hother, hnot⟩
      · right
        have hmarks := marks_emojiNamed hname
        have hafter := marks_le_of_cases ih
        exact ⟨by omega, name, List.mem_cons_self, hname⟩
  | case3 rest hrest ih =>
      rw [emojiNames_of_none hrest, marks_cons_of_mark (by decide), marks_cons_of_mark (by decide)]
      obtain ⟨hself, hall⟩ | ⟨hless, hnot⟩ := ih
      · exact Or.inl ⟨by rw [hself], hall⟩
      · exact Or.inr ⟨by omega, hnot⟩
  | case4 c rest hc ih =>
      rw [emojiNames_of_ne hc]
      obtain ⟨hself, hall⟩ | ⟨hless, hnot⟩ := ih
      · exact Or.inl ⟨by rw [hself], hall⟩
      · exact Or.inr ⟨marks_cons_lt hless c, hnot⟩

theorem marks_withEmoji_le (cs : List Char) : marks (withEmoji cs) ≤ marks cs :=
  marks_le_of_cases (withEmoji_cases cs)

/-! ### Words -/

/-- A backslash before a bracket is dropped. -/
theorem dropEscapes_cases (cs : List Char) :
    (dropEscapes cs = cs ∧ ¬ ['\\', '['] <:+: cs) ∨
      (marks (dropEscapes cs) < marks cs ∧ ['\\', '['] <:+: cs) := by
  fun_induction dropEscapes cs with
  | case1 => simp
  | case2 rest ih =>
      have hrest := marks_le_of_cases ih
      right
      refine ⟨?_, (List.prefix_append ['\\', '['] rest).isInfix⟩
      rw [marks_cons_of_mark (by decide), marks_cons_of_mark (by decide),
        marks_cons_of_mark (by decide)]
      omega
  | case3 c rest hc ih =>
      have hprefix : ¬ ['\\', '['] <+: c :: rest := by
        rintro ⟨more, hmore⟩
        obtain ⟨hslash, hbracket⟩ := List.cons.inj hmore
        exact hc more hslash.symm hbracket.symm
      rw [List.infix_cons_iff, or_iff_right hprefix]
      obtain ⟨hself, hnot⟩ | ⟨hless, hbelow⟩ := ih
      · exact Or.inl ⟨by rw [hself], hnot⟩
      · exact Or.inr ⟨marks_cons_lt hless c, hbelow⟩

theorem marks_dropEscapes_le (cs : List Char) : marks (dropEscapes cs) ≤ marks cs :=
  marks_le_of_cases (dropEscapes_cases cs)

theorem marks_shownWords_le (cs : List Char) : marks (shownWords cs) ≤ marks cs :=
  Nat.le_trans List.filter_sublist.countP_le (marks_withEmoji_le cs)

/-- Words are shown as they are if no name stands for an emoji and no character is stripped. -/
theorem shownWords_eq_self_iff :
    shownWords cs = cs ↔
      (∀ name ∈ emojiNames cs, Nameless name) ∧ ∀ c ∈ cs, isStripped c = false := by
  constructor
  · intro h
    obtain ⟨hself, hnames⟩ | ⟨hless, -⟩ := withEmoji_cases cs
    · rw [shownWords, hself] at h
      refine ⟨hnames, fun c hc ↦ ?_⟩
      have hkept := List.filter_eq_self.mp h c hc
      rwa [Bool.not_eq_true'] at hkept
    · have hle : marks cs ≤ marks (withEmoji cs) := by
        rw [← congrArg marks h]
        exact List.filter_sublist.countP_le
      omega
  · rintro ⟨hnames, hkept⟩
    obtain ⟨hself, -⟩ | ⟨-, name, hname, hnot⟩ := withEmoji_cases cs
    · rw [shownWords, hself]
      apply List.filter_eq_self.mpr
      intro c hc
      rw [hkept c hc, Bool.not_false]
    · exact absurd (hnames name hname) hnot

/-! ### Pieces -/

/-- No bracket opens a tag. -/
def Untagged (cs : List Char) : Prop :=
  ∀ after, '[' :: after <:+ cs → tagBody? after = none

theorem untagged_cons_iff {c : Char} :
    Untagged (c :: cs) ↔ (c = '[' → tagBody? cs = none) ∧ Untagged cs := by
  constructor
  · intro h
    constructor
    · rintro rfl
      exact h cs (List.suffix_refl _)
    · intro after hafter
      exact h after (hafter.trans (List.suffix_cons c cs))
  · rintro ⟨hc, hrest⟩ after hafter
    obtain heq | hafter := List.suffix_cons_iff.mp hafter
    · obtain ⟨rfl, rfl⟩ := List.cons.inj heq
      exact hc rfl
    · exact hrest after hafter

theorem untagged_cons_of_ne {c : Char} (h : c ≠ '[') : Untagged (c :: cs) ↔ Untagged cs := by
  rw [untagged_cons_iff, and_iff_right fun heq ↦ absurd heq h]

/-- How many marks the words among some pieces have. -/
def wordMarks : List Piece → Nat
  | [] => 0
  | .words cs :: rest => marks cs + wordMarks rest
  | .tag _ :: rest => wordMarks rest

theorem wordMarks_append (ps qs : List Piece) :
    wordMarks (ps ++ qs) = wordMarks ps + wordMarks qs := by
  induction ps with
  | nil => rw [List.nil_append, wordMarks, Nat.zero_add]
  | cons p rest ih =>
      cases p with
      | words cs => rw [List.cons_append, wordMarks, wordMarks, ih, Nat.add_assoc]
      | tag body => rw [List.cons_append, wordMarks, wordMarks, ih]

theorem wordMarks_wordsOrNone (cs : List Char) : wordMarks (wordsOrNone cs) = marks cs := by
  cases cs <;> rfl

theorem marks_backslashes (n : Nat) : marks (backslashes n) = n := by
  rw [marks, backslashes, List.countP_replicate, if_pos (by decide)]

theorem eq_of_tagBody? {body : List Char} (h : tagBody? cs = some (body, after)) :
    cs = body ++ ']' :: after := by
  cases cs with
  | nil => cases h
  | cons c rest =>
      rw [tagBody?] at h
      split at h
      · split at h
        · rename_i tail hdrop
          simp only [Option.some.injEq, Prod.mk.injEq] at h
          obtain ⟨rfl, rfl⟩ := h
          rw [← hdrop, List.takeWhile_append_dropWhile]
        · cases h
      · cases h

/-- A text without tags is one piece; a tag takes a bracket or a backslash away. -/
theorem piecesAfter_cases (slashes : Nat) (before cs : List Char) :
    (piecesAfter slashes before cs = wordsOrNone (before.reverse ++ backslashes slashes ++ cs) ∧
        Untagged cs) ∨
      (wordMarks (piecesAfter slashes before cs) < marks before + slashes + marks cs ∧
        ¬ Untagged cs) := by
  fun_induction piecesAfter slashes before cs with
  | case1 slashes before =>
      left
      refine ⟨by rw [List.append_nil], ?_⟩
      intro after hafter
      simp at hafter
  | case2 slashes before rest ih =>
      rw [untagged_cons_of_ne (by decide), marks_cons_of_mark (by decide)]
      obtain ⟨hone, huntagged⟩ | ⟨hless, htagged⟩ := ih
      · left
        refine ⟨?_, huntagged⟩
        rw [hone, backslashes, List.replicate_succ', backslashes]
        simp only [List.append_assoc, List.cons_append, List.nil_append]
      · exact Or.inr ⟨by omega, htagged⟩
  | case3 slashes before rest body after hbody _ ih =>
      right
      have hrest : marks rest = marks body + marks after := by
        rw [eq_of_tagBody? hbody, marks_append, marks_cons_of_not_mark (by decide)]
      have hafter : wordMarks (piecesAfter 0 [] after) ≤ marks after := by
        obtain ⟨hone, -⟩ | ⟨hless, -⟩ := ih
        · rw [hone, wordMarks_wordsOrNone]
          exact Nat.le_refl _
        · exact Nat.le_trans (Nat.le_of_lt hless) (by simp [marks])
      have hbracket : marks ('[' :: body ++ [']']) = marks body + 1 := by
        rw [List.cons_append, marks_cons_of_mark (by decide), marks_append]
        rfl
      rw [untagged_cons_iff, hbody]
      refine ⟨?_, by simp⟩
      rw [wordMarks_append, wordMarks_append, wordMarks_wordsOrNone, wordMarks_wordsOrNone,
        marks_reverse, marks_backslashes, marks_cons_of_mark (by decide), hrest]
      split
      · rw [wordMarks, hbracket]
        omega
      · rw [wordMarks]
        omega
  | case4 slashes before rest hbody _ ih =>
      have hbefore : marks ('[' :: backslashes slashes ++ before) = marks before + slashes + 1 := by
        rw [List.cons_append, marks_cons_of_mark (by decide), marks_append, marks_backslashes]
        omega
      rw [untagged_cons_iff, and_iff_right fun _ ↦ hbody, marks_cons_of_mark (by decide)]
      obtain ⟨hone, huntagged⟩ | ⟨hless, htagged⟩ := ih
      · left
        refine ⟨?_, huntagged⟩
        rw [hone]
        simp [backslashes]
      · exact Or.inr ⟨by omega, htagged⟩
  | case5 slashes before c rest hslash hbracket ih =>
      rw [untagged_cons_of_ne hbracket]
      obtain ⟨hone, huntagged⟩ | ⟨hless, htagged⟩ := ih
      · left
        refine ⟨?_, huntagged⟩
        rw [hone]
        simp [backslashes]
      · right
        refine ⟨?_, htagged⟩
        have hc : marks [c] + marks rest = marks (c :: rest) := (marks_append [c] rest).symm
        have hbefore : marks (c :: backslashes slashes ++ before) =
            marks [c] + (slashes + marks before) := by
          rw [← marks_backslashes slashes, ← marks_append, marks_backslashes]
          exact marks_append [c] _
        omega

theorem marks_le_of_shownFrom {opened : List OpenTag} {ps : List Piece} {out : List Char}
    (h : shownFrom opened ps = .ok out) : marks out ≤ wordMarks ps := by
  fun_induction shownFrom opened ps generalizing out with
  | case1 opened =>
      cases h
      exact Nat.zero_le _
  | case2 opened cs rest shown hrest ih =>
      obtain rfl := Except.ok.inj h
      have hwords := Nat.le_trans (marks_shownWords_le (dropEscapes cs)) (marks_dropEscapes_le cs)
      rw [marks_append, wordMarks]
      exact Nat.add_le_add hwords (ih hrest)
  | case3 opened cs rest e hrest ih => cases h
  | case4 opened body rest parameters name t left hclosed hwell hsplit ih => exact ih h
  | case5 opened body rest parameters name t left hclosed hwell hsplit => cases h
  | case6 opened body rest parameters name hclosed hsplit => cases h
  | case7 opened body rest name parameters hsplit hopens ih => exact ih h

/-! ### Texts -/

/-- A text in which everything is shown as it is. -/
structure Literal (cs : List Char) : Prop where
  /-- no bracket opens a tag -/
  untagged : Untagged cs
  /-- no backslash stands before a bracket -/
  unescaped : ¬ ['\\', '['] <:+: cs
  /-- no name between colons stands for an emoji -/
  nameless : ∀ name ∈ emojiNames cs, Nameless name
  /-- no character is stripped -/
  kept : ∀ c ∈ cs, isStripped c = false

theorem shownWords_dropEscapes_eq_self_iff :
    shownWords (dropEscapes cs) = cs ↔ ¬ ['\\', '['] <:+: cs ∧
      (∀ name ∈ emojiNames cs, Nameless name) ∧ ∀ c ∈ cs, isStripped c = false := by
  obtain ⟨hself, hnot⟩ | ⟨hless, hescaped⟩ := dropEscapes_cases cs
  · rw [hself, and_iff_right hnot, shownWords_eq_self_iff]
  · constructor
    · intro h
      have hle := marks_shownWords_le (dropEscapes cs)
      rw [h] at hle
      omega
    · intro h
      exact absurd hescaped h.1

theorem shownFrom_wordsOrNone (opened : List OpenTag) (cs : List Char) :
    shownFrom opened (wordsOrNone cs) = .ok (shownWords (dropEscapes cs)) := by
  cases cs with
  | nil =>
      rw [wordsOrNone, dropEscapes, shownWords, withEmoji]
      rfl
  | cons c rest => exact congrArg Except.ok (List.append_nil _)

theorem dropEscapes_of_not_infix (h : ¬ ['\\', '['] <:+: cs) : dropEscapes cs = cs := by
  obtain ⟨hself, -⟩ | ⟨-, hescaped⟩ := dropEscapes_cases cs
  · exact hself
  · exact absurd hescaped h

/-- Looking for a bracket first makes no difference. -/
theorem shown_eq_shownFrom (s : String) : shown s = shownFrom [] (pieces s.toList) := by
  by_cases hbracket : '[' ∈ s.toList
  · rw [shown, if_pos (List.contains_iff_mem.mpr hbracket)]
  · have huntagged : Untagged s.toList := by
      intro after hafter
      exact absurd (hafter.subset List.mem_cons_self) hbracket
    have hunescaped : ¬ ['\\', '['] <:+: s.toList := by
      intro hescaped
      exact hbracket (hescaped.subset (List.mem_cons_of_mem _ List.mem_cons_self))
    obtain ⟨hone, -⟩ | ⟨-, htagged⟩ := piecesAfter_cases 0 [] s.toList
    · rw [shown, if_neg fun h ↦ hbracket (List.contains_iff_mem.mp h), pieces, hone,
        shownFrom_wordsOrNone]
      simp only [backslashes, List.reverse_nil, List.replicate_zero, List.nil_append,
        dropEscapes_of_not_infix hunescaped]
    · exact absurd huntagged htagged

/-- A text is shown as it is if, and only if, it has no tag, no escape, no name of an emoji and no
character that is stripped. -/
theorem shown_eq_self_iff (s : String) : shown s = .ok s.toList ↔ Literal s.toList := by
  rw [shown_eq_shownFrom, pieces]
  obtain ⟨hone, huntagged⟩ | ⟨hless, htagged⟩ := piecesAfter_cases 0 [] s.toList
  · rw [hone, shownFrom_wordsOrNone, Except.ok.injEq]
    exact shownWords_dropEscapes_eq_self_iff.trans
      ⟨fun ⟨hunescaped, hnameless, hkept⟩ ↦ ⟨huntagged, hunescaped, hnameless, hkept⟩,
        fun h ↦ ⟨h.unescaped, h.nameless, h.kept⟩⟩
  · constructor
    · intro h
      have hle := marks_le_of_shownFrom h
      simp only [marks, List.countP_nil, Nat.zero_add] at hle hless
      omega
    · intro h
      exact absurd h.untagged htagged

/-! ### Texts without marks -/

theorem ne_of_isMark {c mark : Char} (h : isMark c = false) (hmark : isMark mark = true) :
    c ≠ mark := by
  rintro rfl
  rw [h] at hmark
  cases hmark

theorem isStripped_of_isMark {c : Char} (h : isMark c = false) : isStripped c = false := by
  rw [isMark, Bool.or_eq_false_iff] at h
  exact h.2

theorem untilColon_append {name : List Char}
    (h : ∀ c ∈ name, c ≠ ':' ∧ Text.isBlank c = false) (after : List Char) :
    untilColon (name ++ ':' :: after) = some (name, after) := by
  induction name with
  | nil => rfl
  | cons c rest ih =>
      obtain ⟨hc, hblank⟩ := h c List.mem_cons_self
      rw [List.cons_append, untilColon, if_neg hc, hblank, if_neg Bool.false_ne_true,
        ih fun d hd ↦ h d (List.mem_cons_of_mem c hd)]
      rfl

end WebBaseline.Display

import WebBaseline.Proofs.Display.Escaped
import WebBaseline.Proofs.Display.Grid

/-!
# Terminals are lawful consoles

A terminal of any width has the laws of a console: what is written with escaped texts is shown,
tags and names of emoji are not, and a grid that fits is drawn row by row.
-/

namespace WebBaseline.Display

variable {width : Nat} {cs before after body t : List Char} {opened : List OpenTag}

theorem terminal_emoji? (name : List Char) : (terminal width).emoji? name = emoji? name := by
  simp only [terminal]

/-! ### Clean texts -/

/-- The names of emoji are looked up among the texts between two colons. -/
theorem exists_eq_of_mem_emojiNames {name : List Char} (h : name ∈ emojiNames cs) :
    ':' ∉ name ∧ ∃ before after, cs = before ++ ':' :: name ++ ':' :: after := by
  fun_induction emojiNames cs with
  | case1 => cases h
  | case2 rest first after hrest ih =>
      obtain ⟨heq, hfirst⟩ := of_untilColon hrest
      obtain rfl | h := List.mem_cons.mp h
      · exact ⟨hfirst, [], after, by rw [heq]; rfl⟩
      · obtain ⟨hname, before, tail, htail⟩ := ih h
        refine ⟨hname, ':' :: first ++ ':' :: before, tail, ?_⟩
        rw [heq, htail]
        simp
  | case3 rest _ ih | case4 c rest _ ih =>
      obtain ⟨hname, before, tail, htail⟩ := ih h
      exact ⟨hname, _ :: before, tail, by rw [htail]; rfl⟩

theorem Console.Clean.of_infix {c : Console} (h : c.Clean t) (hcs : cs <:+: t) : c.Clean cs := by
  refine ⟨fun ch hch ↦ h.kept ch (hcs.subset hch), ?_⟩
  rintro before name after rfl hname
  obtain ⟨front, back, rfl⟩ := hcs
  exact h.nameless (front ++ before) name (after ++ back) (by simp) hname

/-- A clean text without backslashes. -/
structure AsIs (width : Nat) (cs : List Char) : Prop extends (terminal width).Clean cs where
  unescaped : '\\' ∉ cs

theorem AsIs.of_infix (h : AsIs width t) (hcs : cs <:+: t) : AsIs width cs :=
  ⟨h.toClean.of_infix hcs, fun hmem ↦ h.unescaped (hcs.subset hmem)⟩

theorem shownWords_of_asIs (h : AsIs width cs) : shownWords (dropEscapes cs) = cs := by
  apply shownWords_dropEscapes_eq_self_iff.mpr
  refine ⟨fun hescaped ↦ h.unescaped (hescaped.subset List.mem_cons_self), fun name hname ↦ ?_,
    h.kept⟩
  obtain ⟨hcolon, before, after, heq⟩ := exists_eq_of_mem_emojiNames hname
  have hnameless := h.nameless before name after heq hcolon
  rwa [terminal_emoji?] at hnameless

theorem shownFrom_append_of_asIs {ws ps : List Piece} (hws : OnlyWords ws)
    (h : AsIs width (wordsText ws)) :
    shownFrom opened (ws ++ ps) = (shownFrom opened ps).map (wordsText ws ++ ·) := by
  induction ws with
  | nil => cases hps : shownFrom opened ps <;> simp [wordsText, Except.map, hps]
  | cons p rest ih =>
      obtain ⟨cs, rfl⟩ := hws p List.mem_cons_self
      have hcs := h.of_infix (List.prefix_append cs (wordsText rest)).isInfix
      have hrest := h.of_infix (List.suffix_append cs (wordsText rest)).isInfix
      rw [List.cons_append, shownFrom, ih (fun q hq ↦ hws q (List.mem_cons_of_mem _ hq)) hrest,
        shownWords_of_asIs hcs]
      cases shownFrom opened ps <;> simp [Except.map, wordsText]

theorem shownFrom_wordsOrNone_append (h : AsIs width cs) (ps : List Piece) :
    shownFrom opened (wordsOrNone cs ++ ps) = (shownFrom opened ps).map (cs ++ ·) := by
  have hwords := wordsText_wordsOrNone cs
  rw [shownFrom_append_of_asIs (onlyWords_wordsOrNone cs) (hwords ▸ h), hwords]

theorem shownFrom_wordsOrNone_of_asIs (h : AsIs width cs) :
    shownFrom opened (wordsOrNone cs) = .ok cs := by
  rw [shownFrom_wordsOrNone, shownWords_of_asIs h]

/-! ### Tags -/

theorem piecesAfter_unmarked (h : Unmarked cs) (before rest : List Char) :
    piecesAfter 0 before (cs ++ rest) = piecesAfter 0 (cs.reverse ++ before) rest := by
  induction cs generalizing before with
  | nil => rfl
  | cons c cs ih =>
      obtain ⟨hbracket, hslash⟩ := h c List.mem_cons_self
      rw [List.cons_append, piecesAfter_of_no_tag 0 before hslash fun hc ↦ absurd hc hbracket,
        ih fun d hd ↦ h d (List.mem_cons_of_mem c hd)]
      simp [backslashes]

theorem piecesAfter_end (before : List Char) :
    piecesAfter 0 before [] = wordsOrNone before.reverse := by
  rw [piecesAfter]
  simp [backslashes]

theorem piecesAfter_tag (hstart : body.head?.any startsTag = true)
    (hbody : ∀ ch ∈ body, ch ≠ '[' ∧ ch ≠ ']') (before after : List Char) :
    piecesAfter 0 before ('[' :: (body ++ ']' :: after)) =
      wordsOrNone before.reverse ++ .tag body :: piecesAfter 0 [] after := by
  have hends : ∀ ch ∈ body, endsBody ch = false := by
    intro ch hch
    simpa [endsBody] using hbody ch hch
  rw [piecesAfter_of_tagBody? 0 before (tagBody?_append hstart hends after)]
  simp [backslashes, wordsOrNone]

theorem shownFrom_opening (h : (splitTag body).1.head? ≠ some '/') (ps : List Piece) :
    shownFrom opened (.tag body :: ps) =
      shownFrom ({ name := Style.canonical (String.ofList (splitTag body).1),
                   parameters := (splitTag body).2 } :: opened) ps := by
  rw [shownFrom]
  generalize splitTag body = tag at h ⊢
  obtain ⟨name, parameters⟩ := tag
  simp only at h ⊢
  split
  · exact absurd rfl h
  · rfl

/-- The name of a tag starts as its body does, an equals sign aside. -/
theorem head?_splitTag {ch : Char} (h : body.head? = some ch) (hch : ch ≠ '=') :
    (splitTag body).1.head? = some ch := by
  obtain ⟨rest, rfl⟩ := List.head?_eq_some_iff.mp h
  rw [splitTag]
  split
  · simp [hch]
  · rfl

theorem shownFrom_unmatched (ps : List Piece) :
    shownFrom [] (.tag ('/' :: body) :: ps) = .error .nothingToClose := by
  have hnone : ∀ name, closeTag name [] = none := by
    intro name
    rw [closeTag]
    split <;> rfl
  have hslash : ('/' :: body).head? = some '/' := rfl
  obtain ⟨name, hname⟩ := List.head?_eq_some_iff.mp (head?_splitTag hslash (by decide))
  rw [shownFrom]
  simp only [hname, hnone]

/-! ### Styles that are closed again -/

theorem splitTag_of_not_mem (h : '=' ∉ body) : splitTag body = (body, none) := by
  have hnone : body.dropWhile (· ≠ '=') = [] := by
    apply List.dropWhile_eq_nil_iff.mpr
    intro ch hch
    have hne : ch ≠ '=' := by
      rintro rfl
      exact h hch
    simpa using hne
  rw [splitTag, hnone]

theorem trimChars_of_forall (h : ∀ ch ∈ cs, Text.isBlank ch = false) :
    Text.trimChars cs = cs := by
  have hdrop : ∀ {l : List Char}, (∀ ch ∈ l, Text.isBlank ch = false) →
      l.dropWhile Text.isBlank = l := by
    intro l hl
    cases l with
    | nil => rfl
    | cons ch rest => exact List.dropWhile_cons_of_neg (by simp [hl ch List.mem_cons_self])
  rw [Text.trimChars, hdrop h, hdrop fun ch hch ↦ h ch (List.mem_reverse.mp hch),
    List.reverse_reverse]

theorem closesWell_of_none (name : String) : closesWell { name, parameters := none } = true := by
  rw [closesWell]
  split
  · rename_i hnone
    cases hnone
  · rfl

section Styles

variable {style : String} (hstyle : IsStyleWord style)

include hstyle

theorem style_not_mem (ch : Char) (h : ¬ ('a' ≤ ch ∧ ch ≤ 'z')) : ch ∉ style.toList :=
  fun hmem ↦ h (hstyle.2 ch hmem)

theorem closeTag_style (opened : List OpenTag) :
    closeTag style.toList ({ name := Style.canonical style, parameters := none } :: opened) =
      some ({ name := Style.canonical style, parameters := none }, opened) := by
  have htrim : Text.trimChars style.toList = style.toList := by
    apply trimChars_of_forall
    intro ch hch
    obtain ⟨hle, hle'⟩ := hstyle.2 ch hch
    have hle : 97 ≤ ch.toNat := UInt32.le_iff_toNat_le.mp hle
    have hle' : ch.toNat ≤ 122 := UInt32.le_iff_toNat_le.mp hle'
    simp only [Text.isBlank, Bool.or_eq_false_iff, Bool.and_eq_false_iff, decide_eq_false_iff_not,
      beq_eq_false_iff_ne]
    omega
  have hempty : style.toList.isEmpty = false := by simpa using hstyle.1
  rw [closeTag, htrim, String.ofList_toList]
  simp only [hempty, Bool.false_eq_true, if_false, closeNamed, if_true]

theorem shownFrom_style (opened : List OpenTag) (ps : List Piece) :
    shownFrom opened (.tag style.toList :: ps) =
      shownFrom ({ name := Style.canonical style, parameters := none } :: opened) ps := by
  have hsplit := splitTag_of_not_mem (style_not_mem hstyle '=' (by decide))
  have hslash : (splitTag style.toList).1.head? ≠ some '/' := by
    rw [hsplit]
    intro hhead
    exact style_not_mem hstyle '/' (by decide) (List.mem_of_head? hhead)
  rw [shownFrom_opening hslash, hsplit, String.ofList_toList]

theorem shownFrom_end_style (opened : List OpenTag) (ps : List Piece) :
    shownFrom ({ name := Style.canonical style, parameters := none } :: opened)
      (.tag ('/' :: style.toList) :: ps) = shownFrom opened ps := by
  have hsplit : splitTag ('/' :: style.toList) = ('/' :: style.toList, none) := by
    apply splitTag_of_not_mem
    rw [List.mem_cons, not_or]
    exact ⟨by decide, style_not_mem hstyle _ (by decide)⟩
  rw [shownFrom, hsplit]
  simp only [closeTag_style hstyle, closesWell_of_none, if_true]

/-- An escaped text in a style: a tag, words, and the tag that closes it unless an odd number of
backslashes stands before it. -/
theorem exists_piecesAfter_styled (before : List Char) (s : String) (rest : List Char) :
    ∃ ws last, OnlyWords ws ∧
      piecesAfter 0 before ('[' :: (style.toList ++ ']' :: ((escaped s).toList ++
        '[' :: ('/' :: style.toList ++ ']' :: rest)))) =
        wordsOrNone before.reverse ++ .tag style.toList :: (ws ++ last :: piecesAfter 0 [] rest) ∧
      (last = .tag ('/' :: style.toList) ∨ ∃ cs, last = .words cs) ∧
      ('\\' ∉ s.toList → last = .tag ('/' :: style.toList) ∧ wordsText ws = s.toList) := by
  have hinside : ∀ ch ∈ style.toList, ch ≠ '[' ∧ ch ≠ ']' := by
    intro ch hch
    constructor
    · rintro rfl
      exact style_not_mem hstyle _ (by decide) hch
    · rintro rfl
      exact style_not_mem hstyle _ (by decide) hch
  have hstart : style.toList.head?.any startsTag = true := by
    obtain ⟨ch, more, hmore⟩ := List.exists_cons_of_ne_nil hstyle.1
    have hch := hstyle.2 ch (hmore ▸ List.mem_cons_self)
    simp [hmore, startsTag, hch]
  have hends : ∀ ch ∈ '/' :: style.toList, endsBody ch = false := by
    intro ch hch
    obtain rfl | hch := List.mem_cons.mp hch
    · decide
    · simpa [endsBody] using hinside ch hch
  have hslash : ('/' :: style.toList).head?.any startsTag = true := rfl
  have hclosing := tagBody?_append hslash hends rest
  have hbracket : ('[' :: ('/' :: style.toList ++ ']' :: rest)).find? endsBody ≠ some ']' := by
    rw [List.find?_cons_of_pos (by decide)]
    decide
  obtain ⟨ws, n, left, hws, hpieces, hsays⟩ := exists_piecesAfter_escaped hbracket [] s
  refine ⟨ws ++ (wordsOrNone left.reverse ++ wordsOrNone (backslashes (n / 2))),
    if n % 2 = 1 then .words ('[' :: ('/' :: style.toList) ++ [']'])
      else .tag ('/' :: style.toList),
    hws.append ((onlyWords_wordsOrNone _).append (onlyWords_wordsOrNone _)), ?_, ?_, ?_⟩
  · rw [piecesAfter_tag hstart hinside, hpieces, piecesAfter_of_tagBody? n left hclosing]
    simp only [List.append_assoc]
  · split
    · exact Or.inr ⟨_, rfl⟩
    · exact Or.inl rfl
  · intro hnone
    obtain ⟨rfl, htext⟩ := hsays hnone
    refine ⟨rfl, ?_⟩
    rw [wordsText_append, wordsText_append, wordsText_wordsOrNone, wordsText_wordsOrNone]
    simpa [backslashes] using htext

end Styles

/-! ### What is written is read -/

/-- Whatever is written can be read, and if it is clean it is shown. -/
theorem shownFrom_of_writes {m : String} (h : (terminal width).Writes m t)
    (opened : List OpenTag) (before : List Char) :
    (∃ out, shownFrom opened (piecesAfter 0 before m.toList) = .ok out) ∧
      (AsIs width (before.reverse ++ t) →
        shownFrom opened (piecesAfter 0 before m.toList) = .ok (before.reverse ++ t)) := by
  induction h generalizing opened before with
  | nothing =>
      rw [String.toList_empty, piecesAfter_end, List.append_nil]
      exact ⟨⟨_, shownFrom_wordsOrNone opened _⟩, shownFrom_wordsOrNone_of_asIs⟩
  | @unmarked s m t hs rest ih =>
      rw [String.toList_append, piecesAfter_unmarked hs]
      have hrest := ih opened (s.toList.reverse ++ before)
      rwa [List.reverse_append, List.reverse_reverse, List.append_assoc] at hrest
  | @styled style s m t hstyle rest ih =>
      obtain ⟨ws, last, hws, hpieces, hlast, hsays⟩ :=
        exists_piecesAfter_styled hstyle before s m.toList
      have htext : ("[" ++ style ++ "]" ++ (terminal width).escaped s ++ "[/" ++ style ++ "]" ++
          m).toList = '[' :: (style.toList ++ ']' :: ((escaped s).toList ++
            '[' :: ('/' :: style.toList ++ ']' :: m.toList))) := by
        simp [terminal]
      rw [htext, hpieces]
      constructor
      · rw [exists_shownFrom_append_iff (onlyWords_wordsOrNone _), shownFrom_style hstyle,
          exists_shownFrom_append_iff hws]
        obtain rfl | ⟨cs, rfl⟩ := hlast
        · rw [shownFrom_end_style hstyle]
          exact (ih opened []).1
        · have hwords : OnlyWords [.words cs] := fun p hp ↦ ⟨_, List.mem_singleton.mp hp⟩
          exact (exists_shownFrom_append_iff hwords _ _).mpr (ih _ []).1
      · intro hall
        have hmore := hall.of_infix (List.suffix_append before.reverse (s.toList ++ t)).isInfix
        have hs := hmore.of_infix (List.prefix_append s.toList t).isInfix
        have ht := hmore.of_infix (List.suffix_append s.toList t).isInfix
        obtain ⟨rfl, hwords⟩ := hsays hs.unescaped
        rw [shownFrom_wordsOrNone_append (hall.of_infix (List.prefix_append _ _).isInfix),
          shownFrom_style hstyle, shownFrom_append_of_asIs hws (hwords ▸ hs),
          shownFrom_end_style hstyle, (ih opened []).2 ht, hwords]
        rfl
  | escaped s =>
      have hempty : ([] : List Char).find? endsBody ≠ some ']' := by simp
      obtain ⟨ws, n, left, hws, hpieces, hsays⟩ := exists_piecesAfter_escaped hempty before s
      rw [List.append_nil] at hpieces
      change (∃ out, shownFrom opened (piecesAfter 0 before (escaped s).toList) = .ok out) ∧
        (_ → shownFrom opened (piecesAfter 0 before (escaped s).toList) = _)
      rw [hpieces]
      constructor
      · rw [exists_shownFrom_append_iff hws, piecesAfter, shownFrom_wordsOrNone]
        exact ⟨_, rfl⟩
      · intro hall
        have hs := hall.of_infix (List.suffix_append before.reverse s.toList).isInfix
        obtain ⟨rfl, htext⟩ := hsays hs.unescaped
        rw [← htext] at hall ⊢
        rw [shownFrom_append_of_asIs hws (hall.of_infix (List.prefix_append _ _).isInfix),
          piecesAfter_end,
          shownFrom_wordsOrNone_of_asIs (hall.of_infix (List.suffix_append _ _).isInfix)]
        rfl

theorem escaped_of_unmarked {s : String} (h : Unmarked s.toList) : escaped s = s := by
  have hself : ∀ cs : List Char, Unmarked cs → escapedAfter 0 cs = cs := by
    intro cs hcs
    induction cs with
    | nil => rfl
    | cons c rest ih =>
        obtain ⟨hbracket, hslash⟩ := hcs c List.mem_cons_self
        rw [escapedAfter, if_neg hslash, if_neg (by simp [hbracket]),
          ih fun d hd ↦ hcs d (List.mem_cons_of_mem c hd)]
        rfl
  have hends : endsInBackslash s.toList = false := by
    apply Bool.eq_false_iff.mpr
    intro hends
    exact (h _ (List.mem_of_getLast? (getLast?_of_endsInBackslash hends))).2 rfl
  rw [escaped, hself s.toList h, hends]
  exact String.ofList_toList

/-! ### Texts with one tag or one emoji -/

theorem asIs_of_plain (h : (terminal width).Plain cs) : AsIs width cs :=
  ⟨h.toClean, fun hmem ↦ (h.unmarked _ hmem).2 rfl⟩

theorem piecesAfter_of_unmarked (h : Unmarked cs) (before : List Char) :
    piecesAfter 0 before cs = wordsOrNone (before.reverse ++ cs) := by
  have hend := piecesAfter_unmarked h before []
  rwa [List.append_nil, piecesAfter_end, List.reverse_append, List.reverse_reverse] at hend

theorem pieces_of_tag (hbefore : Unmarked before) (hstart : body.head?.any startsTag = true)
    (hbody : ∀ ch ∈ body, ch ≠ '[' ∧ ch ≠ ']') (after : List Char) :
    pieces (before ++ '[' :: body ++ ']' :: after) =
      wordsOrNone before ++ .tag body :: piecesAfter 0 [] after := by
  rw [pieces, List.append_assoc, List.cons_append, piecesAfter_unmarked hbefore,
    piecesAfter_tag hstart hbody, List.reverse_append, List.reverse_reverse]
  rfl

theorem shown_of_tag (hbefore : (terminal width).Plain before) (hbody : OpensStyle body)
    (hafter : (terminal width).Plain after) :
    shown (String.ofList (before ++ '[' :: body ++ ']' :: after)) = .ok (before ++ after) := by
  obtain ⟨ch, hhead, hch⟩ : ∃ ch, body.head? = some ch ∧
      (('a' ≤ ch && ch ≤ 'z') || ch = '#' || ch = '@') = true :=
    Option.any_eq_true _ _ |>.mp hbody.start
  have hstart : body.head?.any startsTag = true := by
    rw [hhead, Option.any_some, startsTag]
    simp only [Bool.or_eq_true] at hch ⊢
    tauto
  have hslash : (splitTag body).1.head? ≠ some '/' := by
    rw [head?_splitTag hhead]
    · rintro ⟨⟩
      exact absurd hch (by decide)
    · rintro rfl
      exact absurd hch (by decide)
  rw [shown_eq_shownFrom, String.toList_ofList,
    pieces_of_tag hbefore.unmarked hstart hbody.inside,
    shownFrom_wordsOrNone_append (asIs_of_plain hbefore), shownFrom_opening hslash,
    piecesAfter_of_unmarked hafter.unmarked, List.reverse_nil, List.nil_append,
    shownFrom_wordsOrNone_of_asIs (asIs_of_plain hafter)]
  rfl

theorem shownFrom_wordsOrNone_append_error {e : TagFault} {ps : List Piece} (cs : List Char)
    (h : shownFrom opened ps = .error e) : shownFrom opened (wordsOrNone cs ++ ps) = .error e := by
  cases cs with
  | nil => exact h
  | cons c rest =>
      have hcons : wordsOrNone (c :: rest) ++ ps = .words (c :: rest) :: ps := rfl
      rw [hcons, shownFrom, h]

theorem shown_of_unmatched (hbefore : Unmarked before) (hbody : ∀ ch ∈ body, ch ≠ '[' ∧ ch ≠ ']')
    (after : List Char) :
    shown (String.ofList (before ++ '[' :: '/' :: body ++ ']' :: after)) =
      .error .nothingToClose := by
  have hinside : ∀ ch ∈ '/' :: body, ch ≠ '[' ∧ ch ≠ ']' := by
    intro ch hch
    obtain rfl | hch := List.mem_cons.mp hch
    · decide
    · exact hbody ch hch
  have hslash : ('/' :: body).head?.any startsTag = true := rfl
  rw [shown_eq_shownFrom, String.toList_ofList, pieces_of_tag hbefore hslash hinside]
  exact shownFrom_wordsOrNone_append_error _ (shownFrom_unmatched _)

theorem withEmoji_append (h : ':' ∉ before) (cs : List Char) :
    withEmoji (before ++ cs) = before ++ withEmoji cs := by
  induction before with
  | nil => rfl
  | cons c rest ih =>
      rw [List.mem_cons, not_or] at h
      rw [List.cons_append, withEmoji, if_neg (Ne.symm h.1), ih h.2, List.cons_append]

theorem withEmoji_of_not_mem (h : ':' ∉ cs) : withEmoji cs = cs := by
  have hnil := withEmoji_append h []
  rwa [List.append_nil, withEmoji, List.append_nil] at hnil

theorem shown_of_emoji {name points : List Char} (hbefore : (terminal width).Plain before)
    (hcolon : ':' ∉ before) (hafter : (terminal width).Plain after) (hcolon' : ':' ∉ after)
    (hname : Unmarked name) (hblank : ∀ ch ∈ name, ch ≠ ':' ∧ Text.isBlank ch = false)
    (hpoints : (terminal width).emoji? name = some points) :
    shown (String.ofList (before ++ ':' :: name ++ ':' :: after)) =
      .ok (before ++ points ++ after) := by
  rw [terminal_emoji?] at hpoints
  have hunmarked : Unmarked (before ++ ':' :: name ++ ':' :: after) := by
    intro ch hch
    simp only [List.mem_append, List.mem_cons] at hch
    obtain (hch | rfl | hch) | rfl | hch := hch
    · exact hbefore.unmarked ch hch
    · decide
    · exact hname ch hch
    · decide
    · exact hafter.unmarked ch hch
  have hescapes : ¬ ['\\', '['] <:+: before ++ ':' :: name ++ ':' :: after :=
    fun hwithin ↦ (hunmarked _ (hwithin.subset List.mem_cons_self)).2 rfl
  have huntil : untilColon (name ++ ':' :: after) = some (name, after) := untilColon_append hblank _
  have hemoji : withEmoji (before ++ ':' :: name ++ ':' :: after) =
      before ++ (points ++ after) := by
    rw [List.append_assoc, withEmoji_append hcolon, List.cons_append, withEmoji, if_pos rfl]
    split
    · rename_i name' after' hsome
      rw [huntil] at hsome
      obtain ⟨rfl, rfl⟩ := Prod.mk.inj (Option.some.inj hsome)
      rw [emojiNamed, hpoints, Option.getD_some, withEmoji_of_not_mem hcolon']
    · rename_i hnone
      rw [huntil] at hnone
      cases hnone
  have hkept : ∀ ch ∈ before ++ (points ++ after), isStripped ch = false := by
    intro ch hch
    simp only [List.mem_append] at hch
    obtain hch | hch | hch := hch
    · exact hbefore.kept ch hch
    · exact isStripped_of_isMark (isMark_of_emoji? hpoints ch hch)
    · exact hafter.kept ch hch
  have hfilter : (before ++ (points ++ after)).filter (fun ch ↦ !isStripped ch) =
      before ++ (points ++ after) := by
    apply List.filter_eq_self.mpr
    intro ch hch
    rw [hkept ch hch, Bool.not_false]
  rw [shown_eq_shownFrom, String.toList_ofList, pieces, piecesAfter_of_unmarked hunmarked,
    shownFrom_wordsOrNone, List.reverse_nil, List.nil_append, dropEscapes_of_not_infix hescapes,
    shownWords, hemoji, hfilter, List.append_assoc]

/-! ### Grids -/

theorem drawn_rows {g : Grid} (hfits : g.FitsIn width)
    (hleft : (g.columns.head?.any fun x ↦ x.placing = .left) = true)
    (hrows : ∀ row ∈ g.rows, row.length = g.columns.length) :
    ∃ above blocks below, g.lines width = above ++ blocks.flatten ++ below ∧
      List.Forall₂ (fun row block ↦ block ≠ [] ∧ ∀ cell ∈ row.head?, OneLine cell →
        (∃ ch ∈ cell.getLast?, Text.isBlank ch = false) → BlockShows cell block) g.rows blocks := by
  obtain ⟨column, columns, hcolumns⟩ : ∃ column columns, g.columns = column :: columns := by
    cases hcolumns : g.columns with
    | nil => simp [hcolumns] at hleft
    | cons column columns => exact ⟨column, columns, rfl⟩
  have hplacing : column.placing = .left := by simpa [hcolumns] using hleft
  have hne : ∀ row ∈ g.rows, row ≠ [] := by
    rintro row hrow rfl
    have hlength := hrows [] hrow
    simp [hcolumns] at hlength
  obtain ⟨w, more, hwidths, hwidest⟩ :=
    Grid.exists_naturalWidths (hcolumns ▸ List.cons_ne_nil _ _) hne
  let block := Grid.rowLines '│' (g.widths width) (g.columns.map (·.placing))
  refine ⟨_, g.rows.map block, _, rfl, ?_⟩
  apply List.forall₂_map_right_iff.mpr
  apply List.forall₂_same.mpr
  intro row hrow
  refine ⟨Grid.rowLines_ne_nil _ _ _ _, fun cell hcell hline hlast ↦ ?_⟩
  obtain ⟨cells, rfl⟩ := List.head?_eq_some_iff.mp hcell
  have hw := hwidest _ hrow cell hcell
  rw [widest_of_oneLine hline] at hw
  obtain ⟨first, others, hlines, hprefix⟩ := Grid.exists_rowLines '│' more
    (columns.map (·.placing)) cells (laidOut_of_width_le .dots hline hlast hw)
  refine ⟨'│', _, first, others, ?_, hprefix⟩
  simp only [block, Grid.widths_of_fitsIn hfits, hwidths, hcolumns, List.map_cons, hplacing, hlines]

/-- A terminal has the laws of a console. -/
theorem lawful_terminal (width : Nat) : (terminal width).Lawful where
  escaped_of_unmarked := escaped_of_unmarked
  shown_of_writes := by
    intro m t h
    have hread := (shownFrom_of_writes h [] []).1
    rwa [← pieces, ← shown_eq_shownFrom] at hread
  shown_of_clean := by
    intro m t h hclean hslash
    have hshown := (shownFrom_of_writes h [] []).2 ⟨hclean, hslash⟩
    rwa [← pieces, ← shown_eq_shownFrom] at hshown
  shown_of_tag := shown_of_tag
  shown_of_unmatched := fun after hbefore hbody ↦ shown_of_unmatched hbefore hbody after
  shown_of_emoji := shown_of_emoji
  drawn_rows := drawn_rows

end WebBaseline.Display

import WebBaseline.Glob

/-!
# The language of glob patterns

A pattern stands for the texts that can be cut into pieces, one for each of its tokens in order.
The matcher works on positions instead: it keeps, for every beginning of a path, whether the
tokens read so far spell it.  `Marks` says that such a list of answers is right, each token keeps
it right, and so the last answer tells whether the whole path is in the language.

A pattern that ends in a slash and two stars ends in a token that takes any text, so what it
accepts it accepts with anything behind it.
-/

namespace WebBaseline.Glob

/-- The pieces of a path that a token stands for. -/
def Token.Takes : Token → List Char → Prop
  | folders, piece => piece = [] ∨ ∃ start, piece = start ++ ['/']
  | anything, _ => True
  | name, piece => '/' ∉ piece
  | literal c, piece => piece = [c]

/-- A text that can be cut into pieces, one for each token in order. -/
def Spells : List Token → List Char → Prop
  | [], text => text = []
  | t :: ts, text => ∃ piece rest, text = piece ++ rest ∧ t.Takes piece ∧ Spells ts rest

theorem spells_append {ts us : List Token} {text : List Char} :
    Spells (ts ++ us) text ↔ ∃ u v, text = u ++ v ∧ Spells ts u ∧ Spells us v := by
  induction ts generalizing text with
  | nil =>
      simp only [List.nil_append, Spells]
      constructor
      · intro h
        exact ⟨[], text, rfl, rfl, h⟩
      · rintro ⟨_, v, rfl, rfl, h⟩
        exact h
  | cons t ts ih =>
      simp only [List.cons_append, Spells]
      constructor
      · rintro ⟨piece, rest, rfl, hpiece, hrest⟩
        obtain ⟨u, v, rfl, hu, hv⟩ := ih.mp hrest
        exact ⟨piece ++ u, v, by simp, ⟨piece, u, rfl, hpiece, hu⟩, hv⟩
      · rintro ⟨_, v, rfl, ⟨piece, u, rfl, hpiece, hu⟩, hv⟩
        exact ⟨piece, u ++ v, by simp, hpiece, ih.mpr ⟨u, v, rfl, hu, hv⟩⟩

/-! ### Lists of answers -/

/-- The answers to a question about the beginnings of a path, from the empty one to the whole. -/
def Marks (P : List Char → Prop) : List Char → List Bool → Prop
  | [], [r] => r = true ↔ P []
  | c :: path, r :: reach => (r = true ↔ P []) ∧ Marks (fun u ↦ P (c :: u)) path reach
  | _, _ => False

theorem marks_start {P : List Char → Prop} (hnil : P []) (hcons : ∀ c u, ¬ P (c :: u))
    (path : List Char) : Marks P path (start path) := by
  cases path with
  | nil => simp [start, Marks, hnil]
  | cons c path =>
      refine ⟨by simp [hnil], ?_⟩
      have hfalse : ∀ (Q : List Char → Prop) (path : List Char), (∀ u, ¬ Q u) →
          Marks Q path (false :: path.map fun _ ↦ false) := by
        intro Q path
        induction path generalizing Q with
        | nil => intro hQ; simp [Marks, hQ]
        | cons d path ih =>
            intro hQ
            exact ⟨by simp [hQ], ih (fun u ↦ Q (d :: u)) fun u ↦ hQ (d :: u)⟩
      exact hfalse _ path (hcons c)

/-- The last answer is the one about the whole path. -/
theorem getLastD_of_marks {P : List Char → Prop} {path : List Char} {reach : List Bool}
    (h : Marks P path reach) : reach.getLastD false = true ↔ P path := by
  induction path generalizing P reach with
  | nil =>
      match reach, h with
      | [r], h => simpa [Marks] using h
  | cons c path ih =>
      match reach, h with
      | r :: reach, ⟨_, hrest⟩ =>
          have hne : reach ≠ [] := by
            rintro rfl
            cases path <;> simp [Marks] at hrest
          rw [← ih hrest]
          cases reach with
          | nil => exact absurd rfl hne
          | cons r' reach => simp

/-! ### One token more

The answers after a token are told by what the token adds at the right end of a text. -/

theorem marks_stepLiteral {c : Char} {P Q : List Char → Prop} {path : List Char}
    {reach : List Bool} {first : Bool} (hP : Marks P path reach)
    (hfirst : first = true ↔ Q []) (hQ : ∀ u d, Q (u ++ [d]) ↔ P u ∧ d = c) :
    Marks Q path (first :: stepLiteral c path reach) := by
  induction path generalizing P Q reach first with
  | nil => simpa [stepLiteral, Marks] using hfirst
  | cons p path ih =>
      match reach, hP with
      | r :: reach, ⟨hr, hrest⟩ =>
          refine ⟨hfirst, ih hrest ?_ fun u d ↦ hQ (p :: u) d⟩
          have hp := hQ [] p
          simp only [List.nil_append] at hp
          simp [hp, ← hr]

theorem marks_stepRun {allow : Char → Bool} {P Q : List Char → Prop} {path : List Char}
    {reach : List Bool} {before : Bool} (hP : Marks P path reach)
    (hnil : Q [] ↔ before = true ∨ P [])
    (hQ : ∀ u d, Q (u ++ [d]) ↔ P (u ++ [d]) ∨ (Q u ∧ allow d = true)) :
    Marks Q path (stepRun allow before path reach) := by
  induction path generalizing P Q reach before with
  | nil =>
      match reach, hP with
      | [r], hr =>
          simp only [Marks] at hr
          simp [stepRun, Marks, hnil, ← hr]
  | cons p path ih =>
      match reach, hP with
      | r :: reach, ⟨hr, hrest⟩ =>
          have hhere : (before || r) = true ↔ Q [] := by simp [hnil, ← hr]
          refine ⟨hhere, ih hrest ?_ fun u d ↦ hQ (p :: u) d⟩
          have hp := hQ [] p
          simp only [List.nil_append] at hp
          rw [hp, ← hhere]
          simp [or_comm]

/-- Here `B` says that some beginning which is not the whole text was reached. -/
theorem marks_stepFolders {P Q B : List Char → Prop} {path : List Char} {reach : List Bool}
    {before slash : Bool} (hP : Marks P path reach) (hbefore : B [] ↔ before = true)
    (hnil : Q [] ↔ P [] ∨ (before = true ∧ slash = true))
    (hB : ∀ u d, B (u ++ [d]) ↔ B u ∨ P u)
    (hQ : ∀ u d, Q (u ++ [d]) ↔ P (u ++ [d]) ∨ (B (u ++ [d]) ∧ d = '/')) :
    Marks Q path (stepFolders before slash path reach) := by
  induction path generalizing P Q B reach before slash with
  | nil =>
      match reach, hP with
      | [r], hr =>
          simp only [Marks] at hr
          simp [stepFolders, Marks, hnil, ← hr]
  | cons p path ih =>
      match reach, hP with
      | r :: reach, ⟨hr, hrest⟩ =>
          have hBp := hB [] p
          have hQp := hQ [] p
          simp only [List.nil_append] at hBp hQp
          have hreached : B [p] ↔ (before || r) = true := by
            rw [hBp, hbefore, ← hr]
            simp
          refine ⟨by simp [hnil, ← hr], ih (B := fun u ↦ B (p :: u)) hrest hreached ?_
            (fun u d ↦ hB (p :: u) d) fun u d ↦ hQ (p :: u) d⟩
          rw [hQp, hreached]
          simp

/-- The texts of a language with one piece for a token behind them. -/
def Extended (P : List Char → Prop) (t : Token) (text : List Char) : Prop :=
  ∃ u piece, text = u ++ piece ∧ P u ∧ t.Takes piece

theorem extended_literal {P : List Char → Prop} {c : Char} (u : List Char) (d : Char) :
    Extended P (.literal c) (u ++ [d]) ↔ P u ∧ d = c := by
  constructor
  · rintro ⟨v, piece, heq, hv, rfl⟩
    obtain ⟨rfl, hd⟩ := List.append_inj' heq rfl
    exact ⟨hv, by simpa using hd⟩
  · rintro ⟨hu, rfl⟩
    exact ⟨u, [d], rfl, hu, rfl⟩

/-- A token that takes pieces character by character goes on as long as it is allowed to. -/
theorem extended_run {P : List Char → Prop} {t : Token} {allow : Char → Bool}
    (hnil : t.Takes []) (hsnoc : ∀ w d, t.Takes (w ++ [d]) ↔ t.Takes w ∧ allow d = true)
    (u : List Char) (d : Char) :
    Extended P t (u ++ [d]) ↔ P (u ++ [d]) ∨ (Extended P t u ∧ allow d = true) := by
  constructor
  · rintro ⟨v, piece, heq, hv, hpiece⟩
    rcases List.eq_nil_or_concat piece with rfl | ⟨w, e, rfl⟩
    · left
      rw [heq]
      simpa using hv
    · rw [List.concat_eq_append, ← List.append_assoc] at heq
      rw [List.concat_eq_append, hsnoc] at hpiece
      obtain ⟨rfl, hd⟩ := List.append_inj' heq rfl
      obtain rfl : d = e := by simpa using hd
      exact Or.inr ⟨⟨v, w, rfl, hv, hpiece.1⟩, hpiece.2⟩
  · rintro (h | ⟨⟨v, w, rfl, hv, hw⟩, hd⟩)
    · exact ⟨u ++ [d], [], by simp, h, hnil⟩
    · exact ⟨v, w ++ [d], by simp, hv, (hsnoc w d).mpr ⟨hw, hd⟩⟩

theorem extended_nil {P : List Char → Prop} {t : Token} (hnil : t.Takes []) :
    Extended P t [] ↔ P [] := by
  constructor
  · rintro ⟨u, piece, heq, hu, -⟩
    obtain ⟨rfl, rfl⟩ := List.append_eq_nil_iff.mp heq.symm
    exact hu
  · intro h
    exact ⟨[], [], rfl, h, hnil⟩

theorem extended_name {P : List Char → Prop} (u : List Char) (d : Char) :
    Extended P .name (u ++ [d]) ↔ P (u ++ [d]) ∨ (Extended P .name u ∧ (d != '/') = true) := by
  have hnil : Token.name.Takes [] := by simp [Token.Takes]
  apply extended_run hnil
  intro w d
  simp only [Token.Takes, List.mem_append, List.mem_singleton, not_or, bne_iff_ne]
  exact and_congr_right fun _ ↦ ne_comm

theorem extended_anything {P : List Char → Prop} (u : List Char) (d : Char) :
    Extended P .anything (u ++ [d]) ↔ P (u ++ [d]) ∨ Extended P .anything u := by
  have hnil : Token.anything.Takes [] := trivial
  have hsnoc : ∀ w d, Token.anything.Takes (w ++ [d]) ↔ Token.anything.Takes w ∧ true = true := by
    simp [Token.Takes]
  simpa using extended_run (P := P) hnil hsnoc u d

/-- A beginning of a text, other than the whole, that is in a language. -/
def Reached (P : List Char → Prop) (text : List Char) : Prop :=
  ∃ u rest, rest ≠ [] ∧ text = u ++ rest ∧ P u

theorem reached_snoc {P : List Char → Prop} (u : List Char) (d : Char) :
    Reached P (u ++ [d]) ↔ Reached P u ∨ P u := by
  constructor
  · rintro ⟨v, rest, hne, heq, hv⟩
    obtain ⟨w, e, rfl⟩ := (List.eq_nil_or_concat rest).resolve_left hne
    rw [List.concat_eq_append, ← List.append_assoc] at heq
    obtain ⟨rfl, -⟩ := List.append_inj' heq rfl
    rcases List.eq_nil_or_concat w with rfl | ⟨w', f, rfl⟩
    · exact Or.inr (by simpa using hv)
    · exact Or.inl ⟨v, w'.concat f, by simp, rfl, hv⟩
  · rintro (⟨v, rest, -, rfl, hv⟩ | hu)
    · exact ⟨v, rest ++ [d], by simp, by simp, hv⟩
    · exact ⟨u, [d], by simp, rfl, hu⟩

theorem extended_folders {P : List Char → Prop} (u : List Char) (d : Char) :
    Extended P .folders (u ++ [d]) ↔ P (u ++ [d]) ∨ (Reached P (u ++ [d]) ∧ d = '/') := by
  constructor
  · rintro ⟨v, piece, heq, hv, rfl | ⟨w, rfl⟩⟩
    · left
      rw [heq]
      simpa using hv
    · right
      refine ⟨⟨v, w ++ ['/'], by simp, heq, hv⟩, ?_⟩
      rw [← List.append_assoc] at heq
      simpa using (List.append_inj' heq rfl).2
  · rintro (h | ⟨⟨v, rest, hne, heq, hv⟩, rfl⟩)
    · exact ⟨u ++ [d], [], by simp, h, Or.inl rfl⟩
    · refine ⟨v, rest, heq, hv, Or.inr ?_⟩
      obtain ⟨w, e, rfl⟩ := (List.eq_nil_or_concat rest).resolve_left hne
      rw [List.concat_eq_append, ← List.append_assoc] at heq
      obtain ⟨-, hd⟩ := List.append_inj' heq rfl
      exact ⟨w, by simpa using hd.symm⟩

/-- A token keeps the answers right. -/
theorem marks_step {P : List Char → Prop} {path : List Char} {reach : List Bool}
    (h : Marks P path reach) (t : Token) : Marks (Extended P t) path (step path reach t) := by
  cases t with
  | literal c =>
      refine marks_stepLiteral h ?_ extended_literal
      simp [Extended, Token.Takes]
  | name =>
      have hnil : Token.name.Takes [] := by simp [Token.Takes]
      exact marks_stepRun h (by simp [extended_nil hnil]) extended_name
  | anything =>
      have hnil : Token.anything.Takes [] := trivial
      refine marks_stepRun h (by simp [extended_nil hnil]) fun u d ↦ ?_
      rw [extended_anything, and_iff_left rfl]
  | folders =>
      have hnil : Token.folders.Takes [] := Or.inl rfl
      have hreached : ¬ Reached P [] := by
        rintro ⟨u, rest, hne, heq, -⟩
        exact hne (List.append_eq_nil_iff.mp heq.symm).2
      exact marks_stepFolders h (by simp [hreached]) (by simp [extended_nil hnil]) reached_snoc
        extended_folders

theorem marks_foldl_step {path : List Char} (ts : List Token) {P : List Char → Prop}
    {reach : List Bool} (h : Marks P path reach) :
    Marks (fun text ↦ ∃ u v, text = u ++ v ∧ P u ∧ Spells ts v) path
      (ts.foldl (step path) reach) := by
  induction ts generalizing P reach with
  | nil => simpa [Spells] using h
  | cons t ts ih =>
      have hrest := ih (marks_step h t)
      have hiff : ∀ text, (∃ u v, text = u ++ v ∧ Extended P t u ∧ Spells ts v) ↔
          ∃ u v, text = u ++ v ∧ P u ∧ Spells (t :: ts) v := by
        intro text
        constructor
        · rintro ⟨_, v, rfl, ⟨u, piece, rfl, hu, hpiece⟩, hv⟩
          exact ⟨u, piece ++ v, by simp, hu, piece, v, rfl, hpiece, hv⟩
        · rintro ⟨u, _, rfl, hu, piece, v, rfl, hpiece, hv⟩
          exact ⟨u ++ piece, v, by simp, ⟨u, piece, rfl, hu, hpiece⟩, hv⟩
      simpa only [List.foldl_cons, hiff] using hrest

/-- The matcher accepts exactly the texts that the tokens spell. -/
theorem matchesTokens_iff (ts : List Token) (path : List Char) :
    matchesTokens ts path = true ↔ Spells ts path := by
  have hstart : Marks (Spells []) path (start path) :=
    marks_start (P := Spells []) rfl (by simp [Spells]) path
  rw [matchesTokens, getLastD_of_marks (marks_foldl_step ts hstart), ← spells_append,
    List.nil_append]

theorem accepts_iff (pattern path : String) :
    accepts pattern path = true ↔ Spells (tokens pattern.toList) path.toList :=
  matchesTokens_iff _ _

/-! ### Patterns for whole folders -/

/-- The slash before two final stars ends a token, so that the stars are a token of their own. -/
theorem tokens_of_suffix {cs : List Char} (h : ['/', '*', '*'] <:+ cs) :
    ∃ ts, tokens cs = ts ++ [.anything] := by
  fun_induction tokens cs with
  | case1 rest ih =>
      rcases List.suffix_cons_iff.mp h with h | h
      · simp at h
      rcases List.suffix_cons_iff.mp h with h | h
      · simp at h
      rcases List.suffix_cons_iff.mp h with h | h
      · obtain rfl : rest = ['*', '*'] := by simpa using h.symm
        exact ⟨[.folders], by simp [tokens]⟩
      · obtain ⟨ts, hts⟩ := ih h
        exact ⟨.folders :: ts, by simp [hts]⟩
  | case2 rest _ ih =>
      rcases List.suffix_cons_iff.mp h with h | h
      · simp at h
      rcases List.suffix_cons_iff.mp h with h | h
      · simp at h
      · obtain ⟨ts, hts⟩ := ih h
        exact ⟨.anything :: ts, by simp [hts]⟩
  | case3 rest _ _ ih =>
      rcases List.suffix_cons_iff.mp h with h | h
      · simp at h
      · obtain ⟨ts, hts⟩ := ih h
        exact ⟨.name :: ts, by simp [hts]⟩
  | case4 c rest _ _ _ ih =>
      rcases List.suffix_cons_iff.mp h with h | h
      · obtain rfl : rest = ['*', '*'] := by simpa using (List.cons.inj h).2.symm
        exact ⟨[.literal c], by simp [tokens]⟩
      · obtain ⟨ts, hts⟩ := ih h
        exact ⟨.literal c :: ts, by simp [hts]⟩
  | case5 => simp at h

theorem tokens_of_coversFolder {pattern : String} (h : coversFolder pattern = true) :
    ∃ ts, tokens pattern.toList = ts ++ [.anything] := by
  simp only [coversFolder, Bool.or_eq_true, decide_eq_true_eq, List.isSuffixOf_iff_suffix] at h
  rcases h with rfl | h
  · exact ⟨[], by decide⟩
  · exact tokens_of_suffix h

/-- What such a pattern accepts it accepts with anything behind it. -/
theorem accepts_append {pattern text : String} (hcovers : coversFolder pattern = true)
    (h : accepts pattern text = true) (more : String) : accepts pattern (text ++ more) = true := by
  obtain ⟨ts, hts⟩ := tokens_of_coversFolder hcovers
  rw [accepts_iff, hts, spells_append] at h ⊢
  obtain ⟨u, v, htext, hu, -⟩ := h
  refine ⟨u, v ++ more.toList, ?_, hu, ?_⟩
  · rw [String.toList_append, htext, List.append_assoc]
  · exact ⟨v ++ more.toList, [], by simp, trivial, rfl⟩

end WebBaseline.Glob

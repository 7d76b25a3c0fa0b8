import Mathlib.Data.List.TakeWhile
import WebBaseline.Proofs.Display.Tagged

/-!
# Escaped texts hold no tags

An escaped text is read without a tag, whatever follows it, as long as what follows does not
complete a tag that the text begins.  This is so because the first bracket behind a place does not
change when a text is escaped.
-/

namespace WebBaseline.Display

variable {cs more : List Char}

/-! ### Bodies of tags -/

theorem tagBody?_append {body : List Char} (hstart : body.head?.any startsTag = true)
    (hbody : ∀ d ∈ body, endsBody d = false) (after : List Char) :
    tagBody? (body ++ ']' :: after) = some (body, after) := by
  have hall : ∀ d ∈ body, (!endsBody d) = true := by
    intro d hd
    rw [hbody d hd, Bool.not_false]
  have hend : endsBody ']' = true := by decide
  cases body with
  | nil => cases hstart
  | cons c rest =>
      have hc : startsTag c = true := hstart
      rw [List.cons_append, tagBody?, if_pos hc, ← List.cons_append,
        List.dropWhile_append_of_pos hall, List.takeWhile_append_of_pos hall]
      simp [hend]

theorem endsBody_of_startsTag {c : Char} (h : startsTag c = true) : endsBody c = false := by
  apply Bool.eq_false_iff.mpr
  intro hend
  rw [endsBody, Bool.or_eq_true, decide_eq_true_eq, decide_eq_true_eq] at hend
  obtain rfl | rfl := hend
  · exact absurd h (by decide)
  · exact absurd h (by decide)

theorem of_tagBody? {body after : List Char} (h : tagBody? cs = some (body, after)) :
    body.head?.any startsTag = true ∧ ∀ d ∈ body, endsBody d = false := by
  cases cs with
  | nil => cases h
  | cons c rest =>
      rw [tagBody?] at h
      split at h
      · rename_i hstart
        split at h
        · rename_i tail hdrop
          simp only [Option.some.injEq, Prod.mk.injEq] at h
          obtain ⟨rfl, -⟩ := h
          have hc : (!endsBody c) = true := by
            rw [endsBody_of_startsTag hstart, Bool.not_false]
          refine ⟨?_, fun d hd ↦ ?_⟩
          · have htake : (c :: rest).takeWhile (fun c ↦ !endsBody c) =
                c :: rest.takeWhile fun c ↦ !endsBody c := List.takeWhile_cons_of_pos hc
            rw [htake]
            exact hstart
          · have hd := List.mem_takeWhile_imp hd
            rwa [Bool.not_eq_true'] at hd
        · cases h
      · cases h

theorem tagBody?_isSome_iff :
    (tagBody? cs).isSome = true ↔
      cs.head?.any startsTag = true ∧ cs.find? endsBody = some ']' := by
  cases cs with
  | nil => simp [tagBody?]
  | cons c rest =>
      rw [List.find?_eq_head?_dropWhile_not, tagBody?, List.head?_cons, Option.any_some]
      by_cases hstart : startsTag c = true
      · rw [if_pos hstart, and_iff_right hstart]
        split
        · rename_i hdrop
          simp [hdrop]
        · rename_i hdrop
          constructor
          · intro h
            cases h
          · intro h
            obtain ⟨after, hafter⟩ := List.head?_eq_some_iff.mp h
            exact absurd hafter (hdrop after)
      · rw [if_neg hstart]
        simp [hstart]

/-! ### The first bracket of an escaped text -/

theorem head?_escapedAfter_succ (slashes : Nat) (cs : List Char) :
    (escapedAfter (slashes + 1) cs).head? = some '\\' := by
  induction cs generalizing slashes with
  | nil => rfl
  | cons c rest ih =>
      rw [escapedAfter]
      split
      · exact ih (slashes + 1)
      · split <;> rfl

theorem find?_endsBody_backslashes (n : Nat) : (backslashes n).find? endsBody = none := by
  rw [backslashes, List.find?_replicate]
  split
  · rfl
  · rw [if_neg (by decide)]

theorem find?_endsBody_escapedAfter (slashes : Nat) (cs : List Char) :
    (escapedAfter slashes cs).find? endsBody = cs.find? endsBody := by
  fun_induction escapedAfter slashes cs with
  | case1 slashes => exact find?_endsBody_backslashes slashes
  | case2 slashes rest ih => rw [ih, List.find?_cons_of_neg (by decide)]
  | case3 slashes c rest hslash htag ih
  | case4 slashes c rest hslash htag ih =>
      rw [List.find?_append, find?_endsBody_backslashes, Option.none_or, List.find?_cons,
        List.find?_cons, ih]

/-- Where no tag begins, none begins in the escaped text, unless what follows completes one. -/
theorem tagBody?_escaped_eq_none (hend : more.find? endsBody ≠ some ']')
    (h : tagBody? cs = none) :
    tagBody? (escapedAfter 0 cs ++ more) = none := by
  have hcs : ¬ (cs.head?.any startsTag = true ∧ cs.find? endsBody = some ']') := by
    rw [← tagBody?_isSome_iff, h]
    exact Bool.false_ne_true
  apply Option.not_isSome_iff_eq_none.mp
  rw [tagBody?_isSome_iff, List.find?_append, find?_endsBody_escapedAfter]
  rintro ⟨hhead, hfind⟩
  have hfind : cs.find? endsBody = some ']' := by
    obtain hcs | ⟨-, hmore⟩ := Option.or_eq_some_iff.mp hfind
    · exact hcs
    · exact absurd hmore hend
  apply hcs
  refine ⟨?_, hfind⟩
  cases cs with
  | nil => cases hfind
  | cons c rest =>
      rw [escapedAfter] at hhead
      split at hhead
      · rw [List.head?_append, head?_escapedAfter_succ] at hhead
        have hslash : startsTag '\\' = true := hhead
        exact absurd hslash (by decide)
      · split at hhead
        · have hslash : startsTag '\\' = true := hhead
          exact absurd hslash (by decide)
        · exact hhead

/-! ### Reading an escaped text -/

theorem piecesAfter_backslashes (slashes n : Nat) (before rest : List Char) :
    piecesAfter slashes before (backslashes n ++ rest) = piecesAfter (slashes + n) before rest := by
  induction n generalizing slashes with
  | zero => rfl
  | succ n ih =>
      have hcons : backslashes (n + 1) ++ rest = '\\' :: (backslashes n ++ rest) := by
        rw [backslashes, List.replicate_succ, backslashes, List.cons_append]
      rw [hcons, piecesAfter, if_pos rfl, ih, Nat.add_assoc, Nat.add_comm 1 n]

theorem piecesAfter_of_tagBody? {body after : List Char} (slashes : Nat) (before : List Char)
    (h : tagBody? cs = some (body, after)) :
    piecesAfter slashes before ('[' :: cs) =
      wordsOrNone before.reverse ++ wordsOrNone (backslashes (slashes / 2)) ++
        (if slashes % 2 = 1 then Piece.words ('[' :: body ++ [']']) else .tag body) ::
          piecesAfter 0 [] after := by
  rw [piecesAfter, if_neg (by decide), if_pos rfl]
  split <;> simp_all

theorem piecesAfter_of_no_tag {c : Char} (slashes : Nat) (before : List Char) (hc : c ≠ '\\')
    (h : c = '[' → tagBody? cs = none) :
    piecesAfter slashes before (c :: cs) =
      piecesAfter 0 (c :: backslashes slashes ++ before) cs := by
  rw [piecesAfter, if_neg hc]
  split
  · split <;> simp_all
  · rfl

def OnlyWords (ps : List Piece) : Prop := ∀ p ∈ ps, ∃ cs, p = .words cs

theorem OnlyWords.append {ps qs : List Piece} (hps : OnlyWords ps) (hqs : OnlyWords qs) :
    OnlyWords (ps ++ qs) := by
  intro p hp
  obtain hp | hp := List.mem_append.mp hp
  · exact hps p hp
  · exact hqs p hp

theorem onlyWords_wordsOrNone (cs : List Char) : OnlyWords (wordsOrNone cs) := by
  cases cs with
  | nil => exact fun p hp ↦ nomatch hp
  | cons c rest => exact fun p hp ↦ ⟨_, List.mem_singleton.mp hp⟩

/-- No tag begins within the body of a tag. -/
theorem escapedAfter_body {body : List Char} (hbody : ∀ d ∈ body, endsBody d = false)
    (slashes : Nat) (after : List Char) :
    escapedAfter slashes (body ++ ']' :: after) =
      backslashes slashes ++ (body ++ ']' :: escapedAfter 0 after) := by
  induction body generalizing slashes with
  | nil => rw [List.nil_append, escapedAfter, if_neg (by decide), if_neg (by simp)]; rfl
  | cons c rest ih =>
      have hrest := ih fun d hd ↦ hbody d (List.mem_cons_of_mem c hd)
      have hc : c ≠ '[' := by
        rintro rfl
        exact absurd (hbody '[' List.mem_cons_self) (by decide)
      rw [List.cons_append, escapedAfter, hrest, hrest]
      split
      · rename_i hslash
        rw [hslash, backslashes, List.replicate_succ']
        simp [backslashes]
      · rw [if_neg (by simp [hc])]
        rfl

/-- The texts of words, one after the other. -/
def wordsText : List Piece → List Char
  | [] => []
  | .words cs :: rest => cs ++ wordsText rest
  | .tag _ :: rest => wordsText rest

theorem wordsText_append (ps qs : List Piece) :
    wordsText (ps ++ qs) = wordsText ps ++ wordsText qs := by
  induction ps with
  | nil => rfl
  | cons p rest ih => cases p <;> simp [wordsText, ih]

theorem wordsText_wordsOrNone (cs : List Char) : wordsText (wordsOrNone cs) = cs := by
  cases cs with
  | nil => rfl
  | cons c rest => exact List.append_nil _

/-- Words and what is left over say a text and nothing else. -/
def SaysOnly (cs : List Char) (ws : List Piece) (slashes : Nat) (left : List Char) : Prop :=
  slashes = 0 ∧ wordsText ws ++ left.reverse = cs

/-- Whatever follows an escaped text, the text itself is read as words, and they say what it says
unless there are backslashes. -/
theorem piecesAfter_escaped (hend : more.find? endsBody ≠ some ']') (slashes : Nat)
    (before cs : List Char) : ∃ ws n left, OnlyWords ws ∧
      piecesAfter 0 before (escapedAfter slashes cs ++ more) = ws ++ piecesAfter n left more ∧
      (slashes = 0 → '\\' ∉ cs → SaysOnly (before.reverse ++ cs) ws n left) := by
  -- a tag that is escaped is one piece, so the induction goes on behind it
  induction hlength : cs.length using Nat.strong_induction_on generalizing slashes before cs with
  | _ length ih =>
      subst hlength
      cases cs with
      | nil =>
          rw [escapedAfter, piecesAfter_backslashes]
          refine ⟨[], 0 + slashes, before, by simp [OnlyWords], rfl, fun hslashes _ ↦ ?_⟩
          exact ⟨by omega, (List.append_nil _).symm⟩
      | cons c rest =>
          rw [escapedAfter]
          split
          · rename_i hslash
            obtain ⟨ws, n, left, hws, hrest, -⟩ :=
              ih rest.length (Nat.lt_succ_self _) (slashes + 1) before rest rfl
            refine ⟨ws, n, left, hws, hrest, fun _ hnone ↦ ?_⟩
            exact absurd (hslash ▸ List.mem_cons_self) hnone
          · rename_i hslash
            split
            · rename_i htag
              obtain ⟨hc, htag⟩ := Bool.and_eq_true_iff.mp htag
              obtain rfl := of_decide_eq_true hc
              obtain ⟨⟨body, after⟩, hbody⟩ := Option.isSome_iff_exists.mp htag
              have hrest := eq_of_tagBody? hbody
              obtain ⟨hstart, hinside⟩ := of_tagBody? hbody
              have hlength : after.length < ('[' :: rest).length := by
                rw [hrest]
                simp only [List.length_cons, List.length_append]
                omega
              obtain ⟨ws, n, left, hws, hafter, hsays⟩ := ih after.length hlength 0 [] after rfl
              have hread := tagBody?_append hstart hinside (escapedAfter 0 after ++ more)
              refine ⟨wordsOrNone before.reverse ++
                  wordsOrNone (backslashes ((2 * slashes + 1) / 2)) ++
                    [.words ('[' :: body ++ [']'])] ++ ws, n, left, ?_, ?_, ?_⟩
              · have hwords : OnlyWords [.words ('[' :: body ++ [']'])] :=
                  fun p hp ↦ ⟨_, List.mem_singleton.mp hp⟩
                exact (((onlyWords_wordsOrNone _).append (onlyWords_wordsOrNone _)).append
                  hwords).append hws
              · have hescaped := escapedAfter_body hinside 0 after
                have hodd : (2 * slashes + 1) % 2 = 1 := by omega
                rw [hrest, hescaped, List.append_assoc, piecesAfter_backslashes, Nat.zero_add]
                simp only [backslashes, List.replicate_zero, List.nil_append, List.cons_append,
                  List.append_assoc] at hread ⊢
                rw [piecesAfter_of_tagBody? _ _ hread, if_pos hodd, hafter]
                simp only [backslashes, List.cons_append, List.append_assoc]
              · rintro rfl hnone
                rw [hrest] at hnone
                have hnone : '\\' ∉ after := fun hmem ↦ hnone
                  (List.mem_cons_of_mem _ (List.mem_append_right _ (List.mem_cons_of_mem _ hmem)))
                obtain ⟨hn, htext⟩ := hsays rfl hnone
                refine ⟨hn, ?_⟩
                rw [wordsText_append, List.append_assoc, htext, hrest]
                simp [wordsText_append, wordsText_wordsOrNone, wordsText, backslashes]
            · rename_i htag
              have hnone : c = '[' → tagBody? rest = none := by
                rintro rfl
                simpa using htag
              obtain ⟨ws, n, left, hws, hafter, hsays⟩ :=
                ih rest.length (Nat.lt_succ_self _) 0 (c :: backslashes slashes ++ before) rest rfl
              refine ⟨ws, n, left, hws, ?_, ?_⟩
              · rw [List.append_assoc, piecesAfter_backslashes, Nat.zero_add, List.cons_append,
                  piecesAfter_of_no_tag slashes before hslash fun hc ↦
                    tagBody?_escaped_eq_none hend (hnone hc), hafter]
              · rintro rfl hnone
                have htext := hsays rfl fun hmem ↦ hnone (List.mem_cons_of_mem c hmem)
                simpa [backslashes] using htext

theorem getLast?_escapedAfter (h : '\\' ∉ cs) : (escapedAfter 0 cs).getLast? = cs.getLast? := by
  induction cs with
  | nil => rfl
  | cons c rest ih =>
      have hrest := ih fun hmem ↦ h (List.mem_cons_of_mem c hmem)
      have hc : c ≠ '\\' := by
        rintro rfl
        exact h List.mem_cons_self
      rw [escapedAfter, if_neg hc]
      split <;> simp [backslashes, List.getLast?_cons, hrest]

theorem getLast?_of_endsInBackslash (h : endsInBackslash cs = true) :
    cs.getLast? = some '\\' := by
  rw [List.getLast?_eq_head?_reverse]
  unfold endsInBackslash at h
  split at h
  · cases h
  · rename_i hreverse
    rw [hreverse]
    rfl
  · cases h

/-- The text of an escaped string, to which a backslash may have been added. -/
theorem exists_toList_escaped (s : String) :
    ∃ n, (escaped s).toList = escapedAfter 0 s.toList ++ backslashes n ∧
      ('\\' ∉ s.toList → n = 0) := by
  simp only [escaped]
  split
  · rename_i hends
    refine ⟨1, String.toList_ofList, fun h ↦ ?_⟩
    have hlast := getLast?_of_endsInBackslash hends
    rw [getLast?_escapedAfter h] at hlast
    exact absurd (List.mem_of_getLast? hlast) h
  · exact ⟨0, String.toList_ofList.trans (List.append_nil _).symm, fun _ ↦ rfl⟩

theorem exists_piecesAfter_escaped (hend : more.find? endsBody ≠ some ']') (before : List Char)
    (s : String) :
    ∃ ws n left, OnlyWords ws ∧
      piecesAfter 0 before ((escaped s).toList ++ more) = ws ++ piecesAfter n left more ∧
      ('\\' ∉ s.toList → SaysOnly (before.reverse ++ s.toList) ws n left) := by
  obtain ⟨added, hescaped, hadded⟩ := exists_toList_escaped s
  have hmore : (backslashes added ++ more).find? endsBody ≠ some ']' := by
    rwa [List.find?_append, find?_endsBody_backslashes, Option.none_or]
  obtain ⟨ws, n, left, hws, hpieces, hsays⟩ := piecesAfter_escaped hmore 0 before s.toList
  refine ⟨ws, n + added, left, hws, ?_, ?_⟩
  · rw [hescaped, List.append_assoc, hpieces, piecesAfter_backslashes]
  · intro hnone
    rw [hadded hnone]
    exact hsays rfl hnone

/-! ### Showing words -/

theorem exists_shownFrom_append_iff {ws : List Piece} (hws : OnlyWords ws) (opened : List OpenTag)
    (ps : List Piece) :
    (∃ out, shownFrom opened (ws ++ ps) = .ok out) ↔ ∃ out, shownFrom opened ps = .ok out := by
  induction ws with
  | nil => rfl
  | cons p rest ih =>
      obtain ⟨cs, rfl⟩ := hws p List.mem_cons_self
      have hrest := ih fun q hq ↦ hws q (List.mem_cons_of_mem _ hq)
      rw [← hrest, List.cons_append, shownFrom]
      cases shownFrom opened (rest ++ ps) <;> simp

end WebBaseline.Display

import WebBaseline.Text.Case

/-!
# Lower case is settled

The partner of a letter is no capital letter itself: no run of the table leads into a run of the
table.  What lower-casing writes is therefore left alone by another round of it.
-/

namespace WebBaseline.Text

/-- A character that lower-casing leaves alone wherever it stands. -/
structure IsLower (c : Char) : Prop where
  lowerChar_eq : lowerChar c = c
  ne_sigma : c ≠ 'Σ'
  ne_dotted : c ≠ 'İ'

instance (c : Char) : Decidable (IsLower c) :=
  decidable_of_iff (lowerChar c = c ∧ c ≠ 'Σ' ∧ c ≠ 'İ')
    ⟨fun h ↦ ⟨h.1, h.2.1, h.2.2⟩, fun h ↦ ⟨h.1, h.2, h.3⟩⟩

/-! ### The runs of the table -/

/-- Whether a code point is a capital letter of a run. -/
def inRun (r : Nat × Nat × Nat × Nat) (n : Nat) : Bool :=
  r.1 ≤ n && n ≤ r.2.1 && (n - r.1) % r.2.2.1 == 0

/-- Whether the partners of a run lie before or after another run, or between its letters. -/
def clears (r s : Nat × Nat × Nat × Nat) : Bool :=
  Nat.blt (r.2.2.2 + (r.2.1 - r.1)) s.1 || Nat.blt s.2.1 r.2.2.2 ||
    (s.2.2.1 == 2 && (r.2.2.1 == 2 || r.1 == r.2.1) && (r.2.2.2 + s.1) % 2 == 1)

/-- Whether the partners of a run are characters after the capital letters of ASCII and other than
the capital I with a dot. -/
def inScope (r : Nat × Nat × Nat × Nat) : Bool :=
  let last := r.2.2.2 + (r.2.1 - r.1)
  Nat.blt 0x5A r.2.2.2 && (Nat.blt last 0x130 || Nat.blt 0x130 r.2.2.2) &&
    (Nat.blt last 0xD800 || (Nat.blt 0xDFFF r.2.2.2 && Nat.blt last 0x110000))

theorem lowerRuns_clears : (lowerRuns.all fun r ↦ lowerRuns.all (clears r)) = true := by
  decide +kernel

theorem lowerRuns_inScope : lowerRuns.all inScope = true := by decide +kernel

theorem inRun_of_clears {r s : Nat × Nat × Nat × Nat} (h : clears r s = true) {d : Nat}
    (hd : d ≤ r.2.1 - r.1) (hstep : d % r.2.2.1 = 0) : inRun s (r.2.2.2 + d) = false := by
  obtain ⟨first, last, step, target⟩ := r
  obtain ⟨first', last', step', target'⟩ := s
  simp only [clears, Bool.or_eq_true, Nat.blt_eq, Bool.and_eq_true, beq_iff_eq] at h hd hstep
  simp only [inRun, Bool.and_eq_false_iff, decide_eq_false_iff_not, beq_eq_false_iff_ne]
  rcases h with (hbefore | hafter) | ⟨⟨htwo, hpartners⟩, hodd⟩
  · omega
  · omega
  · have heven : d % 2 = 0 := by
      rcases hpartners with rfl | rfl
      · exact hstep
      · omega
    subst htwo
    omega

/-! ### Characters -/

theorem toNat_ofNat_of_lt {n : Nat} (h : n < 0xD800 ∨ 0xDFFF < n ∧ n < 0x110000) :
    (Char.ofNat n).toNat = n := by
  have hvalid : n.isValidChar := h
  rw [Char.ofNat, dif_pos hvalid]
  rfl

theorem isLower_ascii : ∀ n < 0x80, IsLower (Char.ofNat n).toLower := by decide +kernel

theorem lowerChar_of_not_inRun {c : Char} (hcapital : 0x5A < c.toNat)
    (hruns : ∀ s ∈ lowerRuns, inRun s c.toNat = false) : lowerChar c = c := by
  by_cases hascii : c.toNat < 0x80
  · have hle : ¬ c.val ≤ 'Z'.val := by
      intro hle
      have hnat : c.toNat ≤ 0x5A := hle
      omega
    have hkeep : c.toLower = c := dif_neg fun h ↦ hle h.2
    simp [lowerChar, hascii, hkeep]
  · have hfind : (lowerRuns.find? fun r ↦ r.1 ≤ c.toNat && c.toNat ≤ r.2.1 &&
        (c.toNat - r.1) % r.2.2.1 == 0) = none := by
      refine List.find?_eq_none.mpr fun s hs ↦ ?_
      have hs' := hruns s hs
      rw [inRun] at hs'
      simp [hs']
    simp [lowerChar, hascii, hfind]

/-- The partner of a capital letter of the table is settled. -/
theorem isLower_partner {r : Nat × Nat × Nat × Nat} (hr : r ∈ lowerRuns) {d : Nat}
    (hd : d ≤ r.2.1 - r.1) (hstep : d % r.2.2.1 = 0) : IsLower (Char.ofNat (r.2.2.2 + d)) := by
  have hscope := List.all_eq_true.mp lowerRuns_inScope r hr
  simp only [inScope, Bool.and_eq_true, Bool.or_eq_true, Nat.blt_eq] at hscope
  have hnat : (Char.ofNat (r.2.2.2 + d)).toNat = r.2.2.2 + d := toNat_ofNat_of_lt (by omega)
  have hruns : ∀ s ∈ lowerRuns, inRun s (Char.ofNat (r.2.2.2 + d)).toNat = false := by
    intro s hs
    rw [hnat]
    exact inRun_of_clears (List.all_eq_true.mp (List.all_eq_true.mp lowerRuns_clears r hr) s hs)
      hd hstep
  refine ⟨lowerChar_of_not_inRun (by omega) hruns, ?_, ?_⟩
  · intro hsigma
    have hrun := hruns (0x3a3, 0x3ab, 1, 0x3c3) (by decide)
    rw [hsigma] at hrun
    exact absurd hrun (by decide)
  · intro hdotted
    rw [hdotted] at hnat
    have hvalue : 'İ'.toNat = 0x130 := by decide
    omega

theorem isLower_lowerChar {c : Char} (hsigma : c ≠ 'Σ') (hdotted : c ≠ 'İ') :
    IsLower (lowerChar c) := by
  by_cases hascii : c.toNat < 0x80
  · have hlower := isLower_ascii c.toNat hascii
    rw [Char.ofNat_toNat] at hlower
    simpa [lowerChar, hascii] using hlower
  · cases hfind : lowerRuns.find? fun r ↦ r.1 ≤ c.toNat && c.toNat ≤ r.2.1 &&
        (c.toNat - r.1) % r.2.2.1 == 0 with
    | none =>
        have hsame : lowerChar c = c := by simp [lowerChar, hascii, hfind]
        rw [hsame]
        exact ⟨hsame, hsigma, hdotted⟩
    | some r =>
        have hpartner : lowerChar c = Char.ofNat (r.2.2.2 + (c.toNat - r.1)) := by
          simp [lowerChar, hascii, hfind]
        have hrun := List.find?_some hfind
        simp only [Bool.and_eq_true, decide_eq_true_eq, beq_iff_eq] at hrun
        rw [hpartner]
        exact isLower_partner (List.mem_of_find?_eq_some hfind) (by omega) hrun.2

/-! ### Texts -/

theorem isLower_of_mem_lowerChars {before cs : List Char} {c : Char}
    (h : c ∈ lowerChars before cs) : IsLower c := by
  induction cs generalizing before with
  | nil => simp [lowerChars] at h
  | cons d rest ih =>
      rw [lowerChars] at h
      split at h
      · rcases List.mem_cons.mp h with rfl | h
        · split <;> decide +kernel
        · exact ih h
      · rename_i hsigma
        split at h
        · rcases List.mem_cons.mp h with rfl | h
          · decide +kernel
          · rcases List.mem_cons.mp h with rfl | h
            · decide +kernel
            · exact ih h
        · rename_i hdotted
          rcases List.mem_cons.mp h with rfl | h
          · exact isLower_lowerChar hsigma hdotted
          · exact ih h

theorem lowerChars_of_isLower {before cs : List Char} (h : ∀ c ∈ cs, IsLower c) :
    lowerChars before cs = cs := by
  induction cs generalizing before with
  | nil => rfl
  | cons c rest ih =>
      have hc := h c (by simp)
      rw [lowerChars, if_neg hc.ne_sigma, if_neg hc.ne_dotted, hc.lowerChar_eq,
        ih fun d hd ↦ h d (by simp [hd])]

theorem isLower_of_mem_lower {s : String} {c : Char} (h : c ∈ (lower s).toList) : IsLower c := by
  rw [lower, String.toList_ofList] at h
  exact isLower_of_mem_lowerChars h

theorem lower_of_isLower {s : String} (h : ∀ c ∈ s.toList, IsLower c) : lower s = s := by
  rw [lower, lowerChars_of_isLower h, String.ofList_toList]

/-- Lower-casing a text twice is lower-casing it once. -/
theorem lower_lower (s : String) : lower (lower s) = lower s :=
  lower_of_isLower fun _ hc ↦ isLower_of_mem_lower hc

theorem lowerChars_eq_nil_iff {before cs : List Char} : lowerChars before cs = [] ↔ cs = [] := by
  cases cs with
  | nil => simp [lowerChars]
  | cons c rest =>
      rw [lowerChars]
      split
      · simp
      · split <;> simp

theorem lower_eq_empty_iff {s : String} : lower s = "" ↔ s = "" := by
  rw [← String.toList_eq_nil_iff, lower, String.toList_ofList, lowerChars_eq_nil_iff,
    String.toList_eq_nil_iff]

end WebBaseline.Text

import WebBaseline.Display.Page
import WebBaseline.Proofs.Display.Terminal
import WebBaseline.Proofs.Lists

/-!
# The page of a scan

Hints are escaped and can always be read.  Locations, names of features and messages are not: the
page of a scan exists if these texts can be read, and the cell of a location holds what the console
makes of the location.  This is the location itself if it is plain, and it is not if a tag or the
name of an emoji is found in it.
-/

namespace WebBaseline.Display

open Console

variable {c : Console}

/-! ### Numbers -/

theorem isDigit_of_mem_repr {n : Nat} {ch : Char} (h : ch ∈ n.repr.toList) : ch.isDigit = true := by
  rw [Nat.toList_repr] at h
  exact Nat.isDigit_of_mem_toDigits (by omega) (by omega) h

theorem of_mem_toString {n : Int} {ch : Char} (h : ch ∈ (toString n).toList) :
    ch.isDigit = true ∨ ch = '-' := by
  rw [Int.toString_eq_repr, Int.repr_eq_if] at h
  split at h
  · exact Or.inl (isDigit_of_mem_repr h)
  · rw [String.toList_append, List.mem_append] at h
    obtain h | h := h
    · exact Or.inr (List.mem_singleton.mp h)
    · exact Or.inl (isDigit_of_mem_repr h)

theorem isBlank_of_mem_toString {n : Int} {ch : Char} (h : ch ∈ (toString n).toList) :
    Text.isBlank ch = false := by
  obtain hdigit | rfl := of_mem_toString h
  · have hrange : 48 ≤ ch.toNat ∧ ch.toNat ≤ 57 := by
      simp only [Char.isDigit, Bool.and_eq_true, decide_eq_true_eq, ge_iff_le] at hdigit
      exact ⟨UInt32.le_iff_toNat_le.mp hdigit.1, UInt32.le_iff_toNat_le.mp hdigit.2⟩
    simp only [Text.isBlank, Bool.or_eq_false_iff, Bool.and_eq_false_iff, decide_eq_false_iff_not,
      beq_eq_false_iff_ne]
    omega
  · decide

theorem isMark_of_digit {ch : Char} (h : ch.isDigit = true ∨ ch = '-') : isMark ch = false := by
  apply Bool.eq_false_iff.mpr
  intro hmark
  simp only [isMark, isStripped, Bool.or_eq_true, decide_eq_true_eq, or_assoc] at hmark
  obtain rfl | rfl | rfl | rfl | rfl | rfl | rfl | rfl := hmark <;> exact absurd h (by decide)

theorem unmarked_of_isMark {cs : List Char} (h : ∀ ch ∈ cs, isMark ch = false) : Unmarked cs :=
  fun ch hch ↦ ⟨ne_of_isMark (h ch hch) (by decide), ne_of_isMark (h ch hch) (by decide)⟩

theorem unmarked_repr (n : Nat) : Unmarked (toString n).toList :=
  unmarked_of_isMark fun _ hch ↦ isMark_of_digit (Or.inl (isDigit_of_mem_repr hch))

/-! ### Lines that can be read -/

/-- A text that can be written before any other one. -/
def Precedes (c : Console) (m : String) : Prop :=
  ∀ m' t', c.Writes m' t' → ∃ t, c.Writes (m ++ m') t

theorem precedes_unmarked {m : String} (h : Unmarked m.toList) : Precedes c m :=
  fun _ _ hrest ↦ ⟨_, .unmarked h hrest⟩

theorem Precedes.append {m n : String} (hm : Precedes c m) (hn : Precedes c n) :
    Precedes c (m ++ n) := by
  intro m' t' h
  obtain ⟨t, ht⟩ := hn m' t' h
  rw [String.append_assoc]
  exact hm _ t ht

theorem precedes_styled (hc : c.Lawful) (style s : String) (hstyle : IsStyleWord style)
    (hs : Unmarked s.toList) : Precedes c ("[" ++ style ++ "]" ++ s ++ "[/" ++ style ++ "]") := by
  intro m' t' h
  rw [← hc.escaped_of_unmarked hs]
  exact ⟨_, .styled hstyle h⟩

theorem precedes_intercalate {between : String} (hbetween : Precedes c between)
    {parts : List String} (h : ∀ m ∈ parts, Precedes c m) :
    Precedes c (between.intercalate parts) := by
  induction parts with
  | nil => exact precedes_unmarked (by simp [Unmarked])
  | cons m rest ih =>
      have hm := h m List.mem_cons_self
      have hrest := ih fun n hn ↦ h n (List.mem_cons_of_mem m hn)
      cases rest with
      | nil => rwa [String.intercalate_singleton]
      | cons n more =>
          rw [String.intercalate_cons_cons]
          exact (hm.append hbetween).append hrest

theorem Precedes.exists_print (hc : c.Lawful) {m : String} (h : Precedes c m) :
    ∃ lines, c.print m = .ok lines := by
  obtain ⟨t, ht⟩ := h _ _ .nothing
  rw [String.append_empty] at ht
  obtain ⟨out, hout⟩ := hc.shown_of_writes ht
  exact ⟨_, congrArg (Except.map c.wrapped) hout⟩

theorem isStyleWord_of_all {style : String}
    (h : (!style.toList.isEmpty && style.toList.all fun ch ↦ 'a' ≤ ch && ch ≤ 'z') = true) :
    IsStyleWord style := by
  simpa [IsStyleWord] using h

theorem unmarked_of_all {s : String}
    (h : (s.toList.all fun ch ↦ ch ≠ '[' && ch ≠ '\\') = true) : Unmarked s.toList := by
  simpa [Unmarked] using h

theorem precedes_countPart (hc : c.Lawful) {style name : String} (hstyle : IsStyleWord style)
    (hname : Unmarked name.toList) (n : Nat) : ∀ m ∈ countPart style n name, Precedes c m := by
  intro m hm
  rw [countPart] at hm
  split at hm
  · obtain rfl := List.mem_singleton.mp hm
    have hinside : Unmarked (toString n ++ " " ++ name).toList := by
      intro ch hch
      simp only [String.toList_append, List.mem_append] at hch
      obtain (hch | hch) | hch := hch
      · exact unmarked_repr n ch hch
      · obtain rfl := List.mem_singleton.mp hch
        decide
      · exact hname ch hch
    have hstyled := precedes_styled hc style _ hstyle hinside
    simpa only [String.append_assoc] using hstyled
  · cases hm

theorem exists_print_summaryLine (hc : c.Lawful) (r : ScanResult) :
    ∃ lines, c.print (summaryLine r) = .ok lines := by
  apply Precedes.exists_print hc
  have hopening : "[bold]" = "[" ++ "bold" ++ "]" := rfl
  have hclosing : "[/bold] files scanned" = "[/" ++ "bold" ++ "]" ++ " files scanned" := rfl
  have hscanned : Precedes c ("[bold]" ++ toString r.scanned ++ "[/bold] files scanned") := by
    rw [hopening, hclosing]
    have hstyled := precedes_styled hc "bold" _ (isStyleWord_of_all (by decide))
      (unmarked_repr r.scanned)
    have hbehind : Precedes c " files scanned" := precedes_unmarked (unmarked_of_all (by decide))
    have happend := hstyled.append hbehind
    simpa only [String.append_assoc] using happend
  have htotal : Precedes c (toString r.summary.total ++ " total issues in " ++
      toString r.withIssues ++ " file(s)") :=
    (((precedes_unmarked (unmarked_repr _)).append
      (precedes_unmarked (unmarked_of_all (by decide)))).append
        (precedes_unmarked (unmarked_repr _))).append
          (precedes_unmarked (unmarked_of_all (by decide)))
  apply precedes_intercalate (precedes_unmarked (unmarked_of_all (by decide)))
  simp only [List.forall_mem_append, List.forall_mem_singleton]
  refine ⟨⟨⟨⟨hscanned, ?_⟩, ?_⟩, ?_⟩, htotal⟩
  all_goals
    exact precedes_countPart hc (isStyleWord_of_all (by decide)) (unmarked_of_all (by decide)) _

/-- The page of a scan without issues. -/
theorem exists_resultPage_of_nil (hc : c.Lawful) {r : ScanResult} (h : r.issues = []) :
    ∃ page, resultPage c r = .ok page := by
  obtain ⟨summary, hsummary⟩ := exists_print_summaryLine hc r
  have hnothing : Precedes c "[green]No Baseline compatibility issues found.[/green]" :=
    precedes_styled hc "green" "No Baseline compatibility issues found."
      (isStyleWord_of_all (by decide)) (unmarked_of_all (by decide))
  obtain ⟨nothing, hnothing⟩ := hnothing.exists_print hc
  rw [resultPage, h, hnothing, hsummary]
  exact ⟨_, rfl⟩

/-! ### Hints -/

theorem writes_suggestionLine (i : Issue) :
    c.Writes (suggestionLine c i)
      ("  " ++ i.feature ++ ": " ++ i.suggestion.getD "").toList := by
  have hopening : "  [cyan]" = "  " ++ ("[" ++ "cyan" ++ "]") := rfl
  have hclosing : "[/cyan]: " = "[/" ++ "cyan" ++ "]" ++ ": " := rfl
  have hlast : c.Writes (": " ++ c.escaped (i.suggestion.getD ""))
      (": ".toList ++ (i.suggestion.getD "").toList) :=
    .unmarked (unmarked_of_all (by decide)) (.escaped _)
  have hcyan : IsStyleWord "cyan" := isStyleWord_of_all (by decide)
  have hstyled := Writes.unmarked (c := c) (s := "  ") (unmarked_of_all (by decide))
    (.styled (s := i.feature) hcyan hlast)
  rw [suggestionLine, hopening, hclosing]
  simpa only [String.append_assoc, String.toList_append] using hstyled

/-- The texts of a hint are shown as they are, tags included. -/
theorem shown_suggestionLine (hc : c.Lawful) {i : Issue}
    (hclean : c.Clean ("  " ++ i.feature ++ ": " ++ i.suggestion.getD "").toList)
    (hslash : '\\' ∉ ("  " ++ i.feature ++ ": " ++ i.suggestion.getD "").toList) :
    c.shown (suggestionLine c i) =
      .ok ("  " ++ i.feature ++ ": " ++ i.suggestion.getD "").toList :=
  hc.shown_of_clean (writes_suggestionLine i) hclean hslash

theorem exists_suggestionLines (hc : c.Lawful) (issues : List Issue) :
    ∃ lines, suggestionLines c issues = .ok lines := by
  induction issues with
  | nil => exact ⟨[], rfl⟩
  | cons i rest ih =>
      obtain ⟨out, hout⟩ := hc.shown_of_writes (writes_suggestionLine i)
      obtain ⟨more, hmore⟩ := ih
      rw [suggestionLines, print, hout, hmore]
      exact ⟨_, rfl⟩

theorem exists_suggestions (hc : c.Lawful) (issues : List Issue) :
    ∃ lines, suggestions c issues = .ok lines := by
  rw [suggestions]
  cases suggestionIssues [] issues with
  | nil => exact ⟨[], rfl⟩
  | cons i rest =>
      have hheading : Precedes c "[bold]Suggestions:[/bold]" :=
        precedes_styled hc "bold" "Suggestions:"
          (isStyleWord_of_all (by decide)) (unmarked_of_all (by decide))
      obtain ⟨heading, hheading⟩ := hheading.exists_print hc
      obtain ⟨lines, hlines⟩ := exists_suggestionLines hc (i :: rest)
      simp only [hheading, hlines]
      exact ⟨_, rfl⟩

/-! ### Rows -/

/-- The cells of an issue: what its texts show. -/
def ShowsIssue (c : Console) (i : Issue) (row : List (List Char)) : Prop :=
  ∃ location feature message, c.shown i.location = .ok location ∧
    c.shown i.feature = .ok feature ∧ c.shown i.message = .ok message ∧
    row = [location, (severityName i.severity).toList, feature, i.tier.displayName.toList, message]

theorem row_issueRow_eq_ok_iff {i : Issue} {row : List (List Char)} :
    c.row (issueRow i) = .ok row ↔ ShowsIssue c i row := by
  rw [ShowsIssue]
  simp only [issueRow, Console.row, cell, bind, Except.bind, pure, Except.pure]
  cases c.shown i.location with
  | error e => simp
  | ok location =>
      cases c.shown i.feature with
      | error e => simp
      | ok feature =>
          cases c.shown i.message with
          | error e => simp
          | ok message => simp [eq_comm]

theorem exists_showsIssue_iff {i : Issue} :
    (∃ row, ShowsIssue c i row) ↔
      ∀ s ∈ [i.location, i.feature, i.message], ∃ out, c.shown s = .ok out := by
  simp [ShowsIssue]

theorem rows_eq_ok_iff {issues : List Issue} {rows : List (List (List Char))} :
    c.rows (issues.map issueRow) = .ok rows ↔ List.Forall₂ (ShowsIssue c) issues rows := by
  induction issues generalizing rows with
  | nil => simp [Console.rows, eq_comm]
  | cons i rest ih =>
      rw [List.map_cons, Console.rows, List.forall₂_cons_left_iff]
      simp only [← row_issueRow_eq_ok_iff, ← ih, bind, Except.bind, pure, Except.pure]
      cases c.row (issueRow i) with
      | error e => simp
      | ok row =>
          cases c.rows (rest.map issueRow) with
          | error e => simp
          | ok more => simp [eq_comm]

/-- The grid of a page with some rows. -/
def issueGrid (rows : List (List (List Char))) : Grid :=
  { title := some "Baseline Compatibility Issues".toList
    columns := issueHeaders.map fun h ↦ { header := h.1.toList, placing := h.2 }
    rows }

theorem plain_of_isMark {cs : List Char} (h : ∀ ch ∈ cs, isMark ch = false) : c.Plain cs := by
  refine ⟨⟨fun ch hch ↦ isStripped_of_isMark (h ch hch), ?_⟩, unmarked_of_isMark h⟩
  rintro before name after rfl -
  exact absurd (h ':' (by simp)) (by decide)

theorem plain_of_all {cs : List Char} (h : (cs.all fun ch ↦ !isMark ch) = true) : c.Plain cs :=
  plain_of_isMark (by simpa using h)

theorem shown_of_isMark (hc : c.Lawful) {s : String}
    (h : (s.toList.all fun ch ↦ !isMark ch) = true) :
    c.shown s = .ok s.toList :=
  hc.shown_of_plain (plain_of_all h)

theorem columns_issueHeaders (hc : c.Lawful) :
    c.columns issueHeaders = .ok (issueGrid []).columns := by
  have hheader : ∀ name ∈ ["Location", "Severity", "Feature", "Baseline", "Message"],
      c.shown name = .ok name.toList := by
    intro name hname
    apply shown_of_isMark hc
    revert name
    decide +kernel
  simp only [List.forall_mem_cons] at hheader
  obtain ⟨hlocation, hseverity, hfeature, hbaseline, hmessage, -⟩ := hheader
  simp only [issueHeaders, columns, hlocation, hseverity, hfeature, hbaseline, hmessage]
  rfl

/-! ### Pages -/

theorem exists_resultPage_eq (hc : c.Lawful) {r : ScanResult} (hissues : r.issues ≠ []) :
    ∃ hints summary, suggestions c r.issues = .ok hints ∧ c.print (summaryLine r) = .ok summary ∧
      resultPage c r = (c.rows (r.issues.map issueRow)).map fun rows ↦
        asText (c.drawn (issueGrid rows) ++ hints ++ summary) := by
  obtain ⟨hints, hhints⟩ := exists_suggestions hc r.issues
  obtain ⟨summary, hsummary⟩ := exists_print_summaryLine hc r
  have htitle : c.shown "Baseline Compatibility Issues" =
      .ok "Baseline Compatibility Issues".toList := shown_of_isMark hc (by decide +kernel)
  have hempty : r.issues.isEmpty = false := by simpa using hissues
  refine ⟨hints, summary, hhints, hsummary, ?_⟩
  rw [resultPage, hempty, if_neg Bool.false_ne_true, grid, htitle, columns_issueHeaders hc, hhints,
    hsummary]
  cases c.rows (r.issues.map issueRow) with
  | error e => rfl
  | ok rows => rfl

theorem exists_resultPage_iff (hc : c.Lawful) {r : ScanResult} (hissues : r.issues ≠ []) :
    (∃ page, resultPage c r = .ok page) ↔
      ∀ i ∈ r.issues, ∀ s ∈ [i.location, i.feature, i.message], ∃ out, c.shown s = .ok out := by
  obtain ⟨hints, summary, -, -, hpage⟩ := exists_resultPage_eq hc hissues
  simp only [← exists_showsIssue_iff]
  rw [hpage, ← exists_forall₂_iff]
  simp only [← rows_eq_ok_iff]
  cases c.rows (r.issues.map issueRow) <;> simp [Except.map]

/-! ### Locations -/

/-- What follows the path in a location. -/
def position (i : Issue) : List Char :=
  ':' :: (toString i.line).toList ++ ':' :: (toString i.column).toList

theorem toList_location (i : Issue) : i.location.toList = i.file.toList ++ position i := by
  simp [Issue.location, position]

/-- A location ends in a digit. -/
theorem exists_getLast?_location (i : Issue) :
    ∃ ch ∈ i.location.toList.getLast?, Text.isBlank ch = false := by
  have hne : ':' :: (toString i.column).toList ≠ [] := List.cons_ne_nil _ _
  rw [toList_location, position, ← List.append_assoc, List.getLast?_append,
    List.getLast?_eq_some_getLast hne, Option.some_or]
  refine ⟨_, rfl, ?_⟩
  obtain hcolon | hdigit := List.mem_cons.mp (List.getLast_mem hne)
  · rw [hcolon]
    decide
  · exact isBlank_of_mem_toString hdigit

/-- Between two colons there is one name. -/
theorem eq_of_two_colons {before name after before' name' after' : List Char}
    (hbefore : ':' ∉ before) (hname : ':' ∉ name) (hafter : ':' ∉ after) (hname' : ':' ∉ name')
    (h : before ++ ':' :: name ++ ':' :: after = before' ++ ':' :: name' ++ ':' :: after') :
    name = name' := by
  have hcount := congrArg (List.count ':') h
  simp only [List.count_append, List.count_cons_self, List.count_eq_zero.mpr hbefore,
    List.count_eq_zero.mpr hname, List.count_eq_zero.mpr hafter, List.count_eq_zero.mpr hname']
    at hcount
  have hbefore' : ':' ∉ before' := List.count_eq_zero.mp (by omega)
  rw [List.append_assoc, List.append_assoc] at h
  obtain ⟨-, h⟩ := append_mark_inj hbefore hbefore' h
  exact (append_mark_inj hname hname' h).1

theorem colon_not_mem_toString (n : Int) : ':' ∉ (toString n).toList :=
  fun h ↦ absurd (of_mem_toString h) (by decide)

/-- A position changes nothing about a plain text without colons, unless its line is the name of an
emoji. -/
theorem plain_append_position {front : List Char} (h : c.Plain front) (hcolon : ':' ∉ front)
    {i : Issue} (hline : c.emoji? (toString i.line).toList = none) :
    c.Plain (front ++ position i) := by
  have hnumber : ∀ (n : Int), ∀ ch ∈ (toString n).toList, isMark ch = false :=
    fun n ch hch ↦ isMark_of_digit (of_mem_toString hch)
  have hposition : ∀ ch ∈ position i, ch = ':' ∨ isMark ch = false := by
    intro ch hch
    simp only [position, List.cons_append, List.mem_cons, List.mem_append] at hch
    obtain rfl | hch | rfl | hch := hch
    · exact Or.inl rfl
    · exact Or.inr (hnumber _ ch hch)
    · exact Or.inl rfl
    · exact Or.inr (hnumber _ ch hch)
  refine ⟨⟨fun ch hch ↦ ?_, fun before name after heq hname ↦ ?_⟩, fun ch hch ↦ ?_⟩
  · obtain hch | hch := List.mem_append.mp hch
    · exact h.kept ch hch
    · obtain rfl | hmark := hposition ch hch
      · decide
      · exact isStripped_of_isMark hmark
  · rw [position, ← List.append_assoc] at heq
    rw [← eq_of_two_colons hcolon (colon_not_mem_toString i.line)
      (colon_not_mem_toString i.column) hname heq]
    exact hline
  · obtain hch | hch := List.mem_append.mp hch
    · exact h.unmarked ch hch
    · obtain rfl | hmark := hposition ch hch
      · decide
      · exact ⟨ne_of_isMark hmark (by decide), ne_of_isMark hmark (by decide)⟩

/-- What is known of the cell of a location. -/
structure ShowsLocation (c : Console) (i : Issue) (cell : List Char) : Prop where
  /-- a plain location is shown as it is -/
  plain : c.Plain i.location.toList → cell = i.location.toList
  /-- of a path with a tag in it, the tag is not shown -/
  tagged : ∀ {before body after : List Char},
    i.file.toList = before ++ '[' :: body ++ ']' :: after →
    c.Plain before → OpensStyle body → c.Plain (after ++ position i) →
    cell = before ++ (after ++ position i) ∧ cell ≠ i.location.toList
  /-- a line that is the name of an emoji gives way to the emoji -/
  numbered : c.Plain i.file.toList → ':' ∉ i.file.toList → ∀ {points : List Char},
    c.emoji? (toString i.line).toList = some points →
    cell = i.file.toList ++ points ++ (toString i.column).toList

theorem showsLocation_of_shown (hc : c.Lawful) {i : Issue} {cell : List Char}
    (h : c.shown i.location = .ok cell) : ShowsLocation c i cell := by
  have hlocation : ∀ {cs : List Char}, i.location.toList = cs → i.location = String.ofList cs :=
    fun hcs ↦ by rw [← hcs, String.ofList_toList]
  refine ⟨fun hplain ↦ ?_, fun {before body after} hfile hbefore hbody hafter ↦ ?_,
    fun hplain hcolon points hpoints ↦ ?_⟩
  · exact Except.ok.inj (h.symm.trans (hc.shown_of_plain hplain))
  · have htext : i.location.toList = before ++ '[' :: body ++ ']' :: (after ++ position i) := by
      rw [toList_location, hfile]
      simp
    rw [hlocation htext, hc.shown_of_tag hbefore hbody hafter, Except.ok.injEq] at h
    refine ⟨h.symm, fun heq ↦ ?_⟩
    have hlength := congrArg List.length (h.trans (heq.trans htext))
    simp at hlength
    omega
  · have htext : i.location.toList =
        i.file.toList ++ ':' :: (toString i.line).toList ++ ':' :: (toString i.column).toList := by
      rw [toList_location, position, List.append_assoc]
    have hcolumn : c.Plain (toString i.column).toList :=
      plain_of_isMark fun ch hch ↦ isMark_of_digit (of_mem_toString hch)
    have hline : Unmarked (toString i.line).toList :=
      unmarked_of_isMark fun ch hch ↦ isMark_of_digit (of_mem_toString hch)
    rw [hlocation htext, hc.shown_of_emoji hplain hcolon hcolumn (colon_not_mem_toString _) hline
      (fun ch hch ↦ ⟨ne_of_mem_of_not_mem hch (colon_not_mem_toString _),
        isBlank_of_mem_toString hch⟩) hpoints, Except.ok.injEq] at h
    exact h.symm

/-- A path with one tag in it and no other mark. -/
theorem shown_of_tagged_file (hc : c.Lawful) {i : Issue} {before body after : List Char}
    (hfile : i.file.toList = before ++ '[' :: body ++ ']' :: after)
    (hbefore : c.Plain before) (hbody : OpensStyle body) (hafter : c.Plain after)
    (hcolon : ':' ∉ after) (hline : c.emoji? (toString i.line).toList = none) :
    c.shown i.location = .ok (before ++ (after ++ position i)) := by
  have htext : i.location.toList = before ++ '[' :: body ++ ']' :: (after ++ position i) := by
    rw [toList_location, hfile]
    simp
  rw [← String.ofList_toList (s := i.location), htext]
  exact hc.shown_of_tag hbefore hbody (plain_append_position hafter hcolon hline)

/-- A text whose first tag closes a style, although none is open. -/
inductive ClosesNothing : List Char → Prop where
  | intro {before body : List Char} (after : List Char) (hbefore : Unmarked before)
      (hbody : ∀ ch ∈ body, ch ≠ '[' ∧ ch ≠ ']') :
      ClosesNothing (before ++ '[' :: '/' :: body ++ ']' :: after)

theorem shown_of_closesNothing (hc : c.Lawful) {i : Issue} (h : ClosesNothing i.file.toList) :
    c.shown i.location = .error .nothingToClose := by
  generalize hfile : i.file.toList = file at h
  obtain ⟨after, hbefore, hbody⟩ := h
  have htext := toList_location i
  rw [hfile, List.append_assoc, List.cons_append] at htext
  rw [← String.ofList_toList (s := i.location), htext]
  exact hc.shown_of_unmatched (after ++ position i) hbefore hbody

theorem resultPage_ne_of_closesNothing (hc : c.Lawful) {r : ScanResult} {i : Issue}
    (hi : i ∈ r.issues) (hcloses : ClosesNothing i.file.toList) (page : String) :
    resultPage c r ≠ .ok page := by
  intro hok
  have hreadable := (exists_resultPage_iff hc (List.ne_nil_of_mem hi)).mp ⟨page, hok⟩
  obtain ⟨out, hout⟩ := hreadable i hi i.location List.mem_cons_self
  rw [shown_of_closesNothing hc hcloses] at hout
  cases hout

theorem drawn_issueGrid (hc : c.Lawful) {issues : List Issue} {rows : List (List (List Char))}
    (hshows : List.Forall₂ (ShowsIssue c) issues rows) (hfits : c.Fits (issueGrid rows)) :
    ∃ above blocks below, c.drawn (issueGrid rows) = above ++ blocks.flatten ++ below ∧
      List.Forall₂ (fun (i : Issue) block ↦ block ≠ [] ∧
        (c.Plain i.location.toList → OneLine i.location.toList →
          BlockShows i.location.toList block)) issues blocks := by
  have hlength : ∀ row ∈ rows, row.length = (issueGrid rows).columns.length := by
    intro row hrow
    obtain ⟨i, -, location, feature, message, -, -, -, rfl⟩ := exists_of_mem_right hshows hrow
    rfl
  obtain ⟨above, blocks, below, hdrawn, hblocks⟩ := hc.drawn_rows hfits rfl hlength
  refine ⟨above, blocks, below, hdrawn, forall₂_trans ?_ hshows hblocks⟩
  rintro i row block ⟨location, feature, message, hlocation, -, -, rfl⟩ ⟨hne, hblock⟩
  refine ⟨hne, fun hplain hline ↦ ?_⟩
  obtain rfl := Except.ok.inj (hlocation.symm.trans (hc.shown_of_plain hplain))
  exact hblock _ rfl hline (exists_getLast?_location i)

/-- The page of some issues exists if, and only if, their locations, features and messages can be
read.  It does if these texts are plain; it does not if the first tag of a path closes a style.  The
page has one row for each issue, in order, with what the console makes of the location in its first
cell: a plain location is shown as it is, but of `a[id].js` the tag is missing, and a line that is
called like an emoji gives way to it.  Where there is room for the grid, the drawn row of a plain
location on one line starts with it. -/
theorem page_shows_locations (hc : c.Lawful) (i : Issue) (more : List Issue) (scanned : Nat) :
    let r : ScanResult := { issues := i :: more, scanned }
    ((∃ page, resultPage c r = .ok page) ↔
        ∀ i ∈ r.issues, ∀ s ∈ [i.location, i.feature, i.message], ∃ out, c.shown s = .ok out) ∧
      ((∀ i ∈ r.issues, ∀ s ∈ [i.location, i.feature, i.message], c.Plain s.toList) →
        ∃ page, resultPage c r = .ok page) ∧
      (∀ i ∈ r.issues, ClosesNothing i.file.toList → ∀ page, resultPage c r ≠ .ok page) ∧
      ∀ page, resultPage c r = .ok page →
        ∃ rows hints summary, page = asText (c.drawn (issueGrid rows) ++ hints ++ summary) ∧
          suggestions c r.issues = .ok hints ∧ c.print (summaryLine r) = .ok summary ∧
          List.Forall₂ (ShowsIssue c) r.issues rows ∧
          List.Forall₂ (fun i row ↦ ∃ cell ∈ row.head?, ShowsLocation c i cell) r.issues rows ∧
          (c.Fits (issueGrid rows) → ∃ above blocks below,
            c.drawn (issueGrid rows) = above ++ blocks.flatten ++ below ∧
            List.Forall₂ (fun (i : Issue) block ↦ block ≠ [] ∧
              (c.Plain i.location.toList → OneLine i.location.toList →
                BlockShows i.location.toList block)) r.issues blocks) := by
  intro r
  obtain ⟨hints, summary, hhints, hsummary, hpage⟩ :=
    exists_resultPage_eq hc (r := r) (List.cons_ne_nil i more)
  have hreadable := exists_resultPage_iff hc (r := r) (List.cons_ne_nil i more)
  refine ⟨hreadable, fun hplain ↦ ?_, fun i hi ↦ resultPage_ne_of_closesNothing hc hi,
    fun page hok ↦ ?_⟩
  · exact hreadable.mpr fun i hi s hs ↦ ⟨_, hc.shown_of_plain (hplain i hi s hs)⟩
  · rw [hpage] at hok
    cases hrows : c.rows (r.issues.map issueRow) with
    | error e =>
        rw [hrows] at hok
        cases hok
    | ok rows =>
        rw [hrows] at hok
        obtain rfl := Except.ok.inj hok
        have hshows := rows_eq_ok_iff.mp hrows
        refine ⟨rows, hints, summary, rfl, hhints, hsummary, hshows, hshows.imp fun i row hrow ↦ ?_,
          drawn_issueGrid hc hshows⟩
        obtain ⟨location, feature, message, hlocation, -, -, rfl⟩ := hrow
        exact ⟨location, rfl, showsLocation_of_shown hc hlocation⟩

/-- No emoji is called like the first line. -/
theorem terminal_emoji?_one (width : Nat) :
    (terminal width).emoji? (toString (1 : Int)).toList = none := by
  have hnone : emoji? (toString (1 : Int)).toList = none := by decide +kernel
  rw [terminal_emoji?, hnone]

/-- A terminal leaves a tag in a path out. -/
theorem terminal_shown_bracketed {i : Issue} (hfile : i.file = "app[id].js") (hline : i.line = 1) :
    (terminal 80).shown i.location =
      .ok ("app".toList ++ (".js".toList ++ position i)) := by
  have htext : i.file.toList = "app".toList ++ '[' :: "id".toList ++ ']' :: ".js".toList := by
    rw [hfile]
    decide +kernel
  apply shown_of_tagged_file (lawful_terminal 80) htext
  · exact plain_of_all (by decide +kernel)
  · exact ⟨by decide +kernel, by simp⟩
  · exact plain_of_all (by decide +kernel)
  · decide +kernel
  · rw [hline]
    exact terminal_emoji?_one 80

/-- A tag is missing from the second location that a terminal shows. -/
theorem page_shows_locations_bracketed :
    let issue (file : String) : Issue :=
      { language := .javascript, feature := "Web Share", featureId := "web-share",
        key := "navigator.share", tier := .limited, severity := .error,
        message := "Limited browser support.", file, line := 1, column := 1 }
    let r : ScanResult := { issues := [issue "a.js", issue "app[id].js"], scanned := 2 }
    (terminal 80).Lawful ∧ ∃ page rows, resultPage (terminal 80) r = .ok page ∧
      List.Forall₂ (ShowsIssue (terminal 80)) r.issues rows ∧
      rows.map (·.head?) = [some "a.js:1:1".toList, some "app.js:1:1".toList] := by
  intro issue r
  have hc := lawful_terminal 80
  have hline := terminal_emoji?_one 80
  have hplain : (terminal 80).shown (issue "a.js").location =
      .ok (issue "a.js").location.toList := by
    apply hc.shown_of_plain
    rw [toList_location]
    exact plain_append_position (plain_of_all (by decide +kernel)) (by decide +kernel) hline
  have htagged := terminal_shown_bracketed (i := issue "app[id].js") rfl rfl
  have hfeature : (terminal 80).shown "Web Share" = .ok "Web Share".toList :=
    shown_of_isMark hc (by decide +kernel)
  have hmessage : (terminal 80).shown "Limited browser support." =
      .ok "Limited browser support.".toList := shown_of_isMark hc (by decide +kernel)
  obtain ⟨hexists, -, -, hpage⟩ :=
    page_shows_locations hc (issue "a.js") [issue "app[id].js"] 2
  obtain ⟨page, hok⟩ := hexists.mpr (by
    simp only [List.forall_mem_cons, List.not_mem_nil, false_imp_iff, implies_true, and_true]
    exact ⟨⟨⟨_, hplain⟩, ⟨_, hfeature⟩, ⟨_, hmessage⟩⟩, ⟨_, htagged⟩, ⟨_, hfeature⟩, ⟨_, hmessage⟩⟩)
  obtain ⟨rows, hints, summary, -, -, -, hshows, hlocations, -⟩ := hpage page hok
  refine ⟨hc, page, rows, hok, hshows, ?_⟩
  obtain - | ⟨⟨first, _, _, hfirst, -, -, rfl⟩, - | ⟨⟨second, _, _, hsecond, -, -, rfl⟩, ⟨⟩⟩⟩ :=
    hshows
  obtain rfl := Except.ok.inj (hplain.symm.trans hfirst)
  obtain rfl := Except.ok.inj (htagged.symm.trans hsecond)
  have hsame : (issue "a.js").location.toList = "a.js:1:1".toList := by decide +kernel
  have hother : "app".toList ++ (".js".toList ++ position (issue "app[id].js")) =
      "app.js:1:1".toList := by decide +kernel
  simp only [List.map_cons, List.map_nil, List.head?_cons, hsame, hother]

/-- With a closing tag in the path of a file there is no page, and with an opening one the page
does not show the path. -/
theorem location_not_shown :
    let issue (file : String) : Issue :=
      { language := .javascript, feature := "Web Share", featureId := "web-share",
        key := "navigator.share", tier := .limited, severity := .error,
        message := "Web Share (JavaScript) is not Baseline. Limited browser support.", file,
        line := 1, column := 1 }
    let result (file : String) : ScanResult := { issues := [issue file], scanned := 1 }
    (∀ page, resultPage (terminal 80) (result "a[/x].js") ≠ .ok page) ∧
      ∃ page row hints summary, resultPage (terminal 80) (result "app[id].js") = .ok page ∧
        page = asText ((terminal 80).drawn (issueGrid [row]) ++ hints ++ summary) ∧
        ShowsIssue (terminal 80) (issue "app[id].js") row ∧
        row.head? ≠ some (issue "app[id].js").location.toList := by
  intro issue result
  have hc := lawful_terminal 80
  constructor
  · have hfile : "a[/x].js".toList =
        "a".toList ++ '[' :: '/' :: "x".toList ++ ']' :: ".js".toList := by decide +kernel
    apply resultPage_ne_of_closesNothing hc (i := issue "a[/x].js") List.mem_cons_self
    exact hfile ▸ .intro _ (by simp [Unmarked]) (by simp)
  · have htagged := terminal_shown_bracketed (i := issue "app[id].js") rfl rfl
    have hrow : ShowsIssue (terminal 80) (issue "app[id].js") [_, _, _, _, _] :=
      ⟨_, _, _, htagged, shown_of_isMark hc (by decide +kernel),
        shown_of_isMark hc (by decide +kernel), rfl⟩
    obtain ⟨hints, summary, -, -, heq⟩ :=
      exists_resultPage_eq hc (r := result "app[id].js") (List.cons_ne_nil _ _)
    have hrows := rows_eq_ok_iff.mpr (List.Forall₂.cons hrow List.Forall₂.nil)
    refine ⟨_, _, hints, summary, ?_, rfl, hrow, ?_⟩
    · rw [heq]
      exact congrArg (Except.map _) hrows
    · decide +kernel

end WebBaseline.Display

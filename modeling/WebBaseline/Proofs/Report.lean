import WebBaseline.Report
import Mathlib.Data.List.Basic

/-!
# Reported uses

Reporting goes through the uses once and remembers the markers that it has reported.  A marker
holds the key of its use, and whether a use is reported depends on its key alone, so the uses may
as well be reduced to the first one of each marker before any of them is looked up.  What a level
does to the issues can then be seen use by use.
-/

namespace WebBaseline

/-- What a level reports, a higher level reports too. -/
theorem Level.reports_of_le {l l' : Level} (h : l ≤ l') {t : Tier} (ht : l.reports t = true) :
    l'.reports t = true := by
  simp only [Level.reports, decide_eq_true_eq] at ht ⊢
  exact Nat.le_trans ht h

/-- What tells two issues of a file apart. -/
def Issue.marker (i : Issue) : String × Int × Int := (i.key, i.line, i.column)

namespace Report

variable {language : Language} {file : String} {table : Table} {level : Level}

/-! ### The issue of a use -/

/-- The issue of a use on its own. -/
def issue? (language : Language) (file : String) (table : Table) (level : Level) (u : Use) :
    Option Issue :=
  (reported? table level u).map fun f ↦ issueOf language file f u

theorem reported?_eq_some_iff {u : Use} {f : Feature} :
    reported? table level u = some f ↔
      table.lookup u.key = some f ∧ level.reports f.tier = true := by
  unfold reported?
  cases hlookup : table.lookup u.key with
  | none => simp
  | some g =>
      by_cases hg : level.reports g.tier = true
      · simp only [hg, if_true, Option.some.injEq]
        constructor
        · rintro rfl
          exact ⟨rfl, hg⟩
        · exact fun h ↦ h.1
      · simp only [hg]
        constructor
        · intro h
          simp at h
        · rintro ⟨hgf, hf⟩
          rw [Option.some.inj hgf] at hg
          exact absurd hf hg

theorem reported?_congr {u v : Use} (h : u.marker = v.marker) :
    reported? table level u = reported? table level v := by
  have hkey : u.key = v.key := congrArg Prod.fst h
  rw [reported?, reported?, hkey]

/-- A lower level keeps the issues of a higher one that it reports, as they are. -/
theorem issue?_of_le {l l' : Level} (h : l ≤ l') (u : Use) :
    issue? language file table l u =
      (issue? language file table l' u).filter fun i ↦ l.reports i.tier := by
  simp only [issue?, reported?]
  cases table.lookup u.key with
  | none => rfl
  | some f =>
      have htier : (issueOf language file f u).tier = f.tier := rfl
      by_cases hf : l.reports f.tier = true
      · have hf' : l'.reports f.tier = true := Level.reports_of_le h hf
        simp [hf, hf', htier, Option.filter]
      · by_cases hf' : l'.reports f.tier = true
        · simp [hf, hf', htier, Option.filter]
        · simp [hf, hf']

/-! ### The first use of each marker -/

/-- The first use of each marker. -/
def firsts : List Use → List Use
  | [] => []
  | u :: rest => u :: (firsts rest).filter fun v ↦ v.marker ≠ u.marker

theorem firsts_sublist (uses : List Use) : (firsts uses).Sublist uses := by
  induction uses with
  | nil => exact List.Sublist.refl _
  | cons u rest ih => exact (List.filter_sublist.trans ih).cons_cons u

theorem firsts_subset (uses : List Use) : firsts uses ⊆ uses := (firsts_sublist uses).subset

/-- The uses that a list of markers does not rule out. -/
def fresh (seen : List (String × Int × Int)) (uses : List Use) : List Use :=
  uses.filter fun u ↦ u.marker ∉ seen

theorem fresh_cons (m : String × Int × Int) (seen : List (String × Int × Int)) (uses : List Use) :
    fresh (m :: seen) uses = fresh seen (uses.filter fun u ↦ u.marker ≠ m) := by
  rw [fresh, fresh, List.filter_filter]
  refine List.filter_congr fun u _ ↦ ?_
  simp [Bool.and_comm]

theorem fresh_filter_of_mem {m : String × Int × Int} {seen : List (String × Int × Int)}
    (h : m ∈ seen) (uses : List Use) :
    fresh seen (uses.filter fun u ↦ u.marker ≠ m) = fresh seen uses := by
  rw [← fresh_cons]
  refine List.filter_congr fun u _ ↦ ?_
  have hmem : u.marker ∈ m :: seen ↔ u.marker ∈ seen := by
    constructor
    · intro hu
      rcases List.mem_cons.mp hu with rfl | hu
      · exact h
      · exact hu
    · exact List.mem_cons_of_mem m
  simp only [hmem]

/-- Uses that share their marker with a use that is not reported do not matter. -/
theorem filterMap_issue?_of_not_reported {u : Use} (hu : reported? table level u = none)
    (uses : List Use) :
    (uses.filter fun v ↦ v.marker ≠ u.marker).filterMap (issue? language file table level) =
      uses.filterMap (issue? language file table level) := by
  rw [List.filterMap_filter]
  refine List.filterMap_congr fun v _ ↦ ?_
  by_cases hv : v.marker = u.marker
  · have hnone : reported? table level v = none := (reported?_congr hv).trans hu
    simp [hv, issue?, hnone]
  · simp [hv]

/-- The loop leaves out what the markers in hand rule out and nothing else.  The marker of a use
that is not reported never comes in hand, but it would rule out nothing. -/
theorem issuesFrom_eq_filterMap (seen : List (String × Int × Int)) (uses : List Use) :
    issuesFrom language file table level seen uses =
      (fresh seen (firsts uses)).filterMap (issue? language file table level) := by
  induction uses generalizing seen with
  | nil => rfl
  | cons u rest ih =>
      have hfresh : fresh seen (firsts (u :: rest)) =
          fresh seen [u] ++ fresh seen ((firsts rest).filter fun v ↦ v.marker ≠ u.marker) :=
        List.filter_append [u] _
      rw [issuesFrom, hfresh, List.filterMap_append]
      cases hu : reported? table level u with
      | none =>
          have hnone : (fresh seen [u]).filterMap (issue? language file table level) = [] := by
            refine List.filterMap_eq_nil_iff.mpr fun v hv ↦ ?_
            obtain rfl : v = u := List.mem_singleton.mp (List.mem_of_mem_filter hv)
            simp [issue?, hu]
          rw [hnone, fresh, List.filter_comm, filterMap_issue?_of_not_reported hu]
          exact ih seen
      | some f =>
          by_cases hseen : u.marker ∈ seen
          · rw [fresh_filter_of_mem hseen, ← ih]
            simp [fresh, hseen]
          · rw [← fresh_cons, ← ih]
            simp [fresh, hseen, issue?, hu]

/-! ### The issues of a list of uses -/

/-- The issues of a list of uses are those of the first use of each marker. -/
theorem issues_eq_filterMap (uses : List Use) :
    issues language file table level uses =
      (firsts uses).filterMap (issue? language file table level) := by
  rw [issues, issuesFrom_eq_filterMap]
  simp [fresh]

theorem issues_of_le {l l' : Level} (h : l ≤ l') (uses : List Use) :
    issues language file table l uses =
      (issues language file table l' uses).filter fun i ↦ l.reports i.tier := by
  rw [issues_eq_filterMap, issues_eq_filterMap, List.filter_filterMap]
  exact List.filterMap_congr fun u _ ↦ issue?_of_le h u

/-- An issue comes from a use whose key the table resolves to a feature that the level reports. -/
theorem exists_use_of_mem_issues {uses : List Use} {i : Issue}
    (h : i ∈ issues language file table level uses) :
    ∃ u ∈ uses, ∃ f, table.lookup u.key = some f ∧ level.reports f.tier = true ∧
      i = issueOf language file f u := by
  rw [issues_eq_filterMap] at h
  obtain ⟨u, hu, hissue⟩ := List.mem_filterMap.mp h
  obtain ⟨f, hf, rfl⟩ := Option.map_eq_some_iff.mp hissue
  obtain ⟨hlookup, hreports⟩ := reported?_eq_some_iff.mp hf
  exact ⟨u, firsts_subset uses hu, f, hlookup, hreports, rfl⟩

/-! ### One issue for each marker -/

/-- Leaving out markers and leaving out repetitions of markers can change places. -/
theorem firsts_filter (keep : String × Int × Int → Bool) (uses : List Use) :
    firsts (uses.filter fun u ↦ keep u.marker) = (firsts uses).filter fun u ↦ keep u.marker := by
  induction uses with
  | nil => rfl
  | cons u rest ih =>
      cases hu : keep u.marker with
      | true =>
          rw [List.filter_cons_of_pos (by exact hu), firsts, firsts, ih,
            List.filter_cons_of_pos (by exact hu), List.filter_comm]
      | false =>
          have hkept : ∀ v ∈ (firsts rest).filter (fun v ↦ keep v.marker),
              v.marker ≠ u.marker := by
            intro v hv heq
            have hv := (List.mem_filter.mp hv).2
            rw [heq, hu] at hv
            exact Bool.false_ne_true hv
          rw [List.filter_cons_of_neg (by simp [hu]), firsts, ih,
            List.filter_cons_of_neg (by simp [hu]), List.filter_comm]
          exact (List.filter_eq_self.mpr fun v hv ↦ decide_eq_true (hkept v hv)).symm

theorem firsts_cons (u : Use) (rest : List Use) :
    firsts (u :: rest) = u :: firsts (rest.filter fun v ↦ v.marker ≠ u.marker) := by
  rw [firsts, firsts_filter fun m ↦ decide (m ≠ u.marker)]

/-- Lists of uses by their first uses: what is left after one are the uses with other markers. -/
theorem induction_on_firsts {motive : List Use → Prop} (nil : motive [])
    (cons : ∀ u rest, motive (rest.filter fun v ↦ v.marker ≠ u.marker) → motive (u :: rest))
    (uses : List Use) : motive uses := by
  induction hn : uses.length using Nat.strongRecOn generalizing uses with
  | ind n ih =>
      cases uses with
      | nil => exact nil
      | cons u rest =>
          have hle := List.length_filter_le (fun v : Use ↦ decide (v.marker ≠ u.marker)) rest
          rw [List.length_cons] at hn
          exact cons u rest (ih _ (by omega) _ rfl)

theorem firsts_eq_eraseDupsBy (uses : List Use) :
    firsts uses = uses.eraseDupsBy fun u v ↦ u.marker == v.marker := by
  induction uses using induction_on_firsts with
  | nil => rfl
  | cons u rest ih =>
      rw [firsts_cons, List.eraseDupsBy_cons, ih]
      simp only [beq_eq_false_iff_ne]

theorem map_marker_firsts (uses : List Use) :
    (firsts uses).map Use.marker = (uses.map Use.marker).eraseDups := by
  induction uses using induction_on_firsts with
  | nil => rfl
  | cons u rest ih =>
      rw [firsts_cons, List.map_cons, ih, List.map_cons, List.eraseDups_cons, List.filter_map]
      congr 4
      funext v
      exact decide_not.trans (congrArg _ (beq_eq_decide _ _).symm)

/-- No use before the first use of a marker has this marker. -/
theorem exists_split_of_mem_firsts {uses : List Use} {u : Use} (h : u ∈ firsts uses) :
    ∃ before after, uses = before ++ u :: after ∧ u.marker ∉ before.map Use.marker := by
  induction uses with
  | nil => simp [firsts] at h
  | cons v rest ih =>
      rcases List.mem_cons.mp h with rfl | h
      · exact ⟨[], rest, rfl, by simp⟩
      · obtain ⟨hmem, hne⟩ := List.mem_filter.mp h
        obtain ⟨before, after, rfl, hbefore⟩ := ih hmem
        refine ⟨v :: before, after, rfl, ?_⟩
        rw [List.map_cons, List.mem_cons, not_or]
        exact ⟨of_decide_eq_true hne, hbefore⟩

theorem reported?_eq_filter (u : Use) :
    reported? table level u = (table.lookup u.key).filter fun f ↦ level.reports f.tier := by
  rw [reported?]
  cases table.lookup u.key with
  | none => rfl
  | some f => rfl

theorem map_marker_filterMap_issue? (uses : List Use) :
    (uses.filterMap (issue? language file table level)).map Issue.marker =
      (uses.filter fun u ↦ (table.lookup u.key).any fun f ↦ level.reports f.tier).map
        Use.marker := by
  induction uses with
  | nil => rfl
  | cons u rest ih =>
      have hu : issue? language file table level u =
          ((table.lookup u.key).filter fun f ↦ level.reports f.tier).map
            fun f ↦ issueOf language file f u := by
        rw [issue?, reported?_eq_filter]
      cases hlookup : table.lookup u.key with
      | none => simp [hu, hlookup, ih]
      | some f =>
          cases hf : level.reports f.tier with
          | false => simp [hu, hlookup, hf, ih]
          | true => simp [hu, hlookup, hf, ih, Issue.marker, Use.marker, issueOf, Issue.create]

/-! ### Lists of uses with the same first uses -/

theorem mem_map_marker_firsts {uses : List Use} {m : String × Int × Int} :
    m ∈ (firsts uses).map Use.marker ↔ m ∈ uses.map Use.marker := by
  rw [map_marker_firsts, List.mem_eraseDups]

theorem firsts_append (uses more : List Use) :
    firsts (uses ++ more) =
      firsts uses ++ (firsts more).filter fun v ↦ v.marker ∉ uses.map Use.marker := by
  induction uses with
  | nil => simp [firsts]
  | cons u rest ih =>
      rw [List.cons_append, firsts, ih, List.filter_append, List.filter_filter, firsts,
        List.cons_append]
      congr 2
      refine List.filter_congr fun v _ ↦ ?_
      simp [not_or]

/-- First uses can be found list by list. -/
theorem firsts_append_congr {uses uses' more more' : List Use} (huses : firsts uses = firsts uses')
    (hmore : firsts more = firsts more') : firsts (uses ++ more) = firsts (uses' ++ more') := by
  have hmarkers : ∀ m, m ∈ uses.map Use.marker ↔ m ∈ uses'.map Use.marker := by
    intro m
    rw [← mem_map_marker_firsts, huses, mem_map_marker_firsts]
  rw [firsts_append, firsts_append, huses, hmore]
  simp only [hmarkers]

theorem firsts_flatMap_congr {α : Type} {xs : List α} {f g : α → List Use}
    (h : ∀ x ∈ xs, firsts (f x) = firsts (g x)) :
    firsts (xs.flatMap f) = firsts (xs.flatMap g) := by
  induction xs with
  | nil => rfl
  | cons x rest ih =>
      obtain ⟨hx, hrest⟩ := List.forall_mem_cons.mp h
      rw [List.flatMap_cons, List.flatMap_cons]
      exact firsts_append_congr hx (ih hrest)

/-- A use that is said twice in a row may as well be said once. -/
theorem firsts_twice (u? : Option Use) (uses : List Use) :
    firsts (u?.toList ++ (u?.toList ++ uses)) = firsts (u?.toList ++ uses) := by
  cases u? with
  | none => rfl
  | some u =>
      have hleft : (u :: uses).filter (fun v ↦ v.marker ≠ u.marker) =
          uses.filter fun v ↦ v.marker ≠ u.marker := List.filter_cons_of_neg (by simp)
      rw [Option.toList_some, List.singleton_append, List.singleton_append, firsts_cons, hleft,
        firsts_cons]

theorem issues_congr {uses uses' : List Use} (h : firsts uses = firsts uses') :
    issues language file table level uses = issues language file table level uses' := by
  rw [issues_eq_filterMap, issues_eq_filterMap, h]

theorem nodup_map_marker_firsts (uses : List Use) : ((firsts uses).map Use.marker).Nodup := by
  induction uses using induction_on_firsts with
  | nil => exact List.nodup_nil
  | cons u rest ih =>
      rw [firsts_cons, List.map_cons, List.nodup_cons]
      refine ⟨?_, ih⟩
      rw [mem_map_marker_firsts]
      simp

/-- No two issues have the key, the line and the column in common. -/
theorem nodup_map_marker_issues (language : Language) (file : String) (table : Table)
    (level : Level) (uses : List Use) :
    ((issues language file table level uses).map Issue.marker).Nodup := by
  rw [issues_eq_filterMap, map_marker_filterMap_issue?]
  exact (nodup_map_marker_firsts uses).sublist (List.filter_sublist.map _)

theorem mem_map_marker_issues {uses : List Use} {m : String × Int × Int} :
    m ∈ (issues language file table level uses).map Issue.marker ↔
      m ∈ uses.map Use.marker ∧
        ((table.lookup m.1).any fun f ↦ level.reports f.tier) = true := by
  rw [issues_eq_filterMap, map_marker_filterMap_issue?, List.mem_map, ← mem_map_marker_firsts,
    List.mem_map]
  constructor
  · rintro ⟨u, hu, rfl⟩
    obtain ⟨hu, hreported⟩ := List.mem_filter.mp hu
    exact ⟨⟨u, hu, rfl⟩, hreported⟩
  · rintro ⟨⟨u, hu, rfl⟩, hreported⟩
    exact ⟨u, List.mem_filter.mpr ⟨hu, hreported⟩, rfl⟩

/-- Where a use is found, its key is reported once if the level reports it at all. -/
theorem count_marker_issues {uses : List Use} {u : Use} (hu : u ∈ uses) :
    ((issues language file table level uses).map Issue.marker).count u.marker =
      if (table.lookup u.key).any fun f ↦ level.reports f.tier then 1 else 0 := by
  rw [(nodup_map_marker_issues language file table level uses).count]
  simp only [mem_map_marker_issues, List.mem_map_of_mem hu, true_and]
  rfl

/-! ### The first use wins -/

theorem nonempty_eq_filter (text : Option String) :
    Issue.nonempty text = text.filter fun s ↦ s ≠ "" := by
  cases text with
  | none => rfl
  | some s => by_cases hs : s = "" <;> simp [Issue.nonempty, Option.filter, hs]

/-- Reporting is complete and without repetitions, and the first use wins.  The markers of the
issues are those of the uses whose feature the level reports, each once and in the order in which
they first occur.  Each issue is made from the first use of its marker.  It comes to the same to
drop the repetitions among all uses first and to look the uses up afterwards. -/
theorem issues_first_wins (language : Language) (file : String) (table : Table) (level : Level)
    (uses : List Use) :
    (issues language file table level uses).map Issue.marker =
      ((uses.filter fun u ↦ (table.lookup u.key).any fun f ↦ level.reports f.tier).map
        Use.marker).eraseDups ∧
    (∀ i ∈ issues language file table level uses,
      ∃ before u after f, uses = before ++ u :: after ∧ u.marker ∉ before.map Use.marker ∧
        table.lookup u.key = some f ∧ level.reports f.tier = true ∧
        i = issueOf language file f u ∧ i.marker = u.marker ∧
        i.property = u.property.filter (fun s ↦ s ≠ "") ∧
        i.value = u.value.filter fun s ↦ s ≠ "") ∧
    issues language file table level uses =
      (uses.eraseDupsBy fun u v ↦ u.marker == v.marker).filterMap fun u ↦
        ((table.lookup u.key).filter fun f ↦ level.reports f.tier).map fun f ↦
          issueOf language file f u := by
  refine ⟨?_, ?_, ?_⟩
  · rw [issues_eq_filterMap, map_marker_filterMap_issue?, ← map_marker_firsts]
    exact congrArg _ (firsts_filter
      (fun m ↦ (table.lookup m.1).any fun f ↦ level.reports f.tier) uses).symm
  · intro i hi
    rw [issues_eq_filterMap] at hi
    obtain ⟨u, hu, hissue⟩ := List.mem_filterMap.mp hi
    obtain ⟨f, hf, rfl⟩ := Option.map_eq_some_iff.mp hissue
    obtain ⟨hlookup, hreports⟩ := reported?_eq_some_iff.mp hf
    obtain ⟨before, after, huses, hfirst⟩ := exists_split_of_mem_firsts hu
    exact ⟨before, u, after, f, huses, hfirst, hlookup, hreports, rfl, rfl,
      nonempty_eq_filter u.property, nonempty_eq_filter u.value⟩
  · rw [issues_eq_filterMap, firsts_eq_eraseDupsBy]
    refine List.filterMap_congr fun u _ ↦ ?_
    rw [issue?, reported?_eq_filter]

end Report

end WebBaseline

import WebBaseline.Proofs.Glob
import WebBaseline.Proofs.Search
import WebBaseline.Scan

/-!
# The files of a scan

A folder that an exclude pattern covers holds nothing that the options select, so the search for
files may pass it over.  The listing of a folder is then exactly the selected files which names
lead to through folders, in the order of their paths from the root.
-/

namespace WebBaseline

/-- Nothing below a folder that is passed over is selected. -/
theorem Options.selects_of_prunes {o : Options} {folder : String} (h : o.prunes folder = true)
    (rest : String) : o.selects (folder ++ "/" ++ rest) = false := by
  simp only [prunes, List.any_eq_true, Bool.and_eq_true] at h
  obtain ⟨p, hp, hcovers, haccepts⟩ := h
  have hexcluded : o.excludePatterns.any (fun p ↦ Glob.accepts p (folder ++ "/" ++ rest)) = true :=
    List.any_eq_true.mpr ⟨p, hp, Glob.accepts_append hcovers haccepts rest⟩
  simp [selects, hexcluded]

theorem Options.selects_eq_true_iff (o : Options) (relative : String) :
    o.selects relative = true ↔
      (∃ p ∈ o.includePatterns, Glob.accepts p relative = true) ∧
        ∀ p ∈ o.excludePatterns, Glob.accepts p relative = false := by
  simp [selects]

namespace Scan

open FileSystem FileTree

theorem searchFor_sound (files : FileSystem) (o : Options) (root : Path) :
    (searchFor files o root).Sound :=
  fun _ rest h ↦ Options.selects_of_prunes h rest

/-- An entry that is no folder is a file for the system if it is one, or a link to one. -/
theorem isFile_below_iff {files : FileSystem} (hwf : files.WellFormed) {root : Path}
    {t u : FileTree}
    (hroot : files.stat root = .ok t) {names : List String} (h : t.Leads names u)
    (hu : ∀ entries, u ≠ .folder entries) :
    files.isFile (root.below names) = true ↔
      (∃ bytes, u = .file bytes) ∨
        (∃ target, u = .link target) ∧ files.isFile (root.below names) = true := by
  cases u with
  | folder entries => exact absurd rfl (hu entries)
  | link target => simp
  | file bytes =>
      have hstat := stat_below_of_leads hwf hroot h (by simp)
      simp [isFile, hstat]

/-- The listing of a folder: the files below it, and the links to files, that an include pattern
matches and no exclude pattern does, each once and in the order of their paths.  Passing folders
over and the order in which folders are listed do not show.  Every entry can be looked at here: a
listing that ends because a name is too long, or an entry is not to be looked at, is not covered. -/
theorem listFiles_exact {files : FileSystem} (hwf : files.WellFormed) (o : Options) {root : Path}
    {entries : List (String × FileTree)} (hroot : files.stat root = .ok (.folder entries)) :
    (∃ found : List (List String),
      listFiles files o root = found.map root.below ∧
      (found.map Search.relative).Pairwise (· < ·) ∧
      ∀ names, names ∈ found ↔
        ((∃ bytes, (folder entries).Leads names (.file bytes)) ∨
          (∃ target, (folder entries).Leads names (.link target)) ∧
            files.isFile (root.below names) = true) ∧
        (∃ p ∈ o.includePatterns, Glob.accepts p (Search.relative names) = true) ∧
        ∀ p ∈ o.excludePatterns, Glob.accepts p (Search.relative names) = false) ∧
    ∀ listing : Listing,
      Search.run { searchFor files o root with listing } = listFiles files o root ∧
      Search.run { searchFor files o root with prunes := fun _ ↦ false, listing } =
        listFiles files o root := by
  have hsound := searchFor_sound files o root
  refine ⟨?_, fun listing ↦ ⟨?_, ?_⟩⟩
  · obtain ⟨found, hrun, hsorted, hfound⟩ := Search.exists_run_eq hsound hwf hroot
    refine ⟨found, hrun, hsorted, fun names ↦ ?_⟩
    rw [hfound, ← Options.selects_eq_true_iff]
    constructor
    · rintro ⟨u, hleads, hu, hfile, hselects⟩
      refine ⟨?_, hselects⟩
      rcases (isFile_below_iff hwf hroot hleads hu).mp hfile with ⟨bytes, rfl⟩ | ⟨⟨target, rfl⟩, h⟩
      · exact Or.inl ⟨bytes, hleads⟩
      · exact Or.inr ⟨⟨target, hleads⟩, h⟩
    · rintro ⟨⟨bytes, hleads⟩ | ⟨⟨target, hleads⟩, hfile⟩, hselects⟩
      · have hfile := (isFile_below_iff hwf hroot hleads (by simp)).mpr (Or.inl ⟨bytes, rfl⟩)
        exact ⟨_, hleads, by simp, hfile, hselects⟩
      · exact ⟨_, hleads, by simp, hfile, hselects⟩
  · exact Search.run_eq_of_sound hsound hwf hroot hsound
  · exact Search.run_eq_of_sound hsound hwf hroot fun _ _ h ↦ by simp at h

/-- A folder that holds a link to itself, a link to a file, and a folder that is passed over. -/
theorem listFiles_exact_linked :
    let web : FileTree := .folder
      [("a.css", .file []), ("c.css", .link "/web/a.css"), ("loop", .link "."),
        ("node_modules", .folder [("b.css", .file [])])]
    let files : FileSystem := { top := .folder [("web", web)], here := ["web"] }
    ∃ found : List (List String),
      listFiles files .default (.ofText ".") = found.map (Path.ofText ".").below ∧
        ["c.css"] ∈ found ∧ ["node_modules", "b.css"] ∉ found := by
  intro web files
  have hinner : (folder [("b.css", .file [])]).WellFormed :=
    .folder (by decide) (by simp [ValidName]) (by simpa using .file [])
  have hweb : web.WellFormed :=
    .folder (by decide) (by simp [ValidName])
      (by simpa using ⟨.file [], .link _, .link _, hinner⟩)
  have hwf : files.WellFormed := .folder (by decide) (by simp [ValidName]) (by simpa using hweb)
  have hroot : files.stat (.ofText ".") = .ok web := by cbv
  obtain ⟨⟨found, hlist, -, hfound⟩, -⟩ := listFiles_exact hwf .default hroot
  refine ⟨found, hlist, (hfound _).mpr ⟨Or.inr ⟨⟨"/web/a.css", ?_⟩, ?_⟩, ?_, ?_⟩, fun h ↦ ?_⟩
  · exact .inside (by simp) (.here _)
  · cbv
  · exact ⟨"**/*.css", by decide, by cbv⟩
  · decide
  · have hexcluded := ((hfound _).mp h).2.2 "**/node_modules/**" (by decide)
    exact absurd hexcluded (by decide)

end Scan

end WebBaseline

import Mathlib.Data.List.Nodup
import Mathlib.Data.List.Perm.Basic
import Mathlib.Data.String.Basic
import WebBaseline.Proofs.FileSystem
import WebBaseline.Search

/-!
# What a search finds

The loop over a stack of folders finds, in some order, what one recursion over the tree finds.  If
the folders that are passed over hold no wanted file, that is every wanted file which names lead to
from the root, each once.  Different files have different paths from the root, so sorting by these
paths leaves one list only: neither the order in which folders are listed nor passing folders over
shows in it.
-/

namespace WebBaseline.Search

open FileSystem FileTree

/-! ### Paths from the root -/

theorem relative_append {names more : List String} (hnames : names ≠ []) (hmore : more ≠ []) :
    relative (names ++ more) = relative names ++ "/" ++ relative more :=
  String.intercalate_append_of_ne_nil hnames hmore

/-- Names without slashes can be read off a path. -/
theorem relative_injective {a b : List String} (ha : ∀ n ∈ a, '/' ∉ n.toList)
    (hb : ∀ n ∈ b, '/' ∉ n.toList) (hane : a ≠ []) (hbne : b ≠ [])
    (h : relative a = relative b) : a = b := by
  have hsplit := String.toList_split_intercalate ha
  have hsplit' := String.toList_split_intercalate hb
  rw [if_neg hane] at hsplit
  rw [if_neg hbne] at hsplit'
  rw [← hsplit, ← hsplit']
  exact congrArg (fun text : String ↦ (text.split '/').toList.map (·.copy)) h

/-! ### The recursion over the tree -/

/-- The wanted files at and below an entry, by their names from the root. -/
def wantedAt (s : Search) (names : List String) : FileTree → List (List String)
  | .folder entries =>
      if s.prunes (relative names) then []
      else entries.flatMap fun e ↦ wantedAt s (names ++ [e.1]) e.2
  | _ =>
      if s.files.isFile (s.root.below names) && s.selects (relative names) then [names] else []
termination_by t => sizeOf t
decreasing_by
  rename_i he
  obtain ⟨name, t⟩ := e
  have hlt := List.sizeOf_lt_of_mem he
  simp only [Prod.mk.sizeOf_spec, FileTree.folder.sizeOf_spec] at hlt ⊢
  omega

theorem wantedAt_folder (s : Search) (names : List String)
    (entries : List (String × FileTree)) :
    s.wantedAt names (.folder entries) =
      if s.prunes (relative names) then []
      else entries.flatMap fun e ↦ s.wantedAt (names ++ [e.1]) e.2 := by
  rw [wantedAt]

theorem wantedAt_of_not_folder (s : Search) (names : List String) {t : FileTree}
    (ht : ∀ entries, t ≠ .folder entries) :
    s.wantedAt names t =
      if s.files.isFile (s.root.below names) && s.selects (relative names) then [names]
      else [] := by
  rw [wantedAt]
  exact ht

/-- The wanted files below a folder that is listed. -/
def wantedIn (s : Search) (folder : Pending) : List (List String) :=
  folder.entries.flatMap fun e ↦ s.wantedAt (folder.names ++ [e.1]) e.2

/-- What the search notes about a file. -/
def item (s : Search) (names : List String) : String × Path :=
  (relative names, s.root.below names)

/-- An entry adds a file or a folder, and with it what the recursion finds there. -/
theorem map_item_wantedAt (s : Search) (above : List String) (e : String × FileTree) :
    (s.wantedAt (above ++ [e.1]) e.2).map s.item =
      (s.file? above e).toList ++
        ((s.subfolder? above e).toList.flatMap s.wantedIn).map s.item := by
  obtain ⟨name, t⟩ := e
  cases t with
  | folder entries =>
      rw [wantedAt_folder]
      by_cases hprune : s.prunes (relative (above ++ [name])) = true
      · simp [file?, subfolder?, hprune]
      · simp [file?, subfolder?, hprune, wantedIn]
  | file bytes =>
      rw [wantedAt_of_not_folder s _ (by simp)]
      split <;> simp_all [file?, subfolder?, item]
  | link target =>
      rw [wantedAt_of_not_folder s _ (by simp)]
      split <;> simp_all [file?, subfolder?, item]

/-- A listed folder adds its files, and its folders what the recursion finds there. -/
theorem map_item_wantedIn_perm (s : Search) (folder : Pending) :
    ((s.wantedIn folder).map s.item).Perm
      (s.filesOf folder ++ ((s.subfolders folder).flatMap s.wantedIn).map s.item) := by
  have hlisted : (s.listed folder).Perm folder.entries := s.listing.perm _ _
  have hentries : (s.wantedIn folder).map s.item =
      folder.entries.flatMap fun e ↦ (s.file? folder.names e).toList ++
        ((s.subfolder? folder.names e).toList.flatMap s.wantedIn).map s.item := by
    rw [wantedIn, List.map_flatMap]
    exact congrArg folder.entries.flatMap (funext (map_item_wantedAt s folder.names))
  rw [hentries]
  refine (hlisted.symm.flatMap_right _).trans ?_
  refine (List.flatMap_append_perm _ _ _).symm.trans ?_
  rw [filesOf, subfolders, List.filterMap_eq_flatMap_toList, List.filterMap_eq_flatMap_toList,
    List.flatMap_assoc, List.map_flatMap]

/-- The loop finds what is left in the folders of the stack. -/
theorem gather_perm (s : Search) (stack : List Pending) (found : List (String × Path)) :
    (s.gather stack found).Perm (found ++ (stack.flatMap s.wantedIn).map s.item) := by
  fun_induction gather s stack found with
  | case1 found => simp
  | case2 folder stack found ih =>
      refine ih.trans ?_
      have hreverse : (((s.subfolders folder).reverse.flatMap s.wantedIn).map s.item).Perm
          (((s.subfolders folder).flatMap s.wantedIn).map s.item) :=
        ((List.reverse_perm _).flatMap_right _).map _
      have hfolder : (s.filesOf folder ++
          ((s.subfolders folder).reverse.flatMap s.wantedIn).map s.item).Perm
            ((s.wantedIn folder).map s.item) :=
        (hreverse.append_left _).trans (map_item_wantedIn_perm s folder).symm
      simpa [List.append_assoc] using
        (hfolder.append_right ((stack.flatMap s.wantedIn).map s.item)).append_left found

/-! ### Which files are wanted -/

/-- A search passes over a folder only if nothing below it is wanted. -/
def Sound (s : Search) : Prop :=
  ∀ folder rest, s.prunes folder = true → s.selects (folder ++ "/" ++ rest) = false

/-- An entry that is wanted if it is a file, by its names from the root. -/
def Wants (s : Search) (names : List String) : Prop :=
  s.files.isFile (s.root.below names) = true ∧ s.selects (relative names) = true

/-- The recursion finds the wanted files that names lead to. -/
theorem mem_wantedAt {s : Search} (hs : s.Sound) {names : List String} (hnames : names ≠ [])
    (t : FileTree) (x : List String) :
    x ∈ s.wantedAt names t ↔
      ∃ tail u, x = names ++ tail ∧ t.Leads tail u ∧ (∀ entries, u ≠ .folder entries) ∧
        s.Wants x := by
  fun_induction wantedAt s names t with
  | case1 names entries hprune =>
      simp only [List.not_mem_nil, false_iff]
      rintro ⟨tail, u, rfl, hleads, hu, -, hselects⟩
      have htail : tail ≠ [] := by
        rintro rfl
        cases hleads
        exact hu _ rfl
      rw [relative_append hnames htail, hs _ _ hprune] at hselects
      simp at hselects
  | case2 names entries hprune ih =>
      simp only [List.mem_flatMap]
      constructor
      · rintro ⟨e, he, hx⟩
        obtain ⟨tail, u, rfl, hleads, hu, hwants⟩ := (ih e he (by simp)).mp hx
        exact ⟨e.1 :: tail, u, by simp, .inside he hleads, hu, hwants⟩
      · rintro ⟨tail, u, rfl, hleads, hu, hwants⟩
        cases hleads with
        | here => exact absurd rfl (hu entries)
        | @inside _ name tail t _ he hrest =>
            refine ⟨(name, t), he, (ih (name, t) he (by simp)).mpr ?_⟩
            exact ⟨tail, u, by simp, hrest, hu, hwants⟩
  | case3 names t ht hwanted =>
      have hwants : s.Wants names := by simpa [Wants] using hwanted
      simp only [List.mem_singleton]
      constructor
      · rintro rfl
        exact ⟨[], t, by simp, .here t, ht, hwants⟩
      · rintro ⟨tail, u, rfl, hleads, -, -⟩
        cases hleads with
        | here => simp
        | inside => exact absurd rfl (ht _)
  | case4 names t ht hwanted =>
      simp only [List.not_mem_nil, false_iff]
      rintro ⟨tail, u, rfl, hleads, -, hwants⟩
      cases hleads with
      | here => exact hwanted (by simpa [Wants] using hwants)
      | inside => exact absurd rfl (ht _)

theorem mem_wantedIn {s : Search} (hs : s.Sound) (entries : List (String × FileTree))
    (x : List String) :
    x ∈ s.wantedIn { names := [], entries } ↔
      ∃ u, (FileTree.folder entries).Leads x u ∧ (∀ entries, u ≠ .folder entries) ∧
        s.Wants x := by
  simp only [wantedIn, List.mem_flatMap, List.nil_append]
  constructor
  · rintro ⟨e, he, hx⟩
    obtain ⟨tail, u, rfl, hleads, hu, hwants⟩ := (mem_wantedAt hs (by simp) e.2 x).mp hx
    exact ⟨u, .inside he hleads, hu, hwants⟩
  · rintro ⟨u, hleads, hu, hwants⟩
    cases hleads with
    | here => exact absurd rfl (hu entries)
    | @inside _ name tail t _ he hrest =>
        exact ⟨(name, t), he, (mem_wantedAt hs (by simp) t _).mpr
          ⟨tail, u, rfl, hrest, hu, hwants⟩⟩

/-! ### No file twice -/

theorem prefix_of_mem_wantedAt {s : Search} {names : List String} {t : FileTree}
    {x : List String} (h : x ∈ s.wantedAt names t) : names <+: x := by
  fun_induction wantedAt s names t with
  | case1 => simp at h
  | case2 names entries hprune ih =>
      obtain ⟨e, he, hx⟩ := List.mem_flatMap.mp h
      exact (List.prefix_append names [e.1]).trans (ih e he hx)
  | case3 => exact List.mem_singleton.mp h ▸ List.prefix_refl _
  | case4 => simp at h

theorem nodup_flatMap_wantedAt {s : Search} {names : List String}
    {entries : List (String × FileTree)} (hnames : (entries.map Prod.fst).Nodup)
    (h : ∀ e ∈ entries, (s.wantedAt (names ++ [e.1]) e.2).Nodup) :
    (entries.flatMap fun e ↦ s.wantedAt (names ++ [e.1]) e.2).Nodup := by
  refine List.nodup_flatMap.mpr ⟨h, ?_⟩
  refine (List.pairwise_map.mp hnames).imp ?_
  intro a b hab x hxa hxb
  have ha := prefix_of_mem_wantedAt hxa
  have hb := prefix_of_mem_wantedAt hxb
  have heq : names ++ [a.1] = names ++ [b.1] :=
    (List.prefix_of_prefix_length_le ha hb (by simp)).eq_of_length (by simp)
  exact hab (by simpa using heq)

theorem nodup_wantedAt {s : Search} {t : FileTree} (ht : t.WellFormed) (names : List String) :
    (s.wantedAt names t).Nodup := by
  induction ht generalizing names with
  | file bytes =>
      rw [wantedAt_of_not_folder s _ (by simp)]
      split <;> simp
  | link target =>
      rw [wantedAt_of_not_folder s _ (by simp)]
      split <;> simp
  | folder nodup valid below ih =>
      rw [wantedAt_folder]
      split
      · simp
      · exact nodup_flatMap_wantedAt nodup fun e he ↦ ih e he _

theorem validName_of_leads {t u : FileTree} {names : List String} (h : t.Leads names u)
    (ht : t.WellFormed) : ∀ n ∈ names, ValidName n := by
  induction h with
  | here => simp
  | inside mem rest ih =>
      intro n hn
      rcases List.mem_cons.mp hn with rfl | hn
      · exact ht.validName mem
      · exact ih (ht.of_mem mem) n hn

/-! ### Sorting by a key -/

section Sorting

variable {α : Type} (key : α → String)

theorem pairwise_mergeSort_key (l : List α) :
    (l.mergeSort fun a b ↦ key a ≤ key b).Pairwise fun a b ↦ key a ≤ key b := by
  have htrans : ∀ a b c, decide (key a ≤ key b) = true → decide (key b ≤ key c) = true →
      decide (key a ≤ key c) = true := by
    intro a b c hab hbc
    exact decide_eq_true (le_trans (of_decide_eq_true hab) (of_decide_eq_true hbc))
  have htotal : ∀ a b, (decide (key a ≤ key b) || decide (key b ≤ key a)) = true := by
    intro a b
    simpa using le_total (key a) (key b)
  exact (List.pairwise_mergeSort htrans htotal l).imp fun h ↦ of_decide_eq_true h

variable {key} {l l' : List α} (hkey : ∀ a ∈ l, ∀ b ∈ l, key a = key b → a = b)

include hkey

/-- Where a key tells the elements apart, sorting by it forgets the order of before. -/
theorem mergeSort_key_eq_of_perm (h : l.Perm l') :
    (l.mergeSort fun a b ↦ key a ≤ key b) = l'.mergeSort fun a b ↦ key a ≤ key b := by
  refine List.Perm.eq_of_pairwise ?_ (pairwise_mergeSort_key key l)
    (pairwise_mergeSort_key key l') ?_
  · intro a b ha hb hab hba
    exact hkey a (by simpa using ha) b (h.mem_iff.mpr (by simpa using hb)) (le_antisymm hab hba)
  · exact (List.mergeSort_perm l _).trans (h.trans (List.mergeSort_perm l' _).symm)

theorem pairwise_lt_mergeSort_key (h : l.Nodup) :
    (l.mergeSort fun a b ↦ key a ≤ key b).Pairwise fun a b ↦ key a < key b := by
  have hnodup := (List.mergeSort_perm l fun a b ↦ key a ≤ key b).nodup_iff.mpr h
  refine ((pairwise_mergeSort_key key l).and hnodup).imp_of_mem ?_
  rintro a b ha hb ⟨hle, hne⟩
  refine lt_of_le_of_ne hle fun heq ↦ hne ?_
  exact hkey a (by simpa using ha) b (by simpa using hb) heq

end Sorting

/-! ### The result of a search -/

section Result

variable {s : Search} (hs : s.Sound) (hwf : s.files.WellFormed)
  {entries : List (String × FileTree)} (hroot : s.files.stat s.root = .ok (.folder entries))

include hs hwf hroot

/-- Different wanted files have different paths from the root. -/
theorem relative_injOn_wantedIn :
    ∀ a ∈ s.wantedIn { names := [], entries }, ∀ b ∈ s.wantedIn { names := [], entries },
      relative a = relative b → a = b := by
  intro a ha b hb heq
  obtain ⟨u, hleads, hu, -⟩ := (mem_wantedIn hs entries a).mp ha
  obtain ⟨v, hleads', hv, -⟩ := (mem_wantedIn hs entries b).mp hb
  have hentries := wellFormed_of_stat hwf hroot
  refine relative_injective (fun n hn ↦ (validName_of_leads hleads hentries n hn).2.2.2)
    (fun n hn ↦ (validName_of_leads hleads' hentries n hn).2.2.2) ?_ ?_ heq
  · rintro rfl
    cases hleads
    exact hu _ rfl
  · rintro rfl
    cases hleads'
    exact hv _ rfl

/-- A search gives the files that the recursion finds, sorted by their paths from the root. -/
theorem run_eq_map_mergeSort :
    s.run = ((s.wantedIn { names := [], entries }).mergeSort
      fun a b ↦ relative a ≤ relative b).map s.root.below := by
  have hinj := relative_injOn_wantedIn hs hwf hroot
  have hperm : ((s.wantedIn { names := [], entries }).map s.item).Perm
      (s.gather [{ names := [], entries }] []) := by
    simpa using (gather_perm s [{ names := [], entries }] []).symm
  have hkey : ∀ a ∈ (s.wantedIn { names := [], entries }).map s.item,
      ∀ b ∈ (s.wantedIn { names := [], entries }).map s.item, a.1 = b.1 → a = b := by
    simp only [List.mem_map]
    rintro _ ⟨x, hx, rfl⟩ _ ⟨y, hy, rfl⟩ hxy
    rw [hinj x hx y hy hxy]
  rw [run, hroot]
  simp only
  rw [← mergeSort_key_eq_of_perm hkey hperm, ← List.map_mergeSort (f := s.item) (fun _ _ _ _ ↦ rfl),
    List.map_map]
  rfl

omit hs in
theorem nodup_wantedIn : (s.wantedIn { names := [], entries }).Nodup := by
  have hentries := wellFormed_of_stat hwf hroot
  exact nodup_flatMap_wantedAt hentries.nodup_names fun e he ↦
    nodup_wantedAt (hentries.of_mem he) _

/-- The files that a search gives: exactly the wanted ones, with paths that increase. -/
theorem exists_run_eq :
    ∃ found : List (List String), s.run = found.map s.root.below ∧
      (found.map relative).Pairwise (· < ·) ∧
      ∀ names, names ∈ found ↔
        ∃ u, (FileTree.folder entries).Leads names u ∧ (∀ entries, u ≠ .folder entries) ∧
          s.Wants names := by
  refine ⟨_, run_eq_map_mergeSort hs hwf hroot, ?_, fun names ↦ ?_⟩
  · exact List.pairwise_map.mpr (pairwise_lt_mergeSort_key
      (relative_injOn_wantedIn hs hwf hroot) (nodup_wantedIn hwf hroot))
  · rw [List.mem_mergeSort]
    exact mem_wantedIn hs entries names

/-- Two searches that want the same files give the same list, whatever they pass over and in
whatever order they list folders. -/
theorem run_eq_of_sound {prunes : String → Bool} {listing : Listing}
    (hs' : Sound { s with prunes, listing }) :
    run { s with prunes, listing } = s.run := by
  have hperm : (s.wantedIn { names := [], entries }).Perm
      (wantedIn { s with prunes, listing } { names := [], entries }) := by
    refine (List.perm_ext_iff_of_nodup (nodup_wantedIn hwf hroot)
      (nodup_wantedIn (s := { s with prunes, listing }) hwf hroot)).mpr fun names ↦ ?_
    exact (mem_wantedIn hs entries names).trans (mem_wantedIn hs' entries names).symm
  rw [run_eq_map_mergeSort hs hwf hroot, run_eq_map_mergeSort hs' hwf hroot,
    mergeSort_key_eq_of_perm (relative_injOn_wantedIn hs hwf hroot) hperm]

end Result

end WebBaseline.Search

import WebBaseline.FileSystem

/-!
# Searching folders

The files below a folder are found with a stack of folders that are still to be listed.  A folder
that the search prunes is not listed, and neither is a link to a folder, so that no folder is
listed twice.  The files come sorted by their paths from the root of the search.
-/

namespace WebBaseline

/-- The order in which the system lists each folder; a folder is known by its names from the root
of a search. -/
structure Listing where
  order : List String → List (String × FileTree) → List (String × FileTree)
  perm : ∀ names entries, (order names entries).Perm entries

def Listing.stored : Listing where
  order _ entries := entries
  perm _ _ := .refl _

/-- What is searched, which folders are passed over and which files are wanted; both are told by
the path from the root. -/
structure Search where
  files : FileSystem
  root : Path
  prunes : String → Bool
  selects : String → Bool
  listing : Listing := .stored

namespace Search

def relative (names : List String) : String :=
  "/".intercalate names

structure Pending where
  names : List String
  entries : List (String × FileTree)

def subfolder? (s : Search) (above : List String) : String × FileTree → Option Pending
  | (name, .folder entries) =>
      let names := above ++ [name]
      if s.prunes (relative names) then none else some { names, entries }
  | _ => none

/-- The file that an entry adds to those that were found; a link counts as what it leads to. -/
def file? (s : Search) (above : List String) : String × FileTree → Option (String × Path)
  | (_, .folder _) => none
  | (name, _) =>
      let names := above ++ [name]
      let path := s.root.below names
      if s.files.isFile path && s.selects (relative names) then some (relative names, path)
      else none

def listed (s : Search) (folder : Pending) : List (String × FileTree) :=
  s.listing.order folder.names folder.entries

def subfolders (s : Search) (folder : Pending) : List Pending :=
  (s.listed folder).filterMap (s.subfolder? folder.names)

def filesOf (s : Search) (folder : Pending) : List (String × Path) :=
  (s.listed folder).filterMap (s.file? folder.names)

noncomputable def weight : List Pending → Nat
  | [] => 0
  | folder :: stack => sizeOf folder.entries + weight stack

theorem weight_append (xs ys : List Pending) : weight (xs ++ ys) = weight xs + weight ys := by
  induction xs with
  | nil => simp [weight]
  | cons folder xs ih =>
      simp only [List.cons_append, weight, ih]
      omega

theorem weight_reverse (xs : List Pending) : weight xs.reverse = weight xs := by
  induction xs with
  | nil => rfl
  | cons folder xs ih =>
      simp only [List.reverse_cons, weight_append, weight, ih]
      omega

/-- A folder weighs the same in whatever order it is listed. -/
theorem sizeOf_eq_of_perm {xs ys : List (String × FileTree)} (h : xs.Perm ys) :
    sizeOf xs = sizeOf ys := by
  induction h with
  | nil => rfl
  | cons e _ ih => simp only [List.cons.sizeOf_spec, ih]
  | swap e e' l =>
      simp only [List.cons.sizeOf_spec]
      omega
  | trans _ _ ih ih' => exact ih.trans ih'

theorem sizeOf_subfolder?_lt {s : Search} {above : List String} {e : String × FileTree}
    {p : Pending} (h : s.subfolder? above e = some p) : sizeOf p.entries < sizeOf e := by
  obtain ⟨name, t⟩ := e
  cases t with
  | file bytes => simp [subfolder?] at h
  | link target => simp [subfolder?] at h
  | folder entries =>
      simp only [subfolder?] at h
      split at h
      · simp at h
      · cases h
        simp only [Prod.mk.sizeOf_spec, FileTree.folder.sizeOf_spec]
        omega

/-- The folders of a list of entries weigh less than the entries. -/
theorem weight_filterMap_lt (s : Search) (above : List String)
    (entries : List (String × FileTree)) :
    weight (entries.filterMap (s.subfolder? above)) < sizeOf entries := by
  induction entries with
  | nil => simp [weight]
  | cons e rest ih =>
      rw [List.filterMap_cons, List.cons.sizeOf_spec]
      cases h : s.subfolder? above e with
      | none =>
          simp only
          omega
      | some p =>
          have hp := sizeOf_subfolder?_lt h
          simp only [weight]
          omega

/-- Lists the folders of a stack, the one on top first, and those that they hold. -/
def gather (s : Search) : List Pending → List (String × Path) → List (String × Path)
  | [], found => found
  | folder :: stack, found =>
      gather s ((s.subfolders folder).reverse ++ stack) (found ++ s.filesOf folder)
termination_by stack => weight stack
decreasing_by
  have hlt := weight_filterMap_lt s folder.names (s.listed folder)
  have hlisted := sizeOf_eq_of_perm (s.listing.perm folder.names folder.entries)
  simp only [subfolders, listed, weight_append, weight_reverse, weight] at hlt ⊢
  omega

/-- The wanted files below the root, sorted by their paths from it. -/
def run (s : Search) : List Path :=
  match s.files.stat s.root with
  | .ok (.folder entries) =>
      ((s.gather [{ names := [], entries }] []).mergeSort fun a b ↦ a.1 ≤ b.1).map Prod.snd
  | _ => []

end Search

end WebBaseline

import WebBaseline.FileSystem

/-!
# Places in a file system

Looking up a path may lead through links and back through parent folders.  `trace` does the same
walk and remembers, for every entry it stands at, its place: the names that lead to it from the top
through folders only.  Two paths that end at one place read one file.

The main statement is a frame condition: after the bytes of a file have been replaced, the paths
that lead to its place read the new bytes, and every other path reads what it read before.
-/

namespace WebBaseline

namespace FileTree

/-- The entry that one stands at, with its place. -/
def standing (top : FileTree) (above : List (List String × FileTree)) : List String × FileTree :=
  above.headD ([], top)

/-- The walk of `walk` with the place of every entry beside it. -/
def trace (top : FileTree) (links : Nat) (above : List (List String × FileTree))
    (names : List String) : Except OsError (List String × FileTree) :=
  match names with
  | [] => .ok (standing top above)
  | name :: rest =>
      match (standing top above).2 with
      | .folder entries =>
          if name = "" || name = "." then trace top links above rest
          else if name = ".." then trace top links above.tail rest
          else
            match find? name entries with
            | none => .error .missing
            | some (.link target) =>
                match links with
                | 0 => .error .tooManyLinks
                | left + 1 =>
                    let start := if (Path.ofText target).isAbsolute then [] else above
                    trace top left start (Path.pieces target ++ rest)
            | some t => trace top links (((standing top above).1 ++ [name], t) :: above) rest
      | _ => .error .notFolder
termination_by (links, names.length)

variable {top : FileTree}

theorem headD_map_snd (above : List (List String × FileTree)) :
    (above.map Prod.snd).headD top = (standing top above).2 := by
  cases above <;> rfl

/-- Remembering places does not change where a walk leads. -/
theorem walk_eq_trace (links : Nat) (above : List (List String × FileTree))
    (names : List String) :
    walk top links (above.map Prod.snd) names = (trace top links above names).map Prod.snd := by
  fun_induction trace top links above names with
  | case1 =>
      rw [walk, headD_map_snd]
      rfl
  | case6 above name rest entries hfolder hdot hup target hfind left start ih =>
      rw [walk, headD_map_snd]
      by_cases habs : (Path.ofText target).isAbsolute <;> simp_all [start]
  | _ =>
      rw [walk, headD_map_snd]
      simp_all [Except.map]

/-! ### Replacing the bytes of a file -/

/-- The tree with other bytes in the file at a place; without a file there nothing changes. -/
def overwrite (bytes : List UInt8) : List String → FileTree → FileTree
  | [], .file _ => .file bytes
  | name :: rest, .folder entries =>
      .folder (entries.map fun e ↦ if e.1 = name then (e.1, overwrite bytes rest e.2) else e)
  | _, t => t

/-- What replacing the file at `place` makes of the entry at a place. -/
def retouch (bytes : List UInt8) (place : List String) (here : List String × FileTree) :
    List String × FileTree :=
  if here.1 <+: place then (here.1, here.2.overwrite bytes (place.drop here.1.length)) else here

theorem find?_map_overwrite (bytes : List UInt8) (rest : List String) (name other : String)
    (entries : List (String × FileTree)) :
    find? other (entries.map fun e ↦ if e.1 = name then (e.1, overwrite bytes rest e.2) else e) =
      if other = name then (find? other entries).map (overwrite bytes rest)
      else find? other entries := by
  induction entries with
  | nil => simp [find?]
  | cons e entries ih =>
      obtain ⟨n, t⟩ := e
      by_cases hn : n = name <;> by_cases ho : n = other <;> simp_all [find?]

@[simp] theorem retouch_fst (bytes : List UInt8) (place : List String)
    (here : List String × FileTree) : (retouch bytes place here).1 = here.1 := by
  unfold retouch
  split <;> rfl

theorem retouch_elsewhere {place above : List String} (h : ¬ above <+: place)
    (bytes : List UInt8) (t : FileTree) : retouch bytes place (above, t) = (above, t) :=
  if_neg h

theorem retouch_append (bytes : List UInt8) (above below : List String) (t : FileTree) :
    retouch bytes (above ++ below) (above, t) = (above, t.overwrite bytes below) := by
  simp [retouch]

/-- A folder stays a folder, and its entries are those of before, each with what replacing the
file makes of it. -/
theorem retouch_folder (here : List String × FileTree) {entries : List (String × FileTree)}
    (h : here.2 = .folder entries) (bytes : List UInt8) (place : List String) :
    ∃ entries', (retouch bytes place here).2 = .folder entries' ∧
      ∀ name, find? name entries' =
        (find? name entries).map fun t ↦ (retouch bytes place (here.1 ++ [name], t)).2 := by
  obtain ⟨above, _⟩ := here
  subst h
  by_cases hprefix : above <+: place
  · obtain ⟨below, rfl⟩ := hprefix
    rw [retouch_append]
    cases below with
    | nil =>
        refine ⟨entries, rfl, fun name ↦ ?_⟩
        have hnot : ¬ above ++ [name] <+: above ++ [] := by
          rw [List.prefix_append_right_inj]
          simp
        simp only [retouch_elsewhere hnot, Option.map_id']
    | cons next rest =>
        refine ⟨_, rfl, fun name ↦ ?_⟩
        rw [find?_map_overwrite]
        split
        case isTrue hname =>
          subst hname
          have happend := fun t ↦ retouch_append bytes (above ++ [name]) rest t
          simp only [List.append_assoc, List.singleton_append] at happend
          simp only [happend]
        case isFalse hname =>
          have hnot : ¬ above ++ [name] <+: above ++ next :: rest := by simpa using hname
          simp only [retouch_elsewhere hnot, Option.map_id']
  · refine ⟨entries, by rw [retouch_elsewhere hprefix], fun name ↦ ?_⟩
    have hnot : ¬ above ++ [name] <+: place :=
      fun h ↦ hprefix ((List.prefix_append above [name]).trans h)
    simp only [retouch_elsewhere hnot, Option.map_id']

@[simp] theorem retouch_link (bytes : List UInt8) (place above : List String) (target : String) :
    retouch bytes place (above, .link target) = (above, .link target) := by
  unfold retouch
  split
  · cases place.drop above.length <;> rfl
  · rfl

theorem retouch_file (bytes old : List UInt8) (place above : List String) :
    retouch bytes place (above, .file old) =
      (above, .file (if above = place then bytes else old)) := by
  by_cases hprefix : above <+: place
  · obtain ⟨below, rfl⟩ := hprefix
    rw [retouch_append]
    cases below with
    | nil => simp [overwrite]
    | cons name rest => simp [overwrite]
  · rw [retouch_elsewhere hprefix, if_neg]
    rintro rfl
    exact hprefix (List.prefix_refl _)

theorem standing_map_retouch (bytes : List UInt8) (place : List String)
    (above : List (List String × FileTree)) :
    standing (top.overwrite bytes place) (above.map (retouch bytes place)) =
      retouch bytes place (standing top above) := by
  cases above with
  | nil => exact (retouch_append bytes [] place top).symm
  | cons here above => rfl

theorem standing_map_retouch_folder {above : List (List String × FileTree)}
    {entries : List (String × FileTree)} (h : (standing top above).2 = .folder entries)
    (bytes : List UInt8) (place : List String) :
    ∃ entries', (standing (top.overwrite bytes place) (above.map (retouch bytes place))).2 =
        .folder entries' ∧
      ∀ name, find? name entries' = (find? name entries).map fun t ↦
        (retouch bytes place ((standing top above).1 ++ [name], t)).2 := by
  rw [standing_map_retouch]
  exact retouch_folder _ h bytes place

/-- Replacing a file changes no step of a walk. -/
theorem trace_map_retouch (bytes : List UInt8) (place : List String) (links : Nat)
    (above : List (List String × FileTree)) (names : List String) :
    trace (top.overwrite bytes place) links (above.map (retouch bytes place)) names =
      (trace top links above names).map (retouch bytes place) := by
  fun_induction trace top links above names with
  | case1 =>
      rw [trace, standing_map_retouch]
      rfl
  | case2 links above name rest entries hfolder hdot ih =>
      obtain ⟨entries', hfolder', -⟩ := standing_map_retouch_folder hfolder bytes place
      rw [trace, hfolder']
      simpa [hdot] using ih
  | case3 links above rest entries hfolder hdot ih =>
      obtain ⟨entries', hfolder', -⟩ := standing_map_retouch_folder hfolder bytes place
      rw [trace, hfolder']
      simpa using ih
  | case4 links above name rest entries hfolder hdot hup hfind =>
      obtain ⟨entries', hfolder', hfind'⟩ := standing_map_retouch_folder hfolder bytes place
      rw [trace, hfolder']
      simp [hdot, hup, hfind', hfind, Except.map]
  | case5 above name rest entries hfolder hdot hup target hfind =>
      obtain ⟨entries', hfolder', hfind'⟩ := standing_map_retouch_folder hfolder bytes place
      rw [trace, hfolder']
      simp [hdot, hup, hfind', hfind, Except.map]
  | case6 above name rest entries hfolder hdot hup target hfind left start ih =>
      obtain ⟨entries', hfolder', hfind'⟩ := standing_map_retouch_folder hfolder bytes place
      rw [trace, hfolder']
      by_cases habs : (Path.ofText target).isAbsolute <;>
        simpa [hdot, hup, hfind', hfind, start, habs] using ih
  | case7 links above name rest entries hfolder hdot hup t hlink hfind ih =>
      obtain ⟨entries', hfolder', hfind'⟩ := standing_map_retouch_folder hfolder bytes place
      rw [trace, hfolder']
      cases t with
      | link target => exact absurd rfl (hlink target)
      | file old =>
          rw [List.map_cons, retouch_file] at ih
          simpa [hdot, hup, hfind', hfind, retouch_file, standing_map_retouch] using ih
      | folder sub =>
          obtain ⟨sub', hsub, -⟩ :=
            retouch_folder ((standing top above).1 ++ [name], .folder sub) rfl bytes place
          have hpair : retouch bytes place ((standing top above).1 ++ [name], .folder sub) =
              ((standing top above).1 ++ [name], .folder sub') := Prod.ext (retouch_fst ..) hsub
          rw [List.map_cons, hpair] at ih
          simpa [hdot, hup, hfind', hfind, hsub, standing_map_retouch] using ih
  | case8 links above name rest hnot =>
      rw [trace, standing_map_retouch]
      revert hnot
      obtain ⟨loc, t⟩ := standing top above
      intro hnot
      cases t with
      | folder entries => exact absurd rfl (hnot entries)
      | link target => simp [Except.map]
      | file old => simp [retouch_file, Except.map]

/-! ### Entries below a folder -/

/-- A name that an entry of a folder can have. -/
def ValidName (name : String) : Prop :=
  name ≠ "" ∧ name ≠ "." ∧ name ≠ ".." ∧ '/' ∉ name.toList

/-- The trees that a file system can hold: in every folder each name is valid and stands once. -/
inductive WellFormed : FileTree → Prop
  | file (bytes : List UInt8) : WellFormed (.file bytes)
  | link (target : String) : WellFormed (.link target)
  | folder {entries : List (String × FileTree)} (nodup : (entries.map Prod.fst).Nodup)
      (valid : ∀ e ∈ entries, ValidName e.1) (below : ∀ e ∈ entries, WellFormed e.2) :
      WellFormed (.folder entries)

/-- Names that lead from an entry to another one through folders only. -/
inductive Leads : FileTree → List String → FileTree → Prop
  | here (t : FileTree) : Leads t [] t
  | inside {entries : List (String × FileTree)} {name : String} {names : List String}
      {t u : FileTree} (mem : (name, t) ∈ entries) (rest : Leads t names u) :
      Leads (.folder entries) (name :: names) u

namespace WellFormed

variable {entries : List (String × FileTree)}

theorem nodup_names (h : WellFormed (.folder entries)) : (entries.map Prod.fst).Nodup := by
  obtain _ | _ | ⟨hnodup, -, -⟩ := h
  exact hnodup

theorem validName (h : WellFormed (.folder entries)) {e : String × FileTree} (he : e ∈ entries) :
    ValidName e.1 := by
  obtain _ | _ | ⟨-, hvalid, -⟩ := h
  exact hvalid e he

theorem of_mem (h : WellFormed (.folder entries)) {e : String × FileTree} (he : e ∈ entries) :
    WellFormed e.2 := by
  obtain _ | _ | ⟨-, -, hbelow⟩ := h
  exact hbelow e he

end WellFormed

theorem mem_of_find? {name : String} {entries : List (String × FileTree)} {t : FileTree}
    (h : find? name entries = some t) : (name, t) ∈ entries := by
  induction entries with
  | nil => simp [find?] at h
  | cons e entries ih =>
      obtain ⟨n, u⟩ := e
      by_cases hn : n = name
      · simp only [find?, hn, if_true, Option.some.injEq] at h
        simp [hn, h]
      · simp only [find?, hn, if_false] at h
        exact List.mem_cons_of_mem _ (ih h)

theorem find?_of_mem {name : String} {entries : List (String × FileTree)} {t : FileTree}
    (hnodup : (entries.map Prod.fst).Nodup) (h : (name, t) ∈ entries) :
    find? name entries = some t := by
  induction entries with
  | nil => simp at h
  | cons e entries ih =>
      obtain ⟨n, u⟩ := e
      simp only [List.map_cons, List.nodup_cons] at hnodup
      rcases List.mem_cons.mp h with heq | hmem
      · cases heq
        simp [find?]
      · have hne : n ≠ name := by
          rintro rfl
          exact hnodup.1 (List.mem_map.mpr ⟨_, hmem, rfl⟩)
        simp [find?, hne, ih hnodup.2 hmem]

/-- A walk can be taken in two parts. -/
theorem walk_append {links : Nat} {above : List FileTree} {names : List String} {t : FileTree}
    (h : walk top links above names = .ok t) :
    ∃ left stack, stack.headD top = t ∧
      ∀ more, walk top links above (names ++ more) = walk top left stack more := by
  fun_induction walk top links above names with
  | case1 links above =>
      exact ⟨links, above, by simpa using h, fun more ↦ rfl⟩
  | case2 links above name rest entries hfolder hdot ih =>
      obtain ⟨left, stack, hstack, hmore⟩ := ih h
      refine ⟨left, stack, hstack, fun more ↦ ?_⟩
      rw [List.cons_append, walk, hfolder]
      simpa [hdot] using hmore more
  | case3 links above rest entries hfolder hdot ih =>
      obtain ⟨left, stack, hstack, hmore⟩ := ih h
      refine ⟨left, stack, hstack, fun more ↦ ?_⟩
      rw [List.cons_append, walk, hfolder]
      simpa using hmore more
  | case6 above name rest entries hfolder hdot hup target hfind left start ih =>
      obtain ⟨left', stack, hstack, hmore⟩ := ih h
      refine ⟨left', stack, hstack, fun more ↦ ?_⟩
      rw [List.cons_append, walk, hfolder]
      simpa [hdot, hup, hfind, start] using hmore more
  | case7 links above name rest entries hfolder hdot hup t hlink hfind ih =>
      obtain ⟨left, stack, hstack, hmore⟩ := ih h
      refine ⟨left, stack, hstack, fun more ↦ ?_⟩
      rw [List.cons_append, walk, hfolder]
      simpa [hdot, hup, hfind] using hmore more
  | _ => simp at h

/-- A name of an entry that is no link leads to the entry. -/
theorem walk_cons_of_mem {name : String} {entries : List (String × FileTree)} {t : FileTree}
    (hwf : WellFormed (.folder entries)) (hmem : (name, t) ∈ entries)
    (ht : ∀ target, t ≠ .link target) (links : Nat) {above : List FileTree}
    (hhead : above.headD top = .folder entries) (rest : List String) :
    walk top links above (name :: rest) = walk top links (t :: above) rest := by
  obtain ⟨hempty, hdot, hup, -⟩ := hwf.validName hmem
  rw [walk, hhead]
  simp only [hempty, hdot, hup, decide_false, Bool.or_self, Bool.false_eq_true, if_false,
    find?_of_mem hwf.nodup_names hmem]

theorem walk_of_leads {t u : FileTree} {names : List String} (h : Leads t names u)
    (hwf : t.WellFormed) (hu : ∀ target, u ≠ .link target) (links : Nat) (above : List FileTree)
    (hhead : above.headD top = t) : walk top links above names = .ok u := by
  induction h generalizing above with
  | here t => rw [walk, hhead]
  | @inside entries name names t u mem rest ih =>
      have hstep : ∀ target, t ≠ .link target := by
        rintro target rfl
        cases rest
        exact hu target rfl
      rw [walk_cons_of_mem hwf mem hstep links hhead]
      exact ih (hwf.of_mem mem) hu _ rfl

section Inherited

variable {P : FileTree → Prop} (htop : P top)
  (hentry : ∀ {entries : List (String × FileTree)}, P (.folder entries) → ∀ e ∈ entries, P e.2)

include htop hentry

/-- What the entries of a folder inherit from it holds wherever a walk leads. -/
theorem inherited_of_walk {links : Nat} {above : List FileTree} {names : List String}
    {t : FileTree} (h : walk top links above names = .ok t) (habove : ∀ u ∈ above, P u) : P t := by
  have hhead : ∀ stack : List FileTree, (∀ u ∈ stack, P u) → P (stack.headD top) := by
    intro stack hstack
    cases stack with
    | nil => exact htop
    | cons u stack => exact hstack u (by simp)
  fun_induction walk top links above names with
  | case1 links above =>
      cases h
      exact hhead above habove
  | case2 links above name rest entries hfolder hdot ih => exact ih h habove
  | case3 links above rest entries hfolder hdot ih =>
      exact ih h fun u hu ↦ habove u (List.mem_of_mem_tail hu)
  | case6 above name rest entries hfolder hdot hup target hfind left start ih =>
      refine ih h fun u hu ↦ ?_
      by_cases habs : (Path.ofText target).isAbsolute
      · simp [start, habs] at hu
      · exact habove u (by simpa [start, habs] using hu)
  | case7 links above name rest entries hfolder hdot hup t hlink hfind ih =>
      have hentries := hfolder ▸ hhead above habove
      refine ih h fun u hu ↦ ?_
      rcases List.mem_cons.mp hu with rfl | hu
      · exact hentry hentries _ (mem_of_find? hfind)
      · exact habove u hu
  | _ => simp at h

end Inherited

end FileTree

namespace FileSystem

open FileTree

variable {files : FileSystem} {p : Path} {t : FileTree}

/-! ### Paths -/

theorem stat_eq_trace (files : FileSystem) (p : Path) :
    files.stat p = (trace files.top 40 [] (files.namesOf p)).map Prod.snd :=
  walk_eq_trace 40 [] (files.namesOf p)

/-- The place of the file that a path leads to. -/
def filePlace? (files : FileSystem) (p : Path) : Option (List String) :=
  match trace files.top 40 [] (files.namesOf p) with
  | .ok (place, .file _) => some place
  | _ => none

def overwrite (files : FileSystem) (bytes : List UInt8) (place : List String) : FileSystem :=
  { files with top := files.top.overwrite bytes place }

/-- The paths that lead to a file read what was written there, and no other path is touched. -/
theorem readBytes_overwrite (files : FileSystem) (bytes : List UInt8) (place : List String)
    (p : Path) :
    (files.overwrite bytes place).readBytes p =
      if files.filePlace? p = some place then .ok bytes else files.readBytes p := by
  have hnames : (files.overwrite bytes place).namesOf p = files.namesOf p := rfl
  have htrace : trace (files.overwrite bytes place).top 40 [] (files.namesOf p) =
      (trace files.top 40 [] (files.namesOf p)).map (retouch bytes place) :=
    trace_map_retouch bytes place 40 [] (files.namesOf p)
  simp only [readBytes, stat_eq_trace, filePlace?, hnames, htrace]
  cases trace files.top 40 [] (files.namesOf p) with
  | error e => simp [Except.map]
  | ok here =>
      obtain ⟨loc, t⟩ := here
      cases t with
      | file old => by_cases hloc : loc = place <;> simp [Except.map, retouch_file, hloc]
      | link target => simp [Except.map]
      | folder entries =>
          obtain ⟨entries', hfolder, -⟩ := retouch_folder (loc, .folder entries) rfl bytes place
          simp [Except.map, hfolder]

def WellFormed (files : FileSystem) : Prop := files.top.WellFormed

theorem wellFormed_of_stat (hwf : files.WellFormed) (h : files.stat p = .ok t) : t.WellFormed :=
  inherited_of_walk hwf (fun hentries _ he ↦ hentries.of_mem he) h (by simp)

theorem namesOf_below (files : FileSystem) (p : Path) (names : List String) :
    files.namesOf (p.below names) = files.namesOf p ++ names := by
  have hbelow : (p.below names).isAbsolute = p.isAbsolute := rfl
  unfold namesOf
  rw [hbelow]
  split
  · rfl
  · exact (List.append_assoc files.here p.parts names).symm

/-- What names lead to from an entry is what the path of the entry with these names leads to. -/
theorem stat_below_of_leads (hwf : files.WellFormed) (hp : files.stat p = .ok t)
    {names : List String} {u : FileTree} (h : Leads t names u) (hu : ∀ target, u ≠ .link target) :
    files.stat (p.below names) = .ok u := by
  have ht := wellFormed_of_stat hwf hp
  obtain ⟨left, stack, hstack, hmore⟩ := walk_append hp
  rw [stat, namesOf_below, hmore]
  exact walk_of_leads h ht hu left stack hstack

end FileSystem

def Store.overwrite (files : Store) (bytes : List UInt8) (place : List String) : Store :=
  { files with toFileSystem := files.toFileSystem.overwrite bytes place }

end WebBaseline

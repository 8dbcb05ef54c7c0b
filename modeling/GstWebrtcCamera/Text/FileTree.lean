import GstWebrtcCamera.Text.Path
import Mathlib.Data.List.TakeWhile

/-!
# Directories and `mkdir`

A tree says of every location whether there is a directory, something else or nothing, and whatever
there is lies in a directory. A path names an existing directory if every directory on its way
exists.

`mkdir` walks to the directory above the last name and makes the last one, if the first is there and
the second is free. Run on every directory above a path and then on the path, it makes all of them
unless something else is in the way.
-/

namespace PosixPath

inductive FileKind
  | dir
  | other
  deriving DecidableEq, Repr

structure FileTree where
  kind : Location → Option FileKind
  /-- The current directory. -/
  cwd : Location
  root_dir : kind [] = some .dir
  cwd_dir : kind cwd = some .dir
  closed : ∀ l name, kind (l ++ [name]) ≠ none → kind l = some .dir

@[simp] theorem enter_nil (dir : Location) : enter dir [] = dir := if_pos (.inl rfl)

namespace FileTree

/-- A new directory, if the one above exists and the name is free. -/
def create (fs : FileTree) (l : Location) (name : List Char) : FileTree :=
  if h : fs.kind l = some .dir ∧ fs.kind (l ++ [name]) = none then
    { kind := fun l' ↦ if l' = l ++ [name] then some .dir else fs.kind l'
      cwd := fs.cwd
      root_dir := by
        rw [if_neg (by simp)]
        exact fs.root_dir
      cwd_dir := by
        split
        · rfl
        · exact fs.cwd_dir
      closed := by
        intro l' name' hkind
        by_cases heq : l' ++ [name'] = l ++ [name]
        · obtain ⟨rfl, -⟩ := List.append_inj' heq rfl
          rw [if_neg (by simp)]
          exact h.1
        · rw [if_neg heq] at hkind
          split
          · rfl
          · exact fs.closed l' name' hkind }
  else fs

/-- Go along the segments, through directories that exist. -/
def walk? (fs : FileTree) : Location → List (List Char) → Option Location
  | dir, [] => some dir
  | dir, s :: segs =>
    if fs.kind (enter dir s) = some .dir then fs.walk? (enter dir s) segs else none

/-- Where a path starts. -/
def start (fs : FileTree) (path : List Char) : Location :=
  if path.head? = some '/' then [] else fs.cwd

/-- The path names an existing directory. -/
def IsDir (fs : FileTree) (path : List Char) : Prop :=
  path ≠ [] ∧ (fs.walk? (fs.start path) (segments path)).isSome

/-- `mkdir`. Slashes at the end do not count. -/
def mkdir (fs : FileTree) (path : List Char) : FileTree :=
  match (segments path).reverse.dropWhile (· = []) with
  | [] => fs
  | name :: above =>
    match fs.walk? (fs.start path) above.reverse with
    | none => fs
    | some dir => if IsStill name ∨ name = dotDot then fs else fs.create dir name

variable {fs : FileTree} {dir l : Location} {name : List Char}

@[simp] theorem create_cwd (fs : FileTree) (l : Location) (name : List Char) :
    (fs.create l name).cwd = fs.cwd := by
  rw [create]
  split <;> rfl

@[simp] theorem mkdir_cwd (fs : FileTree) (path : List Char) : (fs.mkdir path).cwd = fs.cwd := by
  rw [mkdir]
  split
  · rfl
  · split
    · rfl
    · split
      · rfl
      · exact create_cwd ..

theorem create_kind (fs : FileTree) (l l' : Location) (name : List Char) :
    (fs.create l name).kind l'
      = if l' = l ++ [name] ∧ fs.kind l = some .dir ∧ fs.kind (l ++ [name]) = none then some .dir
        else fs.kind l' := by
  rw [create]
  by_cases h : fs.kind l = some .dir ∧ fs.kind (l ++ [name]) = none
  · rw [dif_pos h]
    simp [h]
  · rw [dif_neg h, if_neg fun h' ↦ h h'.2]

theorem start_dir (fs : FileTree) (path : List Char) : fs.kind (fs.start path) = some .dir := by
  rw [start]
  split
  · exact fs.root_dir
  · exact fs.cwd_dir

theorem dropLast_dir (h : fs.kind dir = some .dir) : fs.kind dir.dropLast = some .dir := by
  rcases List.eq_nil_or_concat dir with rfl | ⟨l, name, rfl⟩
  · exact h
  · rw [List.concat_eq_append] at h ⊢
    rw [List.dropLast_concat]
    exact fs.closed l name (by simp [h])

/-! ## Walking -/

theorem walk?_append (fs : FileTree) (dir : Location) (a b : List (List Char)) :
    fs.walk? dir (a ++ b) = (fs.walk? dir a).bind fun d ↦ fs.walk? d b := by
  induction a generalizing dir with
  | nil => rfl
  | cons s a ih =>
    rw [List.cons_append, walk?, walk?]
    split
    · exact ih _
    · rfl

theorem walk?_eq {segs : List (List Char)} (h : fs.walk? dir segs = some l) :
    l = segs.foldl enter dir := by
  induction segs generalizing dir with
  | nil => exact (Option.some.inj h).symm
  | cons s segs ih =>
    rw [walk?] at h
    split at h
    · exact ih h
    · contradiction

theorem walk?_dir {segs : List (List Char)} (hdir : fs.kind dir = some .dir)
    (h : fs.walk? dir segs = some l) : fs.kind l = some .dir := by
  induction segs generalizing dir with
  | nil => exact Option.some.inj h ▸ hdir
  | cons s segs ih =>
    rw [walk?] at h
    split at h
    · next hs => exact ih hs h
    · contradiction

theorem enter_dir (hdir : fs.kind dir = some .dir) {s : List Char}
    (hs : IsStill s ∨ s = dotDot) : fs.kind (enter dir s) = some .dir := by
  rw [enter]
  split_ifs with hstill hup
  · exact hdir
  · exact dropLast_dir hdir
  · exact absurd hs (not_or.mpr ⟨hstill, hup⟩)

theorem segments_ne_nil (path : List Char) : segments path ≠ [] := List.splitOn_ne_nil _ _

/-! ## What is made -/

/-- Directories that these paths name were made, and nothing else happened. -/
structure Makes (fs fs' : FileTree) (paths : List (List Char)) : Prop where
  cwd : fs'.cwd = fs.cwd
  kind : ∀ l, fs'.kind l = fs.kind l ∨
    fs.kind l = none ∧ fs'.kind l = some .dir ∧ ∃ path ∈ paths, l = resolve fs.cwd path

namespace Makes

variable {fs' fs'' : FileTree} {paths paths' : List (List Char)}

theorem refl (fs : FileTree) (paths : List (List Char)) : Makes fs fs paths :=
  ⟨rfl, fun _ ↦ .inl rfl⟩

theorem trans (h : Makes fs fs' paths) (h' : Makes fs' fs'' paths') :
    Makes fs fs'' (paths ++ paths') := by
  refine ⟨h'.cwd.trans h.cwd, fun l ↦ ?_⟩
  rcases h.kind l with heq | ⟨hnone, hdir, path, hpath, hl⟩
  · rcases h'.kind l with heq' | ⟨hnone, hdir, path, hpath, hl⟩
    · exact .inl (heq'.trans heq)
    · refine .inr ⟨heq.symm.trans hnone, hdir, path, List.mem_append_right _ hpath, ?_⟩
      rw [hl, h.cwd]
  · refine .inr ⟨hnone, ?_, path, List.mem_append_left _ hpath, hl⟩
    rcases h'.kind l with heq' | ⟨-, hdir', -⟩
    · exact heq'.trans hdir
    · exact hdir'

theorem dir_stays (h : Makes fs fs' paths) (hdir : fs.kind l = some .dir) :
    fs'.kind l = some .dir := by
  rcases h.kind l with heq | ⟨-, hdir', -⟩
  · exact heq.trans hdir
  · exact hdir'

theorem ne_other (h : Makes fs fs' paths) (hother : fs.kind l ≠ some .other) :
    fs'.kind l ≠ some .other := by
  rcases h.kind l with heq | ⟨-, hdir, -⟩
  · rwa [heq]
  · simp [hdir]

theorem walk? (h : Makes fs fs' paths) {segs : List (List Char)}
    (hwalk : fs.walk? dir segs = some l) : fs'.walk? dir segs = some l := by
  induction segs generalizing dir with
  | nil => exact hwalk
  | cons s segs ih =>
    rw [FileTree.walk?] at hwalk ⊢
    split at hwalk
    · next hs =>
      rw [if_pos (h.dir_stays hs)]
      exact ih hwalk
    · contradiction

theorem start (h : Makes fs fs' paths) (path : List Char) : fs'.start path = fs.start path := by
  rw [FileTree.start, FileTree.start, h.cwd]

theorem isDir (h : Makes fs fs' paths) {path : List Char} (hpath : fs.IsDir path) :
    fs'.IsDir path := by
  obtain ⟨hne, hsome⟩ := hpath
  obtain ⟨l, hl⟩ := Option.isSome_iff_exists.mp hsome
  refine ⟨hne, ?_⟩
  rw [h.start, h.walk? hl]
  rfl

end Makes

theorem foldl_enter_nil {segs : List (List Char)} (h : ∀ s ∈ segs, s = []) (dir : Location) :
    segs.foldl enter dir = dir := by
  induction segs with
  | nil => rfl
  | cons s segs ih =>
    obtain ⟨hs, hsegs⟩ := List.forall_mem_cons.mp h
    rw [List.foldl_cons, hs, enter_nil, ih hsegs]

theorem split_of_dropWhile {segs above : List (List Char)}
    (h : segs.reverse.dropWhile (· = []) = name :: above) :
    ∃ behind, segs = above.reverse ++ name :: behind ∧ ∀ s ∈ behind, s = [] := by
  have happend := List.takeWhile_append_dropWhile (p := (· = [])) (l := segs.reverse)
  rw [h] at happend
  refine ⟨(segs.reverse.takeWhile (· = [])).reverse, ?_, fun s hs ↦ ?_⟩
  · have hreverse := congrArg List.reverse happend
    rw [List.reverse_reverse, List.reverse_append, List.reverse_cons] at hreverse
    simpa using hreverse.symm
  · have hempty := List.mem_takeWhile_imp (List.mem_reverse.mp hs)
    simpa using hempty

theorem makes_mkdir (fs : FileTree) (path : List Char) : Makes fs (fs.mkdir path) [path] := by
  refine ⟨mkdir_cwd fs path, fun l ↦ ?_⟩
  rcases hsegs : (segments path).reverse.dropWhile (· = []) with _ | ⟨name, above⟩
  · exact .inl (by rw [mkdir, hsegs])
  rcases hwalk : fs.walk? (fs.start path) above.reverse with _ | dir
  · exact .inl (by simp only [mkdir, hsegs, hwalk])
  by_cases hname : IsStill name ∨ name = dotDot
  · exact .inl (by simp only [mkdir, hsegs, hwalk, if_pos hname])
  · have hmkdir : fs.mkdir path = fs.create dir name := by
      simp only [mkdir, hsegs, hwalk, if_neg hname]
    rw [hmkdir, create_kind]
    split
    · next h =>
      refine .inr ⟨h.1 ▸ h.2.2, rfl, path, List.mem_singleton_self _, ?_⟩
      obtain ⟨behind, hsplit, hbehind⟩ := split_of_dropWhile hsegs
      rw [not_or] at hname
      rw [h.1, resolve, walk, hsplit, List.foldl_append, List.foldl_cons,
        foldl_enter_nil hbehind, ← start, ← walk?_eq hwalk, enter, if_neg hname.1, if_neg hname.2]
    · exact .inl rfl

/-- **One directory more.** If everything above a path exists and nothing else is in its place,
`mkdir` makes it a directory. -/
theorem mkdir_isDir {path : List Char} (hne : path ≠ [])
    (habove : (fs.walk? (fs.start path) (segments path).dropLast).isSome)
    (hother : fs.kind (resolve fs.cwd path) ≠ some .other) : (fs.mkdir path).IsDir path := by
  obtain ⟨d, hd⟩ := Option.isSome_iff_exists.mp habove
  have hdir : fs.kind d = some .dir := walk?_dir (fs.start_dir path) hd
  obtain ⟨segs, s, hsegs⟩ : ∃ segs s, segments path = segs ++ [s] := by
    rcases List.eq_nil_or_concat (segments path) with hnil | ⟨segs, s, h⟩
    · exact absurd hnil (segments_ne_nil path)
    · exact ⟨segs, s, by rw [h, List.concat_eq_append]⟩
  rw [hsegs, List.dropLast_concat] at hd
  have hmakes := makes_mkdir fs path
  suffices hlast : (fs.mkdir path).kind (enter d s) = some .dir by
    refine ⟨hne, ?_⟩
    rw [hmakes.start, hsegs, walk?_append, hmakes.walk? hd, Option.bind_some, walk?, if_pos hlast]
    rfl
  by_cases hs : IsStill s ∨ s = dotDot
  · exact hmakes.dir_stays (enter_dir hdir hs)
  · -- the last segment is a name
    have hsne : s ≠ [] := fun h ↦ hs (.inl (.inl h))
    have hname := not_or.mp hs
    have henter : enter d s = d ++ [s] := by rw [enter, if_neg hname.1, if_neg hname.2]
    have hresolve : resolve fs.cwd path = d ++ [s] := by
      rw [resolve, ← start, walk, hsegs, List.foldl_append, ← walk?_eq hd]
      exact henter
    have hmkdir : fs.mkdir path = fs.create d s := by
      rw [mkdir, hsegs, List.reverse_append, List.reverse_singleton, List.singleton_append,
        List.dropWhile_cons_of_neg (by simpa using hsne)]
      simp only [List.reverse_reverse, hd, if_neg hs]
    rw [henter, hmkdir, create_kind]
    rw [hresolve] at hother
    rcases hkind : fs.kind (d ++ [s]) with _ | _ | _
    · rw [if_pos ⟨rfl, hdir, rfl⟩]
    · rw [if_neg (by simp)]
    · exact absurd hkind hother

/-! ## A whole path -/

/-- The beginnings of a path that end before a slash, where `done` comes before the rest. -/
def cuts (done : List Char) : List Char → List (List Char)
  | [] => []
  | c :: rest => if c = '/' then done :: cuts (done ++ [c]) rest else cuts (done ++ [c]) rest

theorem mem_cuts {done rest q : List Char} :
    q ∈ cuts done rest ↔ ∃ r r', rest = r ++ '/' :: r' ∧ q = done ++ r := by
  induction rest generalizing done with
  | nil => simp [cuts]
  | cons c rest ih =>
    have hcons : (∃ r r', c :: rest = r ++ '/' :: r' ∧ q = done ++ r)
        ↔ (c = '/' ∧ q = done) ∨ ∃ r r', rest = r ++ '/' :: r' ∧ q = done ++ [c] ++ r := by
      constructor
      · rintro ⟨_ | ⟨a, r⟩, r', hrest, rfl⟩
        · exact .inl ⟨(List.cons.inj hrest).1, List.append_nil _⟩
        · obtain ⟨rfl, rfl⟩ := List.cons.inj hrest
          exact .inr ⟨r, r', rfl, by simp⟩
      · rintro (⟨rfl, rfl⟩ | ⟨r, r', rfl, rfl⟩)
        · exact ⟨[], rest, rfl, by simp⟩
        · exact ⟨c :: r, r', rfl, by simp⟩
    rw [hcons, cuts]
    split
    · next hc => rw [List.mem_cons, ih, and_iff_right hc]
    · next hc => rw [ih, or_iff_right fun h ↦ hc h.1]

/-- Everything above a path exists. -/
def Above (fs : FileTree) (path : List Char) : Prop :=
  (fs.walk? (fs.start path) (segments path).dropLast).isSome

theorem start_append (fs : FileTree) {done : List Char} (hne : done ≠ []) (r : List Char) :
    fs.start (done ++ r) = fs.start done := by
  rw [start, start, List.head?_append_of_ne_nil _ hne]

theorem segments_concat {c : Char} (hc : c ≠ '/') (done : List Char) :
    (segments (done ++ [c])).dropLast = (segments done).dropLast := by
  by_cases hslash : '/' ∈ done
  · obtain ⟨a, b, hdone, -⟩ := List.eq_append_cons_of_mem hslash
    rw [hdone, List.append_assoc, List.cons_append, segments_append_slash, segments_append_slash,
      List.dropLast_append_of_ne_nil (segments_ne_nil _),
      List.dropLast_append_of_ne_nil (segments_ne_nil _), segments_concat hc b]
  · have hslash' : '/' ∉ done ++ [c] := by simp [hslash, Ne.symm hc]
    rw [segments, segments, List.splitOn_eq_singleton hslash, List.splitOn_eq_singleton hslash']
    rfl
termination_by done.length
decreasing_by
  rw [hdone, List.length_append, List.length_cons]
  omega

theorem segments_concat_slash (done : List Char) :
    (segments (done ++ ['/'])).dropLast = segments done := by
  rw [segments_append_slash]
  exact List.dropLast_concat

theorem above_of_isDir {done : List Char} (h : fs.IsDir done) : fs.Above (done ++ ['/']) := by
  rw [Above, fs.start_append h.1, segments_concat_slash]
  exact h.2

/-- **Every directory above a path.** The beginnings are made one after the other. -/
theorem foldl_cuts (rest : List Char) :
    ∀ {fs : FileTree} {done : List Char}, done ≠ [] → fs.Above done →
      (∀ q ∈ cuts done rest, fs.kind (resolve fs.cwd q) ≠ some .other) →
      Makes fs ((cuts done rest).foldl mkdir fs) (cuts done rest) ∧
        ((cuts done rest).foldl mkdir fs).Above (done ++ rest) ∧
        ∀ q ∈ cuts done rest, ((cuts done rest).foldl mkdir fs).IsDir q := by
  induction rest with
  | nil =>
    intro fs done hne habove _
    rw [List.append_nil]
    exact ⟨.refl fs _, habove, by simp [cuts]⟩
  | cons c rest ih =>
    intro fs done hne habove hother
    rw [cuts] at hother ⊢
    by_cases hc : c = '/'
    · subst hc
      rw [if_pos rfl] at hother ⊢
      obtain ⟨hdone, hrest⟩ := List.forall_mem_cons.mp hother
      have hmkdir := mkdir_isDir hne habove hdone
      have hmakes := makes_mkdir fs done
      obtain ⟨hmakes', habove', hdirs⟩ := ih (by simp) (above_of_isDir hmkdir) fun q hq ↦ by
        rw [hmakes.cwd]
        exact hmakes.ne_other (hrest q hq)
      rw [List.append_assoc, List.singleton_append] at habove'
      rw [List.foldl_cons]
      refine ⟨hmakes.trans hmakes', habove', ?_⟩
      exact List.forall_mem_cons.mpr ⟨hmakes'.isDir hmkdir, hdirs⟩
    · rw [if_neg hc] at hother ⊢
      have habove' : fs.Above (done ++ [c]) := by
        rw [Above, fs.start_append hne, segments_concat hc]
        exact habove
      have hnext := ih (by simp) habove' hother
      rwa [List.append_assoc, List.singleton_append] at hnext

theorem above_singleton (fs : FileTree) (c : Char) : fs.Above [c] := by
  by_cases hc : c = '/'
  · subst hc
    have hsegs : segments ['/'] = [[], []] := by decide
    rw [Above, hsegs, List.dropLast_cons_cons, List.dropLast_singleton, walk?, enter_nil,
      if_pos (fs.start_dir _)]
    rfl
  · have hsegs : segments [c] = [[c]] := List.splitOn_eq_singleton (by simp [Ne.symm hc])
    rw [Above, hsegs]
    rfl

/-- A path or the part of it before a slash, if that is not empty. -/
def DirPrefix (path q : List Char) : Prop := q ≠ [] ∧ (q = path ∨ ∃ rest, path = q ++ '/' :: rest)

theorem mem_cuts_or_eq_iff {c : Char} {rest q : List Char} :
    q ∈ cuts [c] rest ++ [c :: rest] ↔ DirPrefix (c :: rest) q := by
  rw [List.mem_append, List.mem_singleton, mem_cuts, DirPrefix]
  constructor
  · rintro (⟨r, r', rfl, rfl⟩ | rfl)
    · exact ⟨by simp, .inr ⟨r', by simp⟩⟩
    · exact ⟨by simp, .inl rfl⟩
  · rintro ⟨hne, rfl | ⟨r', hpath⟩⟩
    · exact .inr rfl
    · obtain ⟨a, r, rfl⟩ := List.exists_cons_of_ne_nil hne
      obtain ⟨rfl, hrest⟩ := List.cons.inj hpath
      exact .inl ⟨r, r', hrest, rfl⟩

theorem dirPrefix_append_slash_iff {path q : List Char} (hne : path ≠ []) :
    DirPrefix (path ++ ['/']) q ↔ DirPrefix path q ∨ q = path ++ ['/'] := by
  constructor
  · rintro ⟨hq, rfl | ⟨rest, hpath⟩⟩
    · exact .inr rfl
    · rcases List.eq_nil_or_concat rest with rfl | ⟨rest, c, rfl⟩
      · exact .inl ⟨hq, .inl (List.append_inj_left' hpath rfl).symm⟩
      · rw [List.concat_eq_append, ← List.cons_append, ← List.append_assoc] at hpath
        exact .inl ⟨hq, .inr ⟨rest, List.append_inj_left' hpath rfl⟩⟩
  · rintro (⟨hq, rfl | ⟨rest, rfl⟩⟩ | rfl)
    · exact ⟨hq, .inr ⟨[], rfl⟩⟩
    · exact ⟨hq, .inr ⟨rest ++ ['/'], by simp⟩⟩
    · exact ⟨by simp, .inl rfl⟩

theorem dirPrefix_slash_iff {q : List Char} : DirPrefix ['/'] q ↔ q = ['/'] := by
  constructor
  · rintro ⟨hq, rfl | ⟨rest, hpath⟩⟩
    · rfl
    · obtain ⟨c, q, rfl⟩ := List.exists_cons_of_ne_nil hq
      simp at hpath
  · rintro rfl
    exact ⟨by simp, .inl rfl⟩

/-- **A path.** `mkdir` at every slash behind the first character and at the end makes the path and
all that is above it. -/
theorem mkdir_foldl_cuts (fs : FileTree) (c : Char) (rest : List Char)
    (hother : ∀ q, DirPrefix (c :: rest) q → fs.kind (resolve fs.cwd q) ≠ some .other) :
    Makes fs (((cuts [c] rest).foldl mkdir fs).mkdir (c :: rest)) (cuts [c] rest ++ [c :: rest]) ∧
      ∀ q, DirPrefix (c :: rest) q →
        (((cuts [c] rest).foldl mkdir fs).mkdir (c :: rest)).IsDir q := by
  obtain ⟨hmakes, habove, hdirs⟩ := foldl_cuts rest (by simp) (fs.above_singleton c) fun q hq ↦
    hother q (mem_cuts_or_eq_iff.mp (List.mem_append_left _ hq))
  have hpath : (((cuts [c] rest).foldl mkdir fs).mkdir (c :: rest)).IsDir (c :: rest) := by
    refine mkdir_isDir (by simp) habove ?_
    rw [hmakes.cwd]
    exact hmakes.ne_other (hother _ ⟨by simp, .inl rfl⟩)
  have hmakes' := makes_mkdir ((cuts [c] rest).foldl mkdir fs) (c :: rest)
  refine ⟨hmakes.trans hmakes', fun q hq ↦ ?_⟩
  rcases List.mem_append.mp (mem_cuts_or_eq_iff.mpr hq) with hcut | hlast
  · exact hmakes'.isDir (hdirs q hcut)
  · exact List.mem_singleton.mp hlast ▸ hpath

theorem IsDir.append_slash {path : List Char} (h : fs.IsDir path) : fs.IsDir (path ++ ['/']) := by
  obtain ⟨l, hl⟩ := Option.isSome_iff_exists.mp h.2
  have hdir : fs.kind l = some .dir := walk?_dir (fs.start_dir path) hl
  refine ⟨by simp, ?_⟩
  rw [fs.start_append h.1, segments_append_slash, walk?_append, hl, Option.bind_some]
  have hsegs : segments [] = [[]] := rfl
  rw [hsegs, walk?, enter_nil, if_pos hdir]
  rfl

theorem isDir_slash (fs : FileTree) : fs.IsDir ['/'] := by
  have hsegs : segments ['/'] = [[], []] := by decide
  have hstart : fs.start ['/'] = [] := rfl
  refine ⟨by simp, ?_⟩
  simp [hsegs, hstart, walk?, fs.root_dir]

theorem mkdir_nil (fs : FileTree) : fs.mkdir [] = fs := by
  have hsegs : segments [] = [[]] := rfl
  simp [mkdir, hsegs]

end FileTree

end PosixPath

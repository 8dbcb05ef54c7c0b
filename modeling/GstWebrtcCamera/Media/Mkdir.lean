import GstWebrtcCamera.Text.CString
import GstWebrtcCamera.Text.FileTree

/-!
# The directory of a sink

`_mkdir` of `gst-app.c` makes the directories above a path and the path. It works on a copy of the
path, in which it puts a NUL in place of each slash in turn and the slash back, and looks at no
result of `mkdir`. The copy is modelled byte by byte, with its terminator, and an access outside it
leaves the function without a result.
-/

namespace GstWebrtcCamera

open CString PosixPath FileTree

/-- The loop over `p`. -/
def mkdirLoop (buf : List Char) (p : ℕ) (fs : FileTree) : Option (List Char × FileTree) :=
  match h : buf[p]? with
  | none => none
  | some c =>
    if c = '\x00' then some (buf, fs)
    else if c = '/' then
      mkdirLoop ((buf.set p '\x00').set p '/') (p + 1) (fs.mkdir (cut (buf.set p '\x00')).chars)
    else mkdirLoop buf (p + 1) fs
termination_by buf.length - p
decreasing_by
  · have hlt := (List.getElem?_eq_some_iff.mp h).1
    rw [List.length_set, List.length_set]
    omega
  · have hlt := (List.getElem?_eq_some_iff.mp h).1
    omega

/-- `_mkdir`. -/
def mkdirPath (path : CString) (fs : FileTree) : Option FileTree :=
  let len := path.chars.length
  let tmp := path.chars ++ ['\x00']
  -- `tmp[len - 1]` lies before the copy of an empty path
  if len = 0 then none
  else
    let tmp := if tmp[len - 1]? = some '/' then tmp.set (len - 1) '\x00' else tmp
    (mkdirLoop tmp 1 fs).map fun (tmp, fs) ↦ fs.mkdir (cut tmp).chars

/-! ## The copy -/

theorem chars_cut_append {s : List Char} (hs : '\x00' ∉ s) (junk : List Char) :
    (cut (s ++ '\x00' :: junk)).chars = s := by
  have hall : ∀ c ∈ s, (c != '\x00') = true := fun c hc ↦
    bne_iff_ne.mpr (ne_of_mem_of_not_mem hc hs)
  change (s ++ '\x00' :: junk).takeWhile (· != '\x00') = s
  rw [List.takeWhile_append_of_pos hall, List.takeWhile_cons_of_neg (by simp), List.append_nil]

/-- **The loop.** It stays inside the copy, leaves it as it was, and calls `mkdir` at every slash.
-/
theorem mkdirLoop_eq (rest : List Char) :
    ∀ (done junk : List Char) (fs : FileTree), '\x00' ∉ done → '\x00' ∉ rest →
      mkdirLoop (done ++ (rest ++ '\x00' :: junk)) done.length fs
        = some (done ++ (rest ++ '\x00' :: junk), (cuts done rest).foldl FileTree.mkdir fs) := by
  induction rest with
  | nil =>
    intro done junk fs hdone hrest
    rw [mkdirLoop]
    split
    · next h => simp at h
    · next c h =>
      obtain rfl : '\x00' = c := by simpa using h
      simp [cuts]
  | cons c rest ih =>
    intro done junk fs hdone hrest
    obtain ⟨hc, hrest'⟩ := not_or.mp (mt List.mem_cons.mpr hrest)
    have hdone' : '\x00' ∉ done ++ [c] := by simp [hdone, hc]
    have hnext := ih (done ++ [c]) junk
    simp only [List.append_assoc, List.singleton_append, List.length_append,
      List.length_singleton] at hnext
    rw [mkdirLoop]
    split
    · next h => simp at h
    · next c' h =>
      obtain rfl : c = c' := by simpa using h
      rw [if_neg (Ne.symm hc), cuts]
      by_cases hslash : c = '/'
      · subst hslash
        have hcut : (done ++ ('/' :: rest ++ '\x00' :: junk)).set done.length '\x00'
            = done ++ '\x00' :: (rest ++ '\x00' :: junk) := by simp
        rw [if_pos rfl, if_pos rfl, hcut, chars_cut_append hdone, List.set_append_right _ _ le_rfl]
        simp only [Nat.sub_self, List.set_cons_zero]
        exact hnext _ hdone' hrest'
      · rw [if_neg hslash, if_neg hslash]
        exact hnext _ hdone' hrest'

/-! ## The result -/

/-- The directories above the path and the path exist, and nothing else was made. -/
structure MakesPath (path : List Char) (fs fs' : FileTree) : Prop where
  isDir : ∀ q, DirPrefix path q → fs'.IsDir q
  cwd : fs'.cwd = fs.cwd
  kind : ∀ l, fs'.kind l = fs.kind l ∨
    fs.kind l = none ∧ fs'.kind l = some .dir ∧ ∃ q, DirPrefix path q ∧ l = resolve fs.cwd q

theorem MakesPath.append_slash {path : List Char} {fs fs' : FileTree} (hne : path ≠ [])
    (h : MakesPath path fs fs') : MakesPath (path ++ ['/']) fs fs' := by
  refine ⟨fun q hq ↦ ?_, h.cwd, fun l ↦ (h.kind l).imp_right ?_⟩
  · rcases (dirPrefix_append_slash_iff hne).mp hq with hq | rfl
    · exact h.isDir q hq
    · exact (h.isDir path ⟨hne, .inl rfl⟩).append_slash
  · rintro ⟨hnone, hdir, q, hq, hl⟩
    exact ⟨hnone, hdir, q, (dirPrefix_append_slash_iff hne).mpr (.inl hq), hl⟩

/-- **The copy decides.** Once a slash at its end is gone, what the copy says is made. -/
theorem mkdirPath_of_copy (path : CString) (c : Char) (rest junk : List Char)
    (hnul : '\x00' ∉ c :: rest) (hne : path.chars.length ≠ 0)
    (hcopy : (if (path.chars ++ ['\x00'])[path.chars.length - 1]? = some '/' then
        (path.chars ++ ['\x00']).set (path.chars.length - 1) '\x00'
      else path.chars ++ ['\x00']) = c :: rest ++ '\x00' :: junk) (fs : FileTree)
    (hother : ∀ q, DirPrefix (c :: rest) q → fs.kind (resolve fs.cwd q) ≠ some .other) :
    ∃ fs', mkdirPath path fs = some fs' ∧ MakesPath (c :: rest) fs fs' := by
  obtain ⟨hc, hrest⟩ := not_or.mp (mt List.mem_cons.mpr hnul)
  have hloop := mkdirLoop_eq rest [c] junk fs (mt List.mem_singleton.mp hc) hrest
  rw [List.length_singleton, List.singleton_append, ← List.cons_append] at hloop
  obtain ⟨hmakes, hdirs⟩ := mkdir_foldl_cuts fs c rest hother
  refine ⟨((cuts [c] rest).foldl FileTree.mkdir fs).mkdir (c :: rest), ?_, hdirs, hmakes.cwd, ?_⟩
  · rw [mkdirPath]
    simp only [if_neg hne, hcopy, hloop, Option.map_some, chars_cut_append hnul]
  · intro l
    refine (hmakes.kind l).imp_right ?_
    rintro ⟨hnone, hdir, q, hq, hl⟩
    exact ⟨hnone, hdir, q, mem_cuts_or_eq_iff.mp hq, hl⟩

/-- The root is there. Its copy is empty, and the loop begins at the terminator. -/
theorem mkdirPath_root {path : CString} (hpath : path.chars = ['/']) (fs : FileTree) :
    mkdirPath path fs = some fs := by
  have hloop : mkdirLoop ['\x00', '\x00'] 1 fs = some (['\x00', '\x00'], fs) := by
    rw [mkdirLoop]
    rfl
  have hcut : (cut ['\x00', '\x00']).chars = [] := by decide
  rw [mkdirPath, hpath]
  simp [hloop, hcut, mkdir_nil]

/-- **Making a path.** `_mkdir` stays inside its copy and makes the path, unless something else than
a directory is in the way. -/
theorem mkdirPath_makesPath (fs : FileTree) (path : CString) (hne : path.chars ≠ [])
    (hother : ∀ q, DirPrefix path.chars q → fs.kind (resolve fs.cwd q) ≠ some .other) :
    ∃ fs', mkdirPath path fs = some fs' ∧ MakesPath path.chars fs fs' := by
  have hlength : path.chars.length ≠ 0 := mt List.length_eq_zero_iff.mp hne
  have hnul := path.noNul
  rcases List.eq_nil_or_concat path.chars with hnil | ⟨t, c, ht⟩
  · exact absurd hnil hne
  rw [List.concat_eq_append] at ht
  by_cases hslash : c = '/'
  · subst hslash
    rcases t with _ | ⟨c, rest⟩
    · -- the path is the root
      rw [List.nil_append] at ht
      refine ⟨fs, mkdirPath_root ht fs, fun q hq ↦ ?_, rfl, fun l ↦ .inl rfl⟩
      obtain rfl := dirPrefix_slash_iff.mp (ht ▸ hq)
      exact isDir_slash fs
    · -- the slash at the end goes
      have hne' : c :: rest ≠ [] := List.cons_ne_nil _ _
      rw [ht] at hnul hother
      obtain ⟨fs', heq, hmakes⟩ := mkdirPath_of_copy path c rest ['\x00']
        (fun h ↦ hnul (List.mem_append_left _ h)) hlength (by simp [ht]) fs
        fun q hq ↦ hother q ((dirPrefix_append_slash_iff hne').mpr (.inl hq))
      exact ⟨fs', heq, ht ▸ hmakes.append_slash hne'⟩
  · obtain ⟨a, rest, hpath⟩ := List.exists_cons_of_ne_nil hne
    have hlast : (path.chars ++ ['\x00'])[path.chars.length - 1]? ≠ some '/' := by
      simpa [ht] using hslash
    have hcopy := mkdirPath_of_copy path a rest [] (hpath ▸ hnul)
      hlength (by rw [if_neg hlast, hpath]) fs (hpath ▸ hother)
    exact hpath.symm ▸ hcopy

/-- A tree of the root alone. -/
def bareRoot : FileTree where
  kind l := if l = [] then some .dir else none
  cwd := []
  root_dir := rfl
  cwd_dir := rfl
  closed l name h := by simp at h

theorem mkdirPath_makesPath_bareRoot :
    ∃ path : CString, path.chars = ['/', 'a', '/', '/', 'b', '/'] ∧
      ∃ fs', mkdirPath path bareRoot = some fs' ∧ MakesPath path.chars bareRoot fs' :=
  ⟨⟨['/', 'a', '/', '/', 'b', '/'], by decide⟩, rfl,
    mkdirPath_makesPath bareRoot _ (List.cons_ne_nil _ _) fun q _ ↦ by
      rw [bareRoot]
      simp only
      split <;> simp⟩

end GstWebrtcCamera

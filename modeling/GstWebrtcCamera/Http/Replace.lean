import GstWebrtcCamera.Http.Serve
import GstWebrtcCamera.Text.Search

/-!
# Filling in a page

GLib has `g_string_replace` from 2.68 on, and `soup.c` brings its own for the older ones. It works
in place: it erases a match, inserts the text in its stead, and goes on behind that, up to a limit.
-/

namespace GstWebrtcCamera

open CString Search

/-! ## `gst_g_string_replace` -/

/-- `g_string_erase`. -/
def gStringErase (string : List Char) (pos len : ℕ) : List Char :=
  string.take pos ++ string.drop (pos + len)

/-- `g_string_insert`. -/
def gStringInsert (string : List Char) (pos : ℕ) (val : List Char) : List Char :=
  string.take pos ++ (val ++ string.drop pos)

/-- `strstr(cur, find)`, as a position in the string. -/
def strstr (string : List Char) (cur : ℕ) (find : List Char) : Option ℕ :=
  (firstAt find (string.drop cur)).map (cur + ·)

/-- The string after one round. -/
def replaceAt (find replace string : List Char) (pos : ℕ) : List Char :=
  gStringInsert (gStringErase string pos find.length) pos replace

theorem strstr_le {string find : List Char} {cur pos : ℕ} (hcur : cur ≤ string.length)
    (h : strstr string cur find = some pos) : cur ≤ pos ∧ pos + find.length ≤ string.length := by
  obtain ⟨i, hi, rfl⟩ := Option.map_eq_some_iff.mp h
  have hle := add_length_le_of_firstAt hi
  rw [List.length_drop] at hle
  omega

theorem length_replaceAt (replace : List Char) {find string : List Char} {pos : ℕ}
    (h : pos + find.length ≤ string.length) :
    (replaceAt find replace string pos).length + find.length
      = string.length + replace.length := by
  simp only [replaceAt, gStringInsert, gStringErase, List.length_append, List.length_take,
    List.length_drop]
  omega

/-- The loop of `gst_g_string_replace`. The result is the string and `n`, which is a `guint`. -/
def gstGStringReplaceLoop (find replace : List Char) (limit : ℕ) (string : List Char) (cur n : ℕ) :
    List Char × ℕ :=
  if _hcur : cur ≤ string.length then
    match _h : strstr string cur find with
    | none => (string, n)
    | some pos =>
      let n' := (n + 1) % guintRange
      if find.length = 0 then
        -- the empty string is found once at a place, and not behind the end
        if (replaceAt find replace string pos).length ≤ pos + replace.length ∨ n' = limit then
          (replaceAt find replace string pos, n')
        else
          gstGStringReplaceLoop find replace limit (replaceAt find replace string pos)
            (pos + replace.length + 1) n'
      else if n' = limit then (replaceAt find replace string pos, n')
      else
        gstGStringReplaceLoop find replace limit (replaceAt find replace string pos)
          (pos + replace.length) n'
  else (string, n)
termination_by string.length - cur
decreasing_by
  all_goals
    obtain ⟨hle, hroom⟩ := strstr_le _hcur _h
    have hlength := length_replaceAt replace hroom
    omega

/-- `gst_g_string_replace`. -/
def gstGStringReplace (string find replace : List Char) (limit : ℕ) : List Char × ℕ :=
  gstGStringReplaceLoop find replace limit string 0 0

section Loop

variable {find replace : List Char} {limit : ℕ}

/-! ### One round -/

theorem gstGStringReplaceLoop_of_none {string : List Char} {cur : ℕ} (n : ℕ)
    (h : strstr string cur find = none) :
    gstGStringReplaceLoop find replace limit string cur n = (string, n) := by
  by_cases hcur : cur ≤ string.length
  · rw [gstGStringReplaceLoop, dif_pos hcur]
    split
    · rfl
    · next hsome =>
      rw [h] at hsome
      cases hsome
  · rw [gstGStringReplaceLoop, dif_neg hcur]

theorem gstGStringReplaceLoop_of_some {string : List Char} {cur pos n : ℕ}
    (hcur : cur ≤ string.length) (h : strstr string cur find = some pos)
    (hrange : n + 1 < guintRange) :
    gstGStringReplaceLoop find replace limit string cur n
      = if find.length = 0 then
          if (replaceAt find replace string pos).length ≤ pos + replace.length ∨ n + 1 = limit then
            (replaceAt find replace string pos, n + 1)
          else
            gstGStringReplaceLoop find replace limit (replaceAt find replace string pos)
              (pos + replace.length + 1) (n + 1)
        else if n + 1 = limit then (replaceAt find replace string pos, n + 1)
        else
          gstGStringReplaceLoop find replace limit (replaceAt find replace string pos)
            (pos + replace.length) (n + 1) := by
  have hwrap : (n + 1) % guintRange = n + 1 := Nat.mod_eq_of_lt hrange
  rw [gstGStringReplaceLoop, dif_pos hcur]
  split
  · next hnone =>
    rw [h] at hnone
    cases hnone
  · next hsome =>
    obtain rfl := Option.some.inj (h.symm.trans hsome)
    simp only [hwrap]

theorem strstr_append (done rest find : List Char) :
    strstr (done ++ rest) done.length find = (firstAt find rest).map (done.length + ·) := by
  rw [strstr, List.drop_left]

/-- A round changes what stands behind `cur` only. -/
theorem replaceAt_append (done rest : List Char) (i : ℕ) (hi : i ≤ rest.length) :
    replaceAt find replace (done ++ rest) (done.length + i)
      = done ++ (rest.take i ++ replace) ++ rest.drop (i + find.length) := by
  have htake : (done ++ rest).take (done.length + i) = done ++ rest.take i := by
    simp [List.take_append]
  have hdrop : (done ++ rest).drop (done.length + i + find.length)
      = rest.drop (i + find.length) := by
    simp [List.drop_append, Nat.add_assoc]
  have hlength : (done ++ rest.take i).length = done.length + i := by
    rw [List.length_append, List.length_take, Nat.min_eq_left hi]
  rw [replaceAt, gStringErase, htake, hdrop, gStringInsert, ← hlength, List.take_left,
    List.drop_left]
  simp only [List.append_assoc]

/-- What the limit leaves to replace: nothing is counted against it if it is zero. -/
def Budget (limit n b room : ℕ) : Prop := limit = n + b ∧ 0 < b ∨ limit = 0 ∧ room ≤ b

/-- **The loop.** Behind what is done it replaces as many places as it may. -/
theorem gstGStringReplaceLoop_eq (replace : List Char) (hfind : find ≠ []) (k : ℕ) :
    ∀ (done rest : List Char) (n b : ℕ), rest.length = k → n + rest.length < guintRange →
      Budget limit n b rest.length →
      gstGStringReplaceLoop find replace limit (done ++ rest) done.length n
        = (done ++ (replaceUpTo find replace b 0 rest).1,
            n + (replaceUpTo find replace b 0 rest).2) := by
  have hpos := List.length_pos_of_ne_nil hfind
  induction k using Nat.strong_induction_on with
  | _ k ih =>
    intro done rest n b hk hrange hbudget
    rcases hi : firstAt find rest with _ | i
    · rw [gstGStringReplaceLoop_of_none n (by rw [strstr_append, hi]; rfl), replaceUpTo_of_none hi]
      rfl
    · have hfound : strstr (done ++ rest) done.length find = some (done.length + i) := by
        rw [strstr_append, hi]
        rfl
      have hroom := add_length_le_of_firstAt hi
      obtain ⟨b, rfl⟩ : ∃ c, b = c + 1 := by
        rcases hbudget with ⟨-, hb⟩ | ⟨-, hb⟩
        · exact ⟨b - 1, by omega⟩
        · exact ⟨b - 1, by omega⟩
      rw [gstGStringReplaceLoop_of_some (by simp) hfound (by omega), replaceUpTo_of_some hfind hi,
        if_neg (by omega), replaceAt_append done rest i (firstAt_le hi)]
      by_cases hlimit : n + 1 = limit
      · -- the last place the limit allows
        have hb : b = 0 := by
          rcases hbudget with ⟨hb, -⟩ | ⟨hb, -⟩ <;> omega
        rw [if_pos hlimit, hb, replaceUpTo_zero]
        simp only [List.append_assoc]
      · have hcur : done.length + i + replace.length
            = (done ++ (rest.take i ++ replace)).length := by
          simp only [List.length_append, List.length_take, Nat.min_eq_left (firstAt_le hi)]
          omega
        have hleft : (rest.drop (i + find.length)).length + (i + find.length) = rest.length := by
          rw [List.length_drop]
          omega
        have hbudget' : Budget limit (n + 1) b (rest.drop (i + find.length)).length := by
          rcases hbudget with ⟨hb, -⟩ | ⟨hb, hle⟩
          · exact .inl (by omega)
          · exact .inr (by omega)
        rw [if_neg hlimit, hcur, ih _ (by omega) _ _ (n + 1) b rfl (by omega) hbudget']
        simp only [List.append_assoc, Nat.add_assoc, Nat.add_comm 1]

theorem gstGStringReplaceLoop_nil (replace : List Char) : ∀ (rest done : List Char) (n : ℕ),
    n + rest.length + 1 < guintRange →
      gstGStringReplaceLoop [] replace 0 (done ++ rest) done.length n
        = (done ++ (replace ++ rest.flatMap fun c ↦ c :: replace), n + rest.length + 1) := by
  intro rest
  induction rest with
  | nil =>
    intro done n hrange
    have hfound : strstr (done ++ []) done.length [] = some (done.length + 0) := by
      rw [strstr_append, firstAt_nil]
      rfl
    rw [gstGStringReplaceLoop_of_some (by simp) hfound (by omega), if_pos List.length_nil,
      replaceAt_append done [] 0 (Nat.zero_le _), if_pos (.inl (by simp))]
    simp
  | cons c rest ih =>
    intro done n hrange
    simp only [List.length_cons] at hrange
    have hfound : strstr (done ++ c :: rest) done.length [] = some (done.length + 0) := by
      rw [strstr_append, firstAt_nil]
      rfl
    have hnext := ih (done ++ (replace ++ [c])) (n + 1) (by omega)
    have hcur : (done ++ (replace ++ [c])).length = done.length + 0 + replace.length + 1 := by
      simp only [List.length_append, List.length_singleton]
      omega
    have hstring : done ++ (replace ++ [c]) ++ rest
        = done ++ ((c :: rest).take 0 ++ replace)
          ++ (c :: rest).drop (0 + ([] : List Char).length) := by
      simp
    rw [hcur, hstring] at hnext
    rw [gstGStringReplaceLoop_of_some (by simp) hfound (by omega), if_pos List.length_nil,
      replaceAt_append done (c :: rest) 0 (Nat.zero_le _), if_neg (by simp), hnext]
    simp only [List.flatMap_cons, List.append_assoc, List.cons_append, List.nil_append,
      List.length_cons]
    congr 1
    omega

theorem gstGStringReplace_eq (replace : List Char) {string : List Char} {b : ℕ} (hfind : find ≠ [])
    (hrange : string.length < guintRange) (hbudget : Budget limit 0 b string.length) :
    gstGStringReplace string find replace limit = replaceUpTo find replace b 0 string := by
  have hloop := gstGStringReplaceLoop_eq replace hfind _ [] string 0 b rfl
    (by rwa [Nat.zero_add]) hbudget
  rw [List.nil_append, List.nil_append, Nat.zero_add] at hloop
  exact hloop

/-- Where the limit is no limit, the places replaced are those of `g_string_replace`. -/
theorem fst_replaceUpTo (l : List Char) : ∀ b skip : ℕ, l.length ≤ b →
    (replaceUpTo find replace b skip l).1 = gStringReplace find replace skip l := by
  induction l with
  | nil =>
    intro b skip _
    cases skip <;> rfl
  | cons c cs ih =>
    intro b skip hb
    have hle : cs.length ≤ b - 1 := Nat.le_sub_one_of_lt hb
    cases skip with
    | succ skip => exact ih b skip (Nat.le_of_succ_le hb)
    | zero =>
      have hpos : 0 < b := Nat.lt_of_lt_of_le (Nat.succ_pos _) hb
      by_cases hfind : find <+: c :: cs
      · simp only [replaceUpTo, gStringReplace, if_pos hfind, if_pos (And.intro hpos hfind),
          ih (b - 1) (find.length - 1) hle]
      · have hnot : ¬ (0 < b ∧ find <+: c :: cs) := not_and_of_not_right (0 < b) hfind
        simp only [replaceUpTo, gStringReplace, if_neg hfind, if_neg hnot,
          ih b 0 (Nat.le_of_succ_le hb)]

end Loop

/-- **In place and from the front.** The loop ends, and it replaces the first places up to the
limit, as `g_string_replace` does without one. The empty string is replaced once at every place. -/
theorem gstGStringReplace_replaces (string replace : List Char)
    (hrange : string.length + 1 < guintRange) :
    (∀ find ≠ [], ∀ limit ≠ 0, gstGStringReplace string find replace limit
        = replaceUpTo find replace limit 0 string) ∧
      (∀ find ≠ [], (gstGStringReplace string find replace 0).1
        = gStringReplace find replace 0 string) ∧
      gstGStringReplace string [] replace 0
        = (replace ++ string.flatMap fun c ↦ c :: replace, string.length + 1) := by
  refine ⟨fun find hfind limit hlimit ↦ ?_, fun find hfind ↦ ?_, ?_⟩
  · exact gstGStringReplace_eq replace hfind (Nat.lt_of_succ_lt hrange)
      (.inl ⟨(Nat.zero_add limit).symm, Nat.pos_of_ne_zero hlimit⟩)
  · rw [gstGStringReplace_eq replace hfind (Nat.lt_of_succ_lt hrange) (.inr ⟨rfl, Nat.le_refl _⟩),
      fst_replaceUpTo string string.length 0 (Nat.le_refl _)]
  · have hloop := gstGStringReplaceLoop_nil replace string [] 0 (by omega)
    rw [List.nil_append, List.nil_append, Nat.zero_add] at hloop
    exact hloop

/-- What was inserted is not looked at again. -/
theorem gstGStringReplace_replaces_overlap :
    (gstGStringReplace ['x', 'a', 'a', 'a', 'b'] ['a', 'a'] ['a', 'a', 'a'] 0).1
      = ['x', 'a', 'a', 'a', 'a', 'b'] := by
  rw [(gstGStringReplace_replaces ['x', 'a', 'a', 'a', 'b'] _ (by decide)).2.1 ['a', 'a']
    (List.cons_ne_nil _ _)]
  decide

end GstWebrtcCamera

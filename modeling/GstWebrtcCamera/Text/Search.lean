import Mathlib.Data.List.Infix

/-!
# Looking for a list in a list

The first place where a list begins within another, and the replacement of the first few places
where it does. Places that overlap one already replaced do not count.
-/

namespace Search

variable {α : Type*} [DecidableEq α] (find replace : List α)

/-- How far behind the start `find` begins for the first time. -/
def firstAt : List α → Option ℕ
  | [] => if find = [] then some 0 else none
  | c :: cs => if find <+: c :: cs then some 0 else (firstAt cs).map (· + 1)

/-- Up to so many places replaced, and how many were. After one the `skip` elements it covers are
passed over. -/
def replaceUpTo : (budget skip : ℕ) → List α → List α × ℕ
  | _, _, [] => ([], 0)
  | budget, skip + 1, _ :: cs => replaceUpTo budget skip cs
  | budget, 0, c :: cs =>
    if 0 < budget ∧ find <+: c :: cs then
      let r := replaceUpTo (budget - 1) (find.length - 1) cs
      (replace ++ r.1, r.2 + 1)
    else
      let r := replaceUpTo budget 0 cs
      (c :: r.1, r.2)

variable {find replace} {l : List α} {b i : ℕ}

theorem prefix_drop_of_firstAt (h : firstAt find l = some i) : find <+: l.drop i := by
  induction l generalizing i with
  | nil =>
    rw [firstAt] at h
    split_ifs at h with hfind
    rw [hfind]
    exact List.nil_prefix
  | cons c cs ih =>
    rw [firstAt] at h
    split_ifs at h with hfind
    · rw [← Option.some.inj h]
      exact hfind
    · obtain ⟨j, hj, rfl⟩ := Option.map_eq_some_iff.mp h
      exact ih hj

theorem firstAt_le (h : firstAt find l = some i) : i ≤ l.length := by
  induction l generalizing i with
  | nil =>
    rw [firstAt] at h
    split_ifs at h
    rw [← Option.some.inj h]
    exact Nat.zero_le _
  | cons c cs ih =>
    rw [firstAt] at h
    split_ifs at h
    · rw [← Option.some.inj h]
      exact Nat.zero_le _
    · obtain ⟨j, hj, rfl⟩ := Option.map_eq_some_iff.mp h
      exact Nat.succ_le_succ (ih hj)

theorem add_length_le_of_firstAt (h : firstAt find l = some i) :
    i + find.length ≤ l.length := by
  have hi := firstAt_le h
  have hle := (prefix_drop_of_firstAt h).length_le
  rw [List.length_drop] at hle
  omega

theorem firstAt_nil (l : List α) : firstAt [] l = some 0 := by
  cases l with
  | nil => rw [firstAt, if_pos rfl]
  | cons c cs => rw [firstAt, if_pos List.nil_prefix]

/-! ## Replacing place by place -/

theorem replaceUpTo_zero (l : List α) : replaceUpTo find replace 0 0 l = (l, 0) := by
  induction l with
  | nil => rfl
  | cons c cs ih => simp [replaceUpTo, ih]

theorem replaceUpTo_skip (skip : ℕ) (l : List α) :
    replaceUpTo find replace b skip l = replaceUpTo find replace b 0 (l.drop skip) := by
  induction l generalizing skip with
  | nil => simp [replaceUpTo]
  | cons c cs ih =>
    cases skip with
    | zero => rfl
    | succ skip => exact ih skip

theorem replaceUpTo_of_none (h : firstAt find l = none) :
    replaceUpTo find replace b 0 l = (l, 0) := by
  induction l with
  | nil => rfl
  | cons c cs ih =>
    rw [firstAt] at h
    split_ifs at h with hfind
    have htail := ih (Option.map_eq_none_iff.mp h)
    simp [replaceUpTo, hfind, htail]

/-- **The next place.** What stands before it stays, and the rest begins behind it. -/
theorem replaceUpTo_of_some (hne : find ≠ []) (h : firstAt find l = some i) :
    replaceUpTo find replace (b + 1) 0 l
      = (l.take i ++ (replace ++ (replaceUpTo find replace b 0 (l.drop (i + find.length))).1),
          (replaceUpTo find replace b 0 (l.drop (i + find.length))).2 + 1) := by
  have hpos := List.length_pos_of_ne_nil hne
  induction l generalizing i with
  | nil =>
    rw [firstAt, if_neg hne] at h
    cases h
  | cons c cs ih =>
    rw [firstAt] at h
    split_ifs at h with hfind
    · obtain rfl := Option.some.inj h
      have hdrop : (c :: cs).drop (0 + find.length) = cs.drop (find.length - 1) := by
        rw [Nat.zero_add, ← Nat.sub_add_cancel hpos, List.drop_succ_cons]
        rfl
      rw [hdrop, ← replaceUpTo_skip]
      simp [replaceUpTo, hfind]
    · obtain ⟨j, hj, rfl⟩ := Option.map_eq_some_iff.mp h
      have hdrop : (c :: cs).drop (j + 1 + find.length) = cs.drop (j + find.length) := by
        rw [Nat.add_right_comm, List.drop_succ_cons]
      rw [hdrop]
      simp [replaceUpTo, hfind, ih hj]

end Search

import Mathlib.Logic.Function.Basic

/-!
# One flag for many owners

Parties take turns at something only one of them may have. Each remembers whether it has it, and a
shared flag says whether anybody does. The flag is what a newcomer looks at, so the arrangement
works as long as the two agree: `Exclusive`.

The flag is written by takers and by leavers without asking who has the thing. The two lemmas say
what that costs: a take keeps the agreement exactly when it succeeds, and a drop exactly when
nobody else has the thing.
-/

namespace Ownership

variable {ι : Type*} [DecidableEq ι]

/-- The shared flag and who has the thing. -/
structure Claim (ι : Type*) where
  flag : Bool
  owns : ι → Bool

/-- Raise the flag and try to get the thing. -/
def Claim.take (s : Claim ι) (i : ι) (ok : Bool) : Claim ι :=
  { flag := true, owns := Function.update s.owns i ok }

/-- Lower the flag and let go. -/
def Claim.drop (s : Claim ι) (i : ι) : Claim ι :=
  { flag := false, owns := Function.update s.owns i false }

/-- At most one party has the thing, and the flag says whether one does. -/
structure Exclusive (s : Claim ι) : Prop where
  unique : ∀ i j, s.owns i = true → s.owns j = true → i = j
  flag_iff : s.flag = true ↔ ∃ i, s.owns i = true

variable {s : Claim ι} {i : ι}

omit [DecidableEq ι] in
theorem exclusive_none : Exclusive ({ flag := false, owns := fun _ ↦ false } : Claim ι) where
  unique := by simp
  flag_iff := by simp

omit [DecidableEq ι] in
theorem Exclusive.not_owns (h : Exclusive s) (hflag : s.flag = false) (j : ι) :
    s.owns j = false := by
  rw [← Bool.not_eq_true]
  intro hj
  have := h.flag_iff.mpr ⟨j, hj⟩
  rw [hflag] at this
  contradiction

/-- **Taking.** With the flag down, a take keeps the agreement exactly when it succeeds. -/
theorem exclusive_take_iff (h : Exclusive s) (hflag : s.flag = false) (ok : Bool) :
    Exclusive (s.take i ok) ↔ ok = true := by
  have howns : ∀ j, (s.take i ok).owns j = true ↔ j = i ∧ ok = true := by
    intro j
    by_cases hj : j = i
    · simp [Claim.take, hj]
    · simp [Claim.take, hj, h.not_owns hflag j]
  constructor
  · intro h'
    obtain ⟨j, hj⟩ := h'.flag_iff.mp rfl
    exact ((howns j).mp hj).2
  · rintro rfl
    refine ⟨fun j k hj hk ↦ ?_, iff_of_true rfl ⟨i, (howns i).mpr ⟨rfl, rfl⟩⟩⟩
    rw [((howns j).mp hj).1, ((howns k).mp hk).1]

/-- **Dropping.** A drop keeps the agreement exactly when nobody else has the thing. -/
theorem exclusive_drop_iff : Exclusive (s.drop i) ↔ ∀ j, s.owns j = true → j = i := by
  have howns : ∀ j, (s.drop i).owns j = true ↔ j ≠ i ∧ s.owns j = true := by
    intro j
    by_cases hj : j = i
    · simp [Claim.drop, hj]
    · simp [Claim.drop, hj]
  constructor
  · intro h' j hj
    by_contra hne
    exact Bool.false_ne_true (h'.flag_iff.mpr ⟨j, (howns j).mpr ⟨hne, hj⟩⟩)
  · intro hall
    have hnone : ∀ j, ¬ (s.drop i).owns j = true := fun j hj ↦
      ((howns j).mp hj).1 (hall j ((howns j).mp hj).2)
    refine ⟨fun j _ hj _ ↦ absurd hj (hnone j), iff_of_false Bool.false_ne_true ?_⟩
    rintro ⟨j, hj⟩
    exact hnone j hj

theorem Exclusive.drop (h : Exclusive s) (hi : s.owns i = true) : Exclusive (s.drop i) :=
  exclusive_drop_iff.mpr fun j hj ↦ h.unique j i hj hi

end Ownership

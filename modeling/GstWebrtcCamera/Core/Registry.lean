import Mathlib.Data.Finset.Basic
import Mathlib.Data.List.Nodup

/-!
# A registry kept as a list

A registry is a set of members. Kept as a list, it is extended by appending, whether the member is
there already or not, and shrunk by taking out the first occurrence. The list represents the set if
it has no duplicates and the same elements.

Removing is always safe. Each of the three other things that can happen has its price, and the
lemmas give it exactly: an append needs a member that is not there yet, an append of something that
is no member any more is always wrong, and a removal that is forgotten does no harm only if there
was nothing to remove.
-/

namespace Registry

variable {α : Type*} [DecidableEq α]

/-- The list has every member once and nothing else. -/
structure Represents (l : List α) (S : Finset α) : Prop where
  nodup : l.Nodup
  mem_iff : ∀ a, a ∈ l ↔ a ∈ S

variable {l : List α} {S : Finset α} {a : α}

omit [DecidableEq α] in
theorem represents_nil : Represents ([] : List α) ∅ where
  nodup := List.nodup_nil
  mem_iff := by simp

omit [DecidableEq α] in
theorem nodup_append_singleton : (l ++ [a]).Nodup ↔ a ∉ l ∧ l.Nodup := by
  rw [← List.concat_eq_append, List.nodup_concat]

theorem Represents.erase (h : Represents l S) (a : α) : Represents (l.erase a) (S.erase a) where
  nodup := h.nodup.erase a
  mem_iff b := by rw [h.nodup.mem_erase_iff, Finset.mem_erase, h.mem_iff]

/-- **Appending** is right exactly for something that is not a member yet. -/
theorem Represents.append_iff (h : Represents l S) :
    Represents (l ++ [a]) (insert a S) ↔ a ∉ S := by
  rw [← h.mem_iff]
  constructor
  · intro h'
    exact (nodup_append_singleton.mp h'.nodup).1
  · intro ha
    refine ⟨nodup_append_singleton.mpr ⟨ha, h.nodup⟩, fun b ↦ ?_⟩
    rw [List.mem_append, List.mem_singleton, Finset.mem_insert, h.mem_iff, or_comm]

omit [DecidableEq α] in
/-- **Appending late.** What is not to become a member must not be appended. -/
theorem Represents.not_append (h : Represents l S) : ¬ Represents (l ++ [a]) S := by
  intro h'
  have hmem : a ∈ l := (h.mem_iff a).mpr ((h'.mem_iff a).mp (by simp))
  exact (nodup_append_singleton.mp h'.nodup).1 hmem

/-- **Forgetting to remove** is right exactly if there was nothing to remove. -/
theorem Represents.keep_iff (h : Represents l S) : Represents l (S.erase a) ↔ a ∉ S := by
  constructor
  · intro h' ha
    exact Finset.notMem_erase a S ((h'.mem_iff a).mp ((h.mem_iff a).mpr ha))
  · intro ha
    rwa [Finset.erase_eq_of_notMem ha]

end Registry

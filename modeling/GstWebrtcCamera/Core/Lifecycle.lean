import Mathlib.Data.List.Count
import Mathlib.Logic.Function.Basic

/-!
# Resources that are released exactly once

A party acquires resources named by keys and releases them again; the log lists what it did, in
order. `Settled` is the goal: every key acquired so far has been released exactly once. It cannot
hold while a resource is in use, so the invariant is `Holding log cur`: every acquired key has been
released exactly once, except the one the party still has a handle on, which has not been released
at all.

A handle is a single slot. Acquiring into an empty slot keeps the invariant, and so does releasing
what the slot holds. Acquiring into a full one forgets the only handle on the resource in it:
`not_settled_of_overwrite` says that closing up afterwards no longer settles the log.

`Parties` is the same for any number of parties that get their resources from one counter, so that
what is acquired is always new.
-/

namespace Lifecycle

variable {κ : Type*}

/-- One entry of a resource log. -/
inductive Op (κ : Type*)
  | acquire (k : κ)
  | release (k : κ)
  deriving DecidableEq, Repr

/-- The log after the party gives up what its slot holds. -/
def closeLog (log : List (Op κ)) : Option κ → List (Op κ)
  | some k => log ++ [.release k]
  | none => log

variable [DecidableEq κ]

/-- How often `k` has been released. -/
def releases (log : List (Op κ)) (k : κ) : ℕ := log.count (.release k)

/-- Every resource acquired so far has been released exactly once. -/
def Settled (log : List (Op κ)) : Prop := ∀ k, .acquire k ∈ log → releases log k = 1

/-- The party has a handle on `cur` and on nothing else, and lost nothing so far. -/
structure Holding (log : List (Op κ)) (cur : Option κ) : Prop where
  /-- Released once if given up, not at all if still in the slot. -/
  releases_eq : ∀ k, .acquire k ∈ log → releases log k = if cur = some k then 0 else 1
  /-- The slot holds something that was acquired. -/
  acquired : ∀ k, cur = some k → .acquire k ∈ log
  /-- Only acquired resources are released. -/
  released : ∀ k, .release k ∈ log → .acquire k ∈ log

variable {log : List (Op κ)} {cur : Option κ} {j k : κ}

@[simp] theorem releases_append_acquire (log : List (Op κ)) (j k : κ) :
    releases (log ++ [.acquire j]) k = releases log k := by
  simp [releases, List.count_append]

@[simp] theorem releases_append_release (log : List (Op κ)) (j k : κ) :
    releases (log ++ [.release j]) k = releases log k + if j = k then 1 else 0 := by
  rw [releases, releases, List.count_append, List.count_singleton]
  by_cases h : j = k
  · simp [h]
  · simp [h]

theorem releases_eq_zero_iff : releases log k = 0 ↔ .release k ∉ log := List.count_eq_zero

theorem holding_nil : Holding ([] : List (Op κ)) none where
  releases_eq := by simp
  acquired := by simp
  released := by simp

theorem Holding.acquire (h : Holding log none) (hk : .acquire k ∉ log) :
    Holding (log ++ [.acquire k]) (some k) where
  releases_eq i hi := by
    rw [releases_append_acquire]
    by_cases hik : k = i
    · subst hik
      rw [if_pos rfl, releases_eq_zero_iff]
      exact fun hrel ↦ hk (h.released k hrel)
    · have hmem : Op.acquire i ∈ log := by simpa [Ne.symm hik] using hi
      rw [h.releases_eq i hmem, if_neg (by simp), if_neg (by simpa using hik)]
  acquired i hi := by
    obtain rfl : k = i := by simpa using hi
    simp
  released i hi := by
    have hrel : Op.release i ∈ log := by simpa using hi
    exact List.mem_append_left _ (h.released i hrel)

theorem Holding.release (h : Holding log (some k)) : Holding (log ++ [.release k]) none where
  releases_eq i hi := by
    have hmem : Op.acquire i ∈ log := by simpa using hi
    rw [releases_append_release, h.releases_eq i hmem]
    by_cases hik : k = i
    · simp [hik]
    · simp [hik]
  acquired i hi := by simp at hi
  released i hi := by
    refine List.mem_append_left _ ?_
    rcases List.mem_append.mp hi with hi' | hi'
    · exact h.released i hi'
    · obtain rfl : i = k := by simpa using hi'
      exact h.acquired i rfl

theorem Holding.settled_closeLog (h : Holding log cur) : Settled (closeLog log cur) := by
  have hnone : ∀ {log' : List (Op κ)}, Holding log' none → Settled log' := by
    intro log' h' k hk
    rw [h'.releases_eq k hk, if_neg (by simp)]
  cases cur with
  | none => exact hnone h
  | some k => exact hnone h.release

/-- **A full slot overwritten.** The resource that was in it is never released again. -/
theorem not_settled_of_overwrite (h : Holding log (some j)) (hk : .acquire k ∉ log) :
    ¬ Settled (closeLog (log ++ [.acquire k]) (some k)) := by
  intro hset
  have hj : Op.acquire j ∈ log := h.acquired j rfl
  have hne : k ≠ j := fun hkj ↦ hk (hkj ▸ hj)
  have hone := hset j (List.mem_append_left _ (List.mem_append_left _ hj))
  have hzero : releases log j = 0 := by rw [h.releases_eq j hj, if_pos rfl]
  rw [closeLog, releases_append_release, releases_append_acquire, hzero, if_neg hne] at hone
  exact absurd hone (by decide)

/-! ## Many parties -/

/-- Every party holds what is in its slot, and everything acquired is below the counter. -/
structure Parties {ι : Type*} (n : ℕ) (logs : ι → List (Op ℕ)) (slots : ι → Option ℕ) : Prop where
  holding : ∀ i, Holding (logs i) (slots i)
  lt : ∀ i k, .acquire k ∈ logs i → k < n

namespace Parties

variable {ι : Type*} [DecidableEq ι] {n : ℕ} {logs : ι → List (Op ℕ)} {slots : ι → Option ℕ} {i : ι}

omit [DecidableEq ι] in
theorem nil : Parties 0 (fun _ : ι ↦ []) fun _ ↦ none where
  holding _ := holding_nil
  lt _ _ h := absurd h List.not_mem_nil

omit [DecidableEq ι] in
theorem succ (h : Parties n logs slots) : Parties (n + 1) logs slots where
  holding := h.holding
  lt i k hk := Nat.lt_succ_of_lt (h.lt i k hk)

theorem acquire (h : Parties n logs slots) (hi : slots i = none) :
    Parties (n + 1) (Function.update logs i (logs i ++ [.acquire n]))
      (Function.update slots i (some n)) where
  holding j := by
    by_cases hj : j = i
    · subst hj
      rw [Function.update_self, Function.update_self]
      exact (hi ▸ h.holding j).acquire fun hmem ↦ Nat.lt_irrefl n (h.lt j n hmem)
    · rw [Function.update_of_ne hj, Function.update_of_ne hj]
      exact h.holding j
  lt j k hk := by
    by_cases hj : j = i
    · subst hj
      rw [Function.update_self, List.mem_append, List.mem_singleton, Op.acquire.injEq] at hk
      rcases hk with hk | rfl
      · exact Nat.lt_succ_of_lt (h.lt j k hk)
      · exact Nat.lt_succ_self k
    · rw [Function.update_of_ne hj] at hk
      exact Nat.lt_succ_of_lt (h.lt j k hk)

theorem release (h : Parties n logs slots) {k : ℕ} (hi : slots i = some k) :
    Parties n (Function.update logs i (logs i ++ [.release k])) (Function.update slots i none) where
  holding j := by
    by_cases hj : j = i
    · subst hj
      rw [Function.update_self, Function.update_self]
      exact (hi ▸ h.holding j).release
    · rw [Function.update_of_ne hj, Function.update_of_ne hj]
      exact h.holding j
  lt j l hl := by
    by_cases hj : j = i
    · subst hj
      rw [Function.update_self, List.mem_append, List.mem_singleton] at hl
      exact h.lt j l (hl.resolve_right nofun)
    · rw [Function.update_of_ne hj] at hl
      exact h.lt j l hl

end Parties

end Lifecycle

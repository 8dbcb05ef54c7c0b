import Mathlib.Data.List.AList
import Mathlib.Logic.Function.Basic

/-!
# Reading a table

Two ways to read a table and what an insertion and a removal do to them. What is computed from the
entry of a key, or from its absence, is a function of the key, and changes at one key only. What
holds of every entry goes on holding if it holds of the new one.
-/

namespace AList

variable {κ β γ : Type*} [DecidableEq κ] (m : AList fun _ : κ ↦ β) (k : κ) (b : β)

/-! ## Functions of an entry -/

theorem comp_lookup_insert (F : Option β → γ) :
    (fun j ↦ F ((m.insert k b).lookup j))
      = Function.update (fun j ↦ F (m.lookup j)) k (F (some b)) := by
  funext j
  by_cases hj : j = k
  · subst hj
    rw [lookup_insert, Function.update_self]
  · rw [lookup_insert_ne hj, Function.update_of_ne hj]

theorem comp_lookup_erase (F : Option β → γ) :
    (fun j ↦ F ((m.erase k).lookup j)) = Function.update (fun j ↦ F (m.lookup j)) k (F none) := by
  funext j
  by_cases hj : j = k
  · subst hj
    rw [lookup_erase, Function.update_self]
  · rw [lookup_erase_ne hj, Function.update_of_ne hj]

/-! ## Properties of every entry -/

variable {m k b} {P : κ → β → Prop}

theorem forall_lookup_insert (h : ∀ j c, m.lookup j = some c → P j c) (hb : P k b) :
    ∀ j c, (m.insert k b).lookup j = some c → P j c := by
  intro j c hc
  by_cases hj : j = k
  · subst hj
    rw [lookup_insert, Option.some_inj] at hc
    exact hc ▸ hb
  · rw [lookup_insert_ne hj] at hc
    exact h j c hc

theorem forall_lookup_erase (h : ∀ j c, m.lookup j = some c → P j c) :
    ∀ j c, (m.erase k).lookup j = some c → P j c := by
  intro j c hc
  by_cases hj : j = k
  · subst hj
    rw [lookup_erase] at hc
    contradiction
  · rw [lookup_erase_ne hj] at hc
    exact h j c hc

end AList

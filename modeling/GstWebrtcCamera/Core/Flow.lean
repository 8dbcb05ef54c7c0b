import Mathlib.Data.List.Basic
import Mathlib.Data.List.Nodup
import Mathlib.Logic.Relation

/-!
# Graphs of links

A graph is the list of its links, each from one element to another, and it grows by appending. The
two questions about it are what gets the data of an element, and whether data can come back to where
it was.

What is reached is found backwards. An element whose only predecessor is `q` is reached exactly if
`q` is, and elements that nothing enters from outside are not reached from outside. Chains are the
usual way a graph grows: each element is linked to the next one.
-/

namespace Flow

variable {V : Type*} {links links' : List (V × V)} {u v w q : V}

/-- What a chain links: each element with the next. -/
def pairs : List V → List (V × V)
  | a :: b :: l => (a, b) :: pairs (b :: l)
  | _ => []

/-- `v` gets the data of `u`. -/
def Reaches (links : List (V × V)) : V → V → Prop :=
  Relation.ReflTransGen fun a b ↦ (a, b) ∈ links

/-- No data comes back. -/
def Acyclic (links : List (V × V)) : Prop :=
  ∀ v, ¬ Relation.TransGen (fun a b ↦ (a, b) ∈ links) v v

/-! ## Chains -/

@[simp] theorem pairs_nil : pairs ([] : List V) = [] := rfl

@[simp] theorem pairs_singleton (a : V) : pairs [a] = [] := rfl

@[simp] theorem pairs_cons_cons (a b : V) (l : List V) :
    pairs (a :: b :: l) = (a, b) :: pairs (b :: l) := rfl

theorem pairs_isPrefix {l l' : List V} (h : l <+: l') : pairs l <+: pairs l' := by
  induction l generalizing l' with
  | nil => exact List.nil_prefix
  | cons a l ih =>
    obtain ⟨r, rfl⟩ := h
    cases l with
    | nil => exact List.nil_prefix
    | cons b l => exact (List.cons_prefix_cons).mpr ⟨rfl, ih (List.prefix_append _ _)⟩

theorem mem_of_mem_pairs {l : List V} {p : V × V} (h : p ∈ pairs l) : p.1 ∈ l ∧ p.2 ∈ l.tail := by
  induction l with
  | nil => simp at h
  | cons a l ih =>
    cases l with
    | nil => simp at h
    | cons b l =>
      rcases List.mem_cons.mp h with rfl | h
      · exact ⟨List.mem_cons_self, List.mem_cons_self⟩
      · obtain ⟨h₁, h₂⟩ := ih h
        exact ⟨List.mem_cons_of_mem _ h₁, List.mem_cons_of_mem _ h₂⟩

theorem exists_mem_pairs {l : List V} (h : w ∈ l) : ∃ u, (u, w) ∈ pairs (v :: l) := by
  induction l generalizing v with
  | nil => cases h
  | cons a l ih =>
    rcases List.mem_cons.mp h with rfl | h
    · exact ⟨v, List.mem_cons_self⟩
    · obtain ⟨u, hu⟩ := ih (v := a) h
      exact ⟨u, List.mem_cons_of_mem _ hu⟩

/-! ## What is reached -/

namespace Reaches

theorem refl (links : List (V × V)) (u : V) : Reaches links u u := Relation.ReflTransGen.refl

theorem mono (h : ∀ p ∈ links, p ∈ links') (huv : Reaches links u v) : Reaches links' u v :=
  Relation.ReflTransGen.mono (fun _ _ hab ↦ h _ hab) _ _ huv

theorem trans (huv : Reaches links u v) (hvw : Reaches links v w) : Reaches links u w :=
  Relation.ReflTransGen.trans huv hvw

theorem tail (huv : Reaches links u v) (hvw : (v, w) ∈ links) : Reaches links u w :=
  Relation.ReflTransGen.tail huv hvw

end Reaches

theorem reaches_of_pairs {a : V} {l : List V} (h : ∀ p ∈ pairs (a :: l), p ∈ links) :
    ∀ b ∈ a :: l, Reaches links a b := by
  induction l generalizing a with
  | nil =>
    intro b hb
    rw [List.mem_singleton.mp hb]
    exact Reaches.refl links a
  | cons c l ih =>
    intro b hb
    rcases List.mem_cons.mp hb with rfl | hb
    · exact Reaches.refl links b
    · have hac : Reaches links a c := (Reaches.refl links a).tail (h _ List.mem_cons_self)
      exact hac.trans (ih (fun p hp ↦ h p (List.mem_cons_of_mem _ hp)) b hb)

/-- **No way in.** Elements that nothing outside is linked to are not reached from outside. -/
theorem not_reaches_of_closed {S : V → Prop} (hclosed : ∀ p ∈ links, S p.2 → S p.1) (hu : ¬ S u)
    (hv : S v) : ¬ Reaches links u v := by
  intro h
  refine hu (Relation.ReflTransGen.head_induction_on
    (motive := fun a _ ↦ S a) h hv fun {a c} hac _ hc ↦ ?_)
  exact hclosed (a, c) hac hc

/-- **One way in.** If the data of `u` can enter the elements of a chain from the one before only,
then it comes to the last one over every link of the chain. -/
theorem chain_of_reaches {l : List V} (hu : u ∉ l)
    (hpred : ∀ x y, (x, y) ∈ pairs (v :: l) → ∀ p, (p, y) ∈ links → Reaches links u p → p = x)
    (h : Reaches links u ((v :: l).getLast (List.cons_ne_nil v l))) :
    Reaches links u v ∧ ∀ pr ∈ pairs (v :: l), pr ∈ links := by
  induction l generalizing v with
  | nil => exact ⟨h, fun pr hpr ↦ absurd hpr List.not_mem_nil⟩
  | cons w l ih =>
    rw [List.getLast_cons (List.cons_ne_nil w l)] at h
    obtain ⟨hw, hrest⟩ := ih (fun hul ↦ hu (List.mem_cons_of_mem w hul))
      (fun x y hxy ↦ hpred x y (List.mem_cons_of_mem _ hxy)) h
    rcases Relation.ReflTransGen.cases_tail hw with rfl | ⟨p, hp, hpw⟩
    · exact absurd List.mem_cons_self hu
    · have hpv : p = v := hpred v w List.mem_cons_self p hpw hp
      rw [hpv] at hp hpw
      refine ⟨hp, fun pr hpr ↦ ?_⟩
      rcases List.mem_cons.mp hpr with rfl | hpr
      · exact hpw
      · exact hrest pr hpr

/-! ## No data comes back -/

theorem acyclic_of_rank (rank : V → ℕ) (h : ∀ p ∈ links, rank p.1 < rank p.2) :
    Acyclic links := by
  intro v hv
  have hlt : ∀ {a b : V}, Relation.TransGen (fun a b ↦ (a, b) ∈ links) a b → rank a < rank b := by
    intro a b hab
    induction hab with
    | single hlink => exact h _ hlink
    | tail _ hlink ih => exact Nat.lt_trans ih (h _ hlink)
  exact Nat.lt_irrefl _ (hlt hv)

end Flow

import Mathlib.Data.List.Basic
import Mathlib.Data.Set.Defs

/-!
# Runs of a total step function

A system is a state type `σ`, an event type `α` and a total step function. An event that cannot
happen in a state is one that leaves the state as it is, so a run is just a list of events and
every list is a run.

Two predicates on runs carry the development. `Always P` says that `P` holds in every state the
run passes through, its first and last included. `Meets C` says that every event of the run meets
a condition on the state it finds. The first is how a safety property is stated, the second how
the circumstances are stated in which a program keeps it.

## The exact form

`Meets C → Always P` is the usual guarded induction and needs an inductive strengthening `I`. The
converse is available whenever a single event that breaks `C` in an `I`-state is already visible
in the next state; `always_iff_meets` packages both directions, so that a property is never proved
under a condition that is stronger than what the program needs.
-/

namespace Run

variable {σ α : Type*} (step : σ → α → σ)

/-- The state reached by a run. -/
def exec (s : σ) (es : List α) : σ := es.foldl step s

/-- `P` holds in every state the run passes through. -/
def Always (P : σ → Prop) : σ → List α → Prop
  | s, [] => P s
  | s, e :: es => P s ∧ Always P (step s e) es

/-- Every event of the run meets `C` in the state it finds. -/
def Meets (C : σ → α → Prop) : σ → List α → Prop
  | _, [] => True
  | s, e :: es => C s e ∧ Meets C (step s e) es

/-- The states reachable from `s₀`. -/
def reachable (s₀ : σ) : Set σ := {s | ∃ es, exec step s₀ es = s}

variable {step}
variable {P Q I : σ → Prop} {C : σ → α → Prop} {s : σ} {e : α} {es : List α}

/-! ## The two ends of a run -/

theorem Always.head (h : Always step P s es) : P s := by
  cases es with
  | nil => exact h
  | cons e es => exact h.1

theorem Always.last (h : Always step P s es) : P (exec step s es) := by
  induction es generalizing s with
  | nil => exact h
  | cons e es ih => exact ih h.2

theorem Always.mono (hPQ : ∀ s, P s → Q s) (h : Always step P s es) : Always step Q s es := by
  induction es generalizing s with
  | nil => exact hPQ s h
  | cons e es ih => exact ⟨hPQ s h.1, ih h.2⟩

theorem exec_append (es' : List α) :
    exec step s (es ++ es') = exec step (exec step s es) es' := List.foldl_append

theorem exec_concat (es : List α) (e : α) :
    exec step s (es ++ [e]) = step (exec step s es) e := exec_append [e]

/-! ## Induction along a run -/

/-- An invariant that every event preserves holds at the end of every run. -/
theorem exec_induction (hs : I s) (hstep : ∀ s e, I s → I (step s e)) : I (exec step s es) := by
  induction es generalizing s with
  | nil => exact hs
  | cons e es ih => exact ih (hstep s e hs)

/-- An invariant of the initial state and of every step holds in every reachable state. -/
theorem mem_reachable_induction {s₀ : σ} (hs : I s₀) (hstep : ∀ s e, I s → I (step s e))
    (h : s ∈ reachable step s₀) : I s := by
  obtain ⟨es, rfl⟩ := h
  exact exec_induction hs hstep

/-- **Guarded induction.** An invariant preserved by the events that meet `C` holds throughout a
run whose events all meet `C`. -/
theorem Meets.always (hs : I s) (hstep : ∀ s e, I s → C s e → I (step s e))
    (h : Meets step C s es) : Always step I s es := by
  induction es generalizing s with
  | nil => exact hs
  | cons e es ih => exact ⟨hs, ih (hstep s e hs h.1) h.2⟩

/-- A condition that follows from an invariant and from what an event is. -/
theorem meets_of_forall {Q : α → Prop} (hs : I s) (hstep : ∀ s e, I s → Q e → I (step s e))
    (hC : ∀ s e, I s → Q e → C s e) (h : ∀ e ∈ es, Q e) : Meets step C s es := by
  induction es generalizing s with
  | nil => trivial
  | cons e es ih =>
    have he : Q e := h e List.mem_cons_self
    exact ⟨hC s e hs he, ih (hstep s e hs he) fun e' he' ↦ h e' (List.mem_cons_of_mem e he')⟩

/-- **The exact form.** If `I` strengthens `P`, is preserved by the events that meet `C`, and an
event that breaks `C` in an `I`-state breaks `P` in the next one, then a run keeps `P` throughout
exactly when all its events meet `C`. The events may all be of a kind `Q`. -/
theorem always_iff_meets_of_forall {Q : α → Prop} (hs : I s) (hP : ∀ s, I s → P s)
    (hstep : ∀ s e, I s → Q e → C s e → I (step s e))
    (hexact : ∀ s e, I s → Q e → P (step s e) → C s e) (hQ : ∀ e ∈ es, Q e) :
    Always step P s es ↔ Meets step C s es := by
  induction es generalizing s with
  | nil => exact iff_of_true (hP s hs) trivial
  | cons e es ih =>
    have he : Q e := hQ e List.mem_cons_self
    have hes : ∀ e' ∈ es, Q e' := fun e' he' ↦ hQ e' (List.mem_cons_of_mem e he')
    constructor
    · intro h
      have hC : C s e := hexact s e hs he h.2.head
      exact ⟨hC, (ih (hstep s e hs he hC) hes).mp h.2⟩
    · intro h
      exact ⟨hP s hs, (ih (hstep s e hs he h.1) hes).mpr h.2⟩

theorem always_iff_meets (hs : I s) (hP : ∀ s, I s → P s)
    (hstep : ∀ s e, I s → C s e → I (step s e)) (hexact : ∀ s e, I s → P (step s e) → C s e) :
    Always step P s es ↔ Meets step C s es :=
  always_iff_meets_of_forall (Q := fun _ ↦ True) hs hP (fun s e hs _ ↦ hstep s e hs)
    (fun s e hs _ ↦ hexact s e hs) fun _ _ ↦ trivial

end Run

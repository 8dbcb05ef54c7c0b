import Mathlib.Data.List.Basic

/-!
# A flag that runs ahead of what it shows

A client shows a flag for something a server does. Switching the flag takes effect at once and sends
a request; the server serves requests in order, and a request to switch on may be refused, which the
client learns from a refusal that switches the flag off.

The flag and the server are `InStep` if the flag agrees with the last request under way, and with
the server if there is none. A refusal under way excuses a flag that is on without reason. Nothing
excuses one that is off while the server is on, so what the lemmas ask for is mostly that nobody
switches the server off, or the flag, without the other noticing.
-/

/-- What the client shows, what is under way, and what the server does. -/
structure Mirror where
  flag : Bool
  requests : List Bool
  refusals : ℕ
  actual : Bool

namespace Mirror

/-- The flag agrees with the last request, or with the server if there is none. -/
def InStep (m : Mirror) : Prop :=
  match m.requests.getLast? with
  | some b => m.flag = b
  | none => (m.actual = true → m.flag = true) ∧ (m.actual = false → m.refusals = 0 → m.flag = false)

variable {m : Mirror} {rest : List Bool} {b : Bool}

theorem inStep_of_getLast? (hlast : m.requests.getLast? = some b) : InStep m ↔ m.flag = b := by
  rw [InStep, hlast]

theorem inStep_of_nil (hnil : m.requests = []) : InStep m ↔
    (m.actual = true → m.flag = true) ∧ (m.actual = false → m.refusals = 0 → m.flag = false) := by
  rw [InStep, hnil]
  rfl

theorem InStep.flag_eq (h : InStep m) (hnil : m.requests = []) (hrefusals : m.refusals = 0) :
    m.flag = m.actual := by
  rw [inStep_of_nil hnil] at h
  cases hact : m.actual with
  | true => exact h.1 hact
  | false => exact h.2 hact hrefusals

theorem inStep_switch (m : Mirror) (b : Bool) :
    InStep { m with flag := b, requests := m.requests ++ [b] } :=
  (inStep_of_getLast? List.getLast?_concat).mpr rfl

theorem InStep.serve (h : InStep m) (hq : m.requests = b :: rest) (hrest : rest ≠ [])
    (refusals : ℕ) (actual : Bool) :
    InStep { m with requests := rest, refusals := refusals, actual := actual } := by
  obtain ⟨last, hlast⟩ := Option.isSome_iff_exists.mp (List.getLast?_isSome.mpr hrest)
  have hlast' : m.requests.getLast? = some last := by
    rw [hq, List.getLast?_cons_of_ne_nil hrest, hlast]
  exact (inStep_of_getLast? hlast).mpr ((inStep_of_getLast? hlast').mp h)

theorem InStep.flag_of_singleton (h : InStep m) (hq : m.requests = [b]) : m.flag = b :=
  (inStep_of_getLast? (by rw [hq]; rfl)).mp h

theorem InStep.refuse (h : InStep m) (hq : m.requests = true :: rest) :
    InStep { m with requests := rest, refusals := m.refusals + 1 } := by
  by_cases hrest : rest = []
  · subst hrest
    rw [inStep_of_nil rfl]
    exact ⟨fun _ ↦ h.flag_of_singleton hq, fun _ ↦ nofun⟩
  · exact h.serve hq hrest (m.refusals + 1) m.actual

theorem InStep.accept (h : InStep m) (hq : m.requests = true :: rest)
    (hb : b = true ∨ rest ≠ [] ∨ 0 < m.refusals) :
    InStep { m with requests := rest, actual := b } := by
  by_cases hrest : rest = []
  · subst hrest
    rw [inStep_of_nil rfl]
    refine ⟨fun _ ↦ h.flag_of_singleton hq, fun hact hzero ↦ ?_⟩
    rcases hb with hb | hb | hb
    · exact absurd (hb.symm.trans hact) (by decide)
    · exact absurd rfl hb
    · exact absurd hzero (Nat.ne_of_gt hb)
  · exact h.serve hq hrest m.refusals b

theorem InStep.stop (h : InStep m) (hq : m.requests = false :: rest) :
    InStep { m with requests := rest, actual := false } := by
  by_cases hrest : rest = []
  · subst hrest
    rw [inStep_of_nil rfl]
    exact ⟨nofun, fun _ _ ↦ h.flag_of_singleton hq⟩
  · exact h.serve hq hrest m.refusals false

theorem inStep_refused (hlast : m.requests.getLast? ≠ some true)
    (hact : m.requests = [] → m.actual = false) (refusals : ℕ) :
    InStep { m with flag := false, refusals := refusals } := by
  cases hq : m.requests.getLast? with
  | none =>
    have hnil : m.requests = [] := List.getLast?_eq_none_iff.mp hq
    refine (inStep_of_nil ?_).mpr ⟨fun h ↦ ?_, fun _ _ ↦ rfl⟩
    · exact hnil
    · exact absurd (h.symm.trans (hact hnil)) (by decide)
  | some b =>
    obtain rfl : b = false := by
      rw [← Bool.not_eq_true]
      rintro rfl
      exact hlast hq
    exact (inStep_of_getLast? (by exact hq)).mpr rfl

theorem inStep_cut (h : m.flag = false ∨ 0 < m.refusals) :
    InStep { m with requests := [], actual := false } := by
  rw [inStep_of_nil rfl]
  refine ⟨nofun, fun _ hzero ↦ ?_⟩
  rcases h with h | h
  · exact h
  · exact absurd hzero (Nat.ne_of_gt h)

end Mirror

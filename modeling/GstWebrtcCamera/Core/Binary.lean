import Mathlib.Data.Int.Log
import Mathlib.Data.Nat.Cast.Order.Field
import Mathlib.Data.Rat.Floor
import Mathlib.Tactic.FieldSimp
import Mathlib.Tactic.Linarith
import Mathlib.Tactic.NormNum

/-!
# Rounding to binary digits

A floating-point format with `p` significant bits, away from its smallest and largest numbers,
rounds a positive number to the nearest multiple of the unit in its last place. The rounding here
works on rationals, so that a quotient and what becomes of it can be compared exactly.

Two facts are enough to know when a truncation is not spoiled by the rounding before it: a number is
not rounded down past an integer (`le_round`), and what rounding up adds is small (`round_le`).
-/

namespace Binary

/-- The nearest integer, the even one of two. -/
def nearestEven (q : ℚ) : ℤ :=
  if 2 * Int.fract q < 1 ∨ 2 * Int.fract q = 1 ∧ Even ⌊q⌋ then ⌊q⌋ else ⌊q⌋ + 1

/-- The unit in the last place of a number with `p` significant bits. -/
def ulp (p : ℕ) (q : ℚ) : ℚ := 2 ^ (Int.log 2 q + 1 - p)

/-- Round to `p` significant bits. -/
def round (p : ℕ) (q : ℚ) : ℚ := nearestEven (q / ulp p q) * ulp p q

variable {p : ℕ} {q : ℚ}

/-! ## The nearest integer -/

theorem nearestEven_sub_le (q : ℚ) : nearestEven q - q ≤ 1 / 2 := by
  have hfract : (⌊q⌋ : ℚ) + Int.fract q = q := Int.floor_add_fract q
  have hnonneg : 0 ≤ Int.fract q := Int.fract_nonneg q
  rw [nearestEven]
  split_ifs with h
  · linarith
  · have hhalf : 1 ≤ 2 * Int.fract q := not_lt.mp fun hlt ↦ h (.inl hlt)
    push_cast
    linarith

theorem floor_le_nearestEven (q : ℚ) : ⌊q⌋ ≤ nearestEven q := by
  rw [nearestEven]
  split_ifs <;> omega

/-! ## Rounding -/

theorem ulp_pos (p : ℕ) (q : ℚ) : 0 < ulp p q := zpow_pos two_pos _

theorem round_le (hq : 0 < q) : round p q ≤ q * (1 + 1 / 2 ^ p) := by
  have hulp : 0 < ulp p q := ulp_pos p q
  have hhalf : ulp p q / 2 ≤ q / 2 ^ p := by
    have hlog : (2 : ℚ) ^ Int.log 2 q ≤ q := by
      exact_mod_cast Int.zpow_log_le_self (b := 2) one_lt_two hq
    have hsplit : ulp p q / 2 = 2 ^ Int.log 2 q / 2 ^ p := by
      rw [ulp, zpow_sub₀ two_ne_zero, zpow_add_one₀ two_ne_zero, zpow_natCast]
      ring
    rw [hsplit]
    gcongr
  have hsub := nearestEven_sub_le (q / ulp p q)
  have hround : round p q - q = (nearestEven (q / ulp p q) - q / ulp p q) * ulp p q := by
    rw [round, sub_mul, div_mul_cancel₀ q hulp.ne']
  have hle : round p q - q ≤ 1 / 2 * ulp p q := by
    rw [hround]
    gcongr
  have hexpand : q * (1 + 1 / 2 ^ p) = q + q / 2 ^ p := by ring
  linarith

theorem le_round (hq : 0 < q) (hlt : q < 2 ^ p) {n : ℕ} (hn : (n : ℚ) ≤ q) :
    (n : ℚ) ≤ round p q := by
  have hulp : 0 < ulp p q := ulp_pos p q
  have hlog : Int.log 2 q + 1 ≤ p := by
    have hpow : ((2 : ℕ) : ℚ) ^ Int.log 2 q < (2 : ℕ) ^ (p : ℤ) := by
      rw [zpow_natCast]
      exact (Int.zpow_log_le_self one_lt_two hq).trans_lt (by exact_mod_cast hlt)
    have := (zpow_lt_zpow_iff_right₀ (by norm_num : (1 : ℚ) < (2 : ℕ))).mp hpow
    omega
  -- the unit is one over a power of two, so the integer is a multiple of it
  obtain ⟨k, hk⟩ : ∃ k : ℕ, Int.log 2 q + 1 - p = -(k : ℤ) :=
    ⟨(p - (Int.log 2 q + 1)).toNat, by omega⟩
  have hulp_eq : ulp p q = (2 ^ k)⁻¹ := by rw [ulp, hk, zpow_neg, zpow_natCast]
  have hmultiple : (n : ℚ) = ((n * 2 ^ k : ℤ) : ℚ) * ulp p q := by
    rw [hulp_eq]
    push_cast
    rw [mul_assoc, mul_inv_cancel₀ (by positivity), mul_one]
  have hfloor : (n * 2 ^ k : ℤ) ≤ ⌊q / ulp p q⌋ := by
    rw [Int.le_floor, le_div_iff₀ hulp, ← hmultiple]
    exact hn
  rw [hmultiple, round]
  have hle : (n * 2 ^ k : ℤ) ≤ nearestEven (q / ulp p q) :=
    hfloor.trans (floor_le_nearestEven _)
  gcongr

theorem round_pos (hp : 0 < p) (hq : 0 < q) : 0 < round p q := by
  have hulp : 0 < ulp p q := ulp_pos p q
  have hlog : (2 : ℚ) ^ Int.log 2 q ≤ q := by
    exact_mod_cast Int.zpow_log_le_self (b := 2) one_lt_two hq
  have hone : (1 : ℤ) ≤ ⌊q / ulp p q⌋ := by
    have hle : ulp p q ≤ (2 : ℚ) ^ Int.log 2 q :=
      zpow_le_zpow_right₀ (by norm_num) (by omega)
    rw [Int.le_floor, le_div_iff₀ hulp]
    push_cast
    linarith
  have hpos : 0 < nearestEven (q / ulp p q) :=
    lt_of_lt_of_le (by omega) (floor_le_nearestEven _)
  have hcast : (0 : ℚ) < nearestEven (q / ulp p q) := by exact_mod_cast hpos
  rw [round]
  positivity

@[simp] theorem round_zero (p : ℕ) : round p 0 = 0 := by simp [round, nearestEven]

/-! ## A quotient, truncated

The quotient of two integers is computed with the 53 bits of a `double`, stored with the 24 of a
`float` and truncated. If the quotient is not an integer, what it lacks to the next one is at least
one part of the denominator, and that is more than the two roundings can add. -/

theorem round_mul_lt {a b : ℕ} (ha : 0 < a) (hb : 0 < b) (hlt : b * (a / b + 1) < 2 ^ 24) :
    round 53 ((a : ℚ) / b) * (1 + 1 / 2 ^ 24) < (a / b : ℕ) + 1 := by
  have hbq : (0 : ℚ) < b := by exact_mod_cast hb
  have hq : (0 : ℚ) < (a : ℚ) / b := by positivity
  obtain ⟨n, hn⟩ : ∃ n, n = a / b := ⟨_, rfl⟩
  rw [← hn] at hlt ⊢
  have hnext : (a : ℚ) + 1 ≤ b * (n + 1) := by
    have : a + 1 ≤ b * (n + 1) := by
      rw [hn]
      exact Nat.lt_mul_div_succ a hb
    exact_mod_cast this
  have hsmall : (b : ℚ) * (n + 1) + 1 ≤ 2 ^ 24 := by exact_mod_cast hlt
  have hgap : (a : ℚ) / b ≤ (n + 1) * (1 - 1 / (2 ^ 24 - 1)) := by
    rw [div_le_iff₀ hbq]
    have hpart : b * ((n : ℚ) + 1) * (1 / (2 ^ 24 - 1)) ≤ 1 := by
      rw [mul_one_div, div_le_one (by norm_num)]
      linarith
    linarith
  calc round 53 ((a : ℚ) / b) * (1 + 1 / 2 ^ 24)
      ≤ (a : ℚ) / b * (1 + 1 / 2 ^ 53) * (1 + 1 / 2 ^ 24) := by
        gcongr
        exact round_le hq
    _ ≤ ((n : ℚ) + 1) * (1 - 1 / (2 ^ 24 - 1)) * (1 + 1 / 2 ^ 53) * (1 + 1 / 2 ^ 24) := by gcongr
    _ = ((n : ℚ) + 1) * ((1 - 1 / (2 ^ 24 - 1)) * (1 + 1 / 2 ^ 53) * (1 + 1 / 2 ^ 24)) := by ring
    _ < ((n : ℚ) + 1) * 1 := by
        gcongr
        norm_num
    _ = (n : ℚ) + 1 := mul_one _

/-- **Truncation.** If the denominator times the next integer fits into 24 bits, the rounded
quotient is truncated to what integer division gives. -/
theorem floor_round_round {a b : ℕ} (hb : 0 < b) (hlt : b * (a / b + 1) < 2 ^ 24) :
    ⌊round 24 (round 53 ((a : ℚ) / b))⌋ = (a / b : ℕ) := by
  rcases Nat.eq_zero_or_pos a with rfl | ha
  · simp
  have hbq : (0 : ℚ) < b := by exact_mod_cast hb
  have hq : (0 : ℚ) < (a : ℚ) / b := by positivity
  have hpos : 0 < round 53 ((a : ℚ) / b) := round_pos (by norm_num) hq
  have hroom := round_mul_lt ha hb hlt
  have hn : ((a / b : ℕ) : ℚ) + 1 ≤ 2 ^ 24 := by
    exact_mod_cast (Nat.le_mul_of_pos_left _ hb).trans hlt.le
  have hnext : (a : ℚ) / b < (a / b : ℕ) + 1 := by
    rw [div_lt_iff₀ hbq, mul_comm]
    exact_mod_cast Nat.lt_mul_div_succ a hb
  have hround : round 53 ((a : ℚ) / b) < (a / b : ℕ) + 1 := by linarith
  rw [Int.floor_eq_iff]
  push_cast
  constructor
  · refine le_round hpos (by linarith) (le_round hq (by linarith) Nat.cast_div_le)
  · exact (round_le hpos).trans_lt hroom

end Binary

import Mathlib.Algebra.Order.Ring.Int
import Mathlib.Tactic.Positivity
import Mathlib.Tactic.Ring

/-!
# Integers of C

A C integer has a width and may have a sign. Converting one to another type keeps the value if the
type has it, and is modulo a power of two otherwise. An operation first brings both operands to a
common type. Its result is again modulo a power of two if that type is unsigned, and undefined if it
is signed and does not have the result.

`Gives r n` says that a computation is defined and comes out at `n`, the number it stands for. For a
product that is the case exactly if the common type has the number (`gives_mul_iff`), whether or not
it has a sign, and so also for a product that is handed on in another type which has all of its
numbers from zero on (`gives_map_convert_mul_iff`).
-/

/-- An integer type that is at least as wide as `int`. -/
structure IntType where
  bits : ℕ
  signed : Bool
  bits_pos : 0 < bits
  deriving DecidableEq

namespace IntType

def int32 : IntType := ⟨32, true, by decide⟩

def uint32 : IntType := ⟨32, false, by decide⟩

def int64 : IntType := ⟨64, true, by decide⟩

def uint64 : IntType := ⟨64, false, by decide⟩

variable (t : IntType)

/-- The smallest number of the type. -/
def lo : ℤ := if t.signed then -2 ^ (t.bits - 1) else 0

/-- One more than the largest. -/
def hi : ℤ := if t.signed then 2 ^ (t.bits - 1) else 2 ^ t.bits

def InRange (n : ℤ) : Prop := t.lo ≤ n ∧ n < t.hi

instance : DecidablePred t.InRange := fun _ ↦ inferInstanceAs (Decidable (_ ∧ _))

theorem inRange_int32_iff {n : ℤ} : int32.InRange n ↔ -2147483648 ≤ n ∧ n < 2147483648 := .rfl

theorem inRange_int64_iff {n : ℤ} :
    int64.InRange n ↔ -9223372036854775808 ≤ n ∧ n < 9223372036854775808 := .rfl

theorem inRange_uint64_iff {n : ℤ} : uint64.InRange n ↔ 0 ≤ n ∧ n < 18446744073709551616 := .rfl

/-- The number of the type that a number becomes. -/
def wrap (n : ℤ) : ℤ := (n - t.lo) % 2 ^ t.bits + t.lo

/-- The usual arithmetic conversions. -/
def common (s t : IntType) : IntType :=
  if s.signed = t.signed then if s.bits < t.bits then t else s
  else if s.signed then if s.bits ≤ t.bits then t else s
  else if t.bits ≤ s.bits then s else t

theorem lo_add_two_pow : t.lo + 2 ^ t.bits = t.hi := by
  rw [lo, hi]
  split_ifs
  · obtain ⟨n, hn⟩ := Nat.exists_eq_add_of_lt t.bits_pos
    rw [hn, Nat.zero_add, Nat.add_sub_cancel, pow_succ]
    ring
  · exact zero_add _

theorem inRange_wrap (n : ℤ) : t.InRange (t.wrap n) := by
  have hpos : (0 : ℤ) < 2 ^ t.bits := by positivity
  have hnonneg := Int.emod_nonneg (n - t.lo) hpos.ne'
  have hlt := Int.emod_lt_of_pos (n - t.lo) hpos
  have hhi := t.lo_add_two_pow
  rw [InRange, wrap]
  omega

variable {t}

theorem wrap_of_inRange {n : ℤ} (h : t.InRange n) : t.wrap n = n := by
  obtain ⟨hlo, hhi⟩ := h
  rw [← t.lo_add_two_pow] at hhi
  rw [wrap, Int.emod_eq_of_lt (by omega) (by omega), Int.sub_add_cancel]

theorem wrap_add_mul {n : ℤ} (h : t.InRange n) (k : ℤ) : t.wrap (n + 2 ^ t.bits * k) = n := by
  have hturn : t.wrap (n + 2 ^ t.bits * k) = t.wrap n := by
    rw [wrap, wrap, add_sub_right_comm, Int.add_mul_emod_self_left]
  rw [hturn, wrap_of_inRange h]

theorem InRange.nonneg {n : ℤ} (hn : t.InRange n) (h : ¬ t.signed = true) : 0 ≤ n := by
  have hlo := hn.1
  rwa [lo, if_neg h] at hlo

theorem lo_nonpos : t.lo ≤ 0 := by
  rw [lo]
  split_ifs
  · exact Int.neg_nonpos_of_nonneg (by positivity)
  · exact le_rfl

end IntType

/-- A number of the type. -/
structure CInt (t : IntType) where
  val : ℤ
  inRange : t.InRange val

namespace CInt

open IntType

variable {s t u : IntType}

def convert (t : IntType) (x : CInt s) : CInt t := ⟨t.wrap x.val, t.inRange_wrap _⟩

/-- The result of an operation, which is this number where it is exact. -/
def result (t : IntType) (n : ℤ) : Option (CInt t) :=
  if h : t.InRange n then some ⟨n, h⟩
  else if t.signed then none
  else some ⟨t.wrap n, t.inRange_wrap n⟩

def mul (x : CInt s) (y : CInt t) : Option (CInt (common s t)) :=
  result _ ((x.convert (common s t)).val * (y.convert (common s t)).val)

/-- The computation is defined, and this is its value. -/
def Gives (r : Option (CInt t)) (n : ℤ) : Prop := ∃ x, r = some x ∧ x.val = n

theorem convert_val {x : CInt s} (h : t.InRange x.val) : (x.convert t).val = x.val :=
  wrap_of_inRange h

theorem Gives.inRange {r : Option (CInt t)} {n : ℤ} (h : Gives r n) : t.InRange n := by
  obtain ⟨x, -, rfl⟩ := h
  exact x.inRange

theorem Gives.unique {r : Option (CInt t)} {m n : ℤ} (hm : Gives r m) (hn : Gives r n) :
    m = n := by
  obtain ⟨x, rfl, rfl⟩ := hm
  obtain ⟨y, hy, rfl⟩ := hn
  rw [Option.some.inj hy]

theorem gives_result_iff {n : ℤ} : Gives (result t n) n ↔ t.InRange n :=
  ⟨Gives.inRange, fun h ↦ ⟨⟨n, h⟩, dif_pos h, rfl⟩⟩

/-- **A product.** It is exact if the common type has it. -/
theorem gives_mul_iff {x : CInt s} {y : CInt t} (hx : (common s t).InRange x.val)
    (hy : (common s t).InRange y.val) :
    Gives (x.mul y) (x.val * y.val) ↔ (common s t).InRange (x.val * y.val) := by
  rw [mul, convert_val hx, convert_val hy]
  exact gives_result_iff

/-- **A product that is handed on.** -/
theorem gives_map_convert_mul_iff {x : CInt s} {y : CInt t} (hx : (common s t).InRange x.val)
    (hy : (common s t).InRange y.val) (hu : (common s t).hi ≤ u.hi) (hx₀ : 0 ≤ x.val)
    (hy₀ : 0 ≤ y.val) :
    Gives ((x.mul y).map (convert u)) (x.val * y.val)
      ↔ (common s t).InRange (x.val * y.val) := by
  constructor
  · rintro ⟨z, hz, hval⟩
    rw [mul, convert_val hx, convert_val hy, result] at hz
    split_ifs at hz with hrange hsigned
    · exact hrange
    · contradiction
    · -- an unsigned product that is not exact stays inexact
      obtain rfl := Option.some.inj hz
      have hwrap := (common s t).inRange_wrap (x.val * y.val)
      have hfits : u.InRange ((common s t).wrap (x.val * y.val)) :=
        ⟨lo_nonpos.trans (hwrap.nonneg hsigned), hwrap.2.trans_le hu⟩
      have heq : (common s t).wrap (x.val * y.val) = x.val * y.val :=
        (wrap_of_inRange hfits).symm.trans hval
      exact heq ▸ hwrap
  · intro h
    obtain ⟨z, hz, hval⟩ := (gives_mul_iff hx hy).mpr h
    refine ⟨z.convert u, by rw [hz]; rfl, ?_⟩
    have hfits : u.InRange z.val := by
      rw [hval]
      exact ⟨lo_nonpos.trans (Int.mul_nonneg hx₀ hy₀), h.2.trans_le hu⟩
    rw [convert_val hfits, hval]

end CInt

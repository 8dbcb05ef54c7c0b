import Mathlib.Data.List.Basic
import Mathlib.Data.List.TakeWhile

/-!
# C strings

A C string is text up to a terminating NUL, so it contains none itself. One `Char` stands for one
byte of the string. A `char *` that may be `NULL` is an `Option CString`; formatting one with `%s`
writes `(null)` when it is.
-/

/-- A string as C sees it: the terminator is not part of it. -/
structure CString where
  chars : List Char
  noNul : '\x00' ∉ chars
  deriving DecidableEq

namespace CString

/-- The C string at the start of a buffer. -/
def cut (buf : List Char) : CString where
  chars := buf.takeWhile (· != '\x00')
  noNul h := absurd (List.mem_takeWhile_imp h) (by decide)

def ofString (s : String) : CString := cut s.toList

/-- Fixed text of a format. It stays folded: the texts are long, and no proof looks inside one
except to decide something about its characters. -/
@[irreducible] def lit (s : String) : List Char := s.toList

/-- What `%s` writes. -/
def percentS : Option CString → List Char
  | some s => s.chars
  | none => "(null)".toList

/-- What `%lu` writes. -/
def percentLu (n : UInt64) : List Char := Nat.toDigits 10 n.toNat

theorem chars_cut {buf : List Char} (h : '\x00' ∉ buf) : (cut buf).chars = buf :=
  List.takeWhile_eq_self_iff.mpr fun _ hc ↦ bne_iff_ne.mpr (ne_of_mem_of_not_mem hc h)

theorem chars_injective : Function.Injective chars := fun ⟨_, _⟩ ⟨_, _⟩ h ↦ by
  cases h
  rfl

@[simp] theorem percentS_some (s : CString) : percentS (some s) = s.chars := rfl

theorem quote_mem_percentS {s : Option CString} :
    '\'' ∈ percentS s ↔ ∃ t, s = some t ∧ '\'' ∈ t.chars := by
  cases s with
  | none => exact iff_of_false (by decide) (by simp)
  | some t => simp

end CString

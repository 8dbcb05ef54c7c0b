import Mathlib.Data.Nat.Digits.Defs

/-!
# Numbers in a byte buffer

A number is written as `w` bytes, the least significant first, and read back from them. A record is
laid out as fields one after the other, and a reader takes a field out by the number of bytes before
it.
-/

namespace Bytes

/-- The `w` lowest bytes of a number, the lowest first. -/
def encode : ℕ → ℕ → List UInt8
  | 0, _ => []
  | w + 1, n => UInt8.ofNat n :: encode w (n / 256)

def decode (bs : List UInt8) : ℕ := Nat.ofDigits 256 (bs.map UInt8.toNat)

/-- The `w` bytes of a buffer that stand `offset` bytes behind its start. -/
def field (buf : List UInt8) (offset w : ℕ) : List UInt8 := (buf.drop offset).take w

@[simp] theorem length_encode (w n : ℕ) : (encode w n).length = w := by
  induction w generalizing n with
  | zero => rfl
  | succ w ih => rw [encode, List.length_cons, ih]

theorem decode_encode (w n : ℕ) : decode (encode w n) = n % 256 ^ w := by
  induction w generalizing n with
  | zero => rw [encode, decode, List.map_nil, Nat.ofDigits_nil, Nat.pow_zero, Nat.mod_one]
  | succ w ih =>
    have htail : Nat.ofDigits 256 ((encode w (n / 256)).map UInt8.toNat) = n / 256 % 256 ^ w :=
      ih (n / 256)
    rw [encode, decode, List.map_cons, Nat.ofDigits_cons, htail, Nat.pow_succ', Nat.mod_mul]
    rfl

theorem field_append {before b rest : List UInt8} {offset w : ℕ} (hoffset : offset = before.length)
    (hw : w = b.length) : field (before ++ (b ++ rest)) offset w = b := by
  rw [field, hoffset, List.drop_left, hw, List.take_left]

end Bytes

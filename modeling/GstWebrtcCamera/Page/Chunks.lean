import GstWebrtcCamera.Page.Voice
import Mathlib.Order.WithBot
import Mathlib.Tactic.Ring

/-!
# The size of a slice

A slice of a recording is meant to be at most `chunkSize` long, which a channel can take as one
message. The counter of the loop advances by two chunks in a turn, or past the end by more. So a
slice is two chunks long as soon as the recording has them, and is short only where what is buffered
is ahead of the counter.
-/

namespace GstWebrtcCamera

namespace Voice

/-- `Math.min(webrtcPeerConnection.sctp.maxMessageSize, 16384)`. The size may be `Infinity`. -/
def chunkSizeOf : WithTop ℕ+ → ℕ+
  | ⊤ => 16384
  | (maxMessageSize : ℕ+) => min maxMessageSize 16384

/-- Every slice is at most a chunk: nothing is sent, or what is not buffered fits into one chunk, or
the counter is behind what is buffered and goes past it only in its last turn. -/
def Fits (size chunkSize bufferedAmount buffered : ℕ) : Prop :=
  size ≤ bufferedAmount ∨ size ≤ buffered + chunkSize ∨
    ∃ n, bufferedAmount + (2 * n + 1) * chunkSize ≤ buffered ∧
      size ≤ bufferedAmount + (2 * n + 3) * chunkSize

theorem fits_step {size k c b : ℕ} (hmore : c + 2 * k < size) :
    Fits size k c b ↔ c + 2 * k ≤ b + k ∧ Fits size k (c + 2 * k) (max b (c + 2 * k)) := by
  have hshift : ∀ n : ℕ, c + (2 * (n + 1) + 1) * k = c + 2 * k + (2 * n + 1) * k ∧
      c + (2 * (n + 1) + 3) * k = c + 2 * k + (2 * n + 3) * k := fun n ↦ by
    constructor <;> ring
  have hgrow : ∀ n : ℕ, k ≤ (2 * n + 1) * k := fun n ↦ Nat.le_mul_of_pos_left k (by omega)
  constructor
  · rintro (hle | hle | ⟨n, hbehind, hlast⟩)
    · omega
    · exact ⟨by omega, .inr (.inl (by omega))⟩
    · rcases n with _ | n
      · exact ⟨by omega, .inr (.inl (by omega))⟩
      · rw [(hshift n).1] at hbehind
        rw [(hshift n).2] at hlast
        exact ⟨by omega, .inr (.inr ⟨n, by omega, hlast⟩)⟩
  · rintro ⟨hfirst, hle | hle | ⟨n, hbehind, hlast⟩⟩
    · omega
    · rcases le_total (c + 2 * k) b with hb | hb
      · exact .inr (.inl (by omega))
      · exact .inr (.inr ⟨0, by omega, by omega⟩)
    · have hk := hgrow n
      rw [← (hshift n).1] at hbehind
      rw [← (hshift n).2] at hlast
      refine .inr (.inr ⟨n + 1, ?_, hlast⟩)
      rw [(hshift n).1] at hbehind ⊢
      omega

theorem fits_of_le {size k c b : ℕ} (hlt : c < size) (hlast : size ≤ c + 2 * k) :
    Fits size k c b ↔ size ≤ b + k := by
  refine ⟨?_, fun h ↦ .inr (.inl h)⟩
  rintro (hle | hle | ⟨n, hbehind, -⟩)
  · omega
  · exact hle
  · have hk : k ≤ (2 * n + 1) * k := Nat.le_mul_of_pos_left k (by omega)
    omega

theorem length_slice {α : Type*} (l : List α) (start stop : ℕ) :
    (slice l start stop).length = min stop l.length - start := by
  rw [slice, List.length_drop, List.length_take]

theorem min_advance (size k c : ℕ) : min (advance size k c) size = min (c + 2 * k) size := by
  rw [advance]
  split_ifs <;> omega

variable {blob : List UInt8} {chunkSize : ℕ+} {bufferedAmount buffered : ℕ}

theorem forall_length_onload_iff :
    (∀ data ∈ onload blob chunkSize bufferedAmount buffered, data.length ≤ chunkSize)
      ↔ Fits blob.length chunkSize bufferedAmount buffered := by
  induction bufferedAmount, buffered using onload.induct blob chunkSize with
  | case1 bufferedAmount buffered hlt bufferedAmount' data ih =>
    have hmin : min bufferedAmount' blob.length
        = min (bufferedAmount + 2 * chunkSize) blob.length := min_advance _ _ _
    have hlength : data.length = min bufferedAmount' blob.length - buffered := length_slice _ _ _
    rw [onload, if_pos hlt, List.forall_mem_cons]
    by_cases hmore : bufferedAmount + 2 * chunkSize < blob.length
    · have hnext : bufferedAmount' = bufferedAmount + 2 * chunkSize := by omega
      have hbuffered : buffered + data.length = max buffered (bufferedAmount + 2 * chunkSize) := by
        omega
      have hfirst : data.length ≤ chunkSize ↔ bufferedAmount' ≤ buffered + chunkSize := by omega
      rw [fits_step hmore, ← hbuffered, ← hnext]
      exact and_congr hfirst ih
    · have hlast : blob.length ≤ bufferedAmount' := by omega
      have hfirst : data.length ≤ chunkSize ↔ blob.length ≤ buffered + chunkSize := by omega
      have hrest : ∀ d ∈ onload blob chunkSize bufferedAmount' (buffered + data.length),
          d.length ≤ chunkSize := by
        rw [onload_of_le hlast]
        exact fun d hd ↦ absurd hd List.not_mem_nil
      rw [fits_of_le hlt (by omega)]
      exact (and_iff_left hrest).trans hfirst
  | case2 bufferedAmount buffered hge =>
    have hle : blob.length ≤ bufferedAmount := Nat.not_lt.mp hge
    rw [onload_of_le hle]
    exact iff_of_true (by simp) (.inl hle)

theorem length_onload_le :
    (onload blob chunkSize bufferedAmount buffered).length ≤ blob.length - bufferedAmount := by
  induction bufferedAmount, buffered using onload.induct blob chunkSize with
  | case1 bufferedAmount buffered hlt bufferedAmount' data ih =>
    have hadvance : bufferedAmount < bufferedAmount' := lt_advance _ _ _
    rw [onload, if_pos hlt, List.length_cons]
    exact Nat.lt_of_le_of_lt ih (by omega)
  | case2 bufferedAmount buffered hge => simp [onload_of_le (Nat.not_lt.mp hge)]

/-- **The slices of a recording.** There are finitely many, and each is at most a chunk long exactly
if what the channel has buffered lets them fit. -/
theorem onload_chunks_iff (blob : List UInt8) (maxMessageSize : WithTop ℕ+)
    (bufferedAmount buffered : ℕ) :
    (onload blob (chunkSizeOf maxMessageSize) bufferedAmount buffered).length
        ≤ blob.length - bufferedAmount ∧
      ((∀ data ∈ onload blob (chunkSizeOf maxMessageSize) bufferedAmount buffered,
          data.length ≤ chunkSizeOf maxMessageSize)
        ↔ Fits blob.length (chunkSizeOf maxMessageSize) bufferedAmount buffered) :=
  ⟨length_onload_le, forall_length_onload_iff⟩

/-- With the counter at what is buffered, a recording is sent in chunks only if it is over at one.
-/
theorem fits_self_iff (size : ℕ) (chunkSize : ℕ+) (buffered : ℕ) :
    Fits size chunkSize buffered buffered ↔ size ≤ buffered + chunkSize := by
  have hpos := chunkSize.pos
  refine ⟨?_, fun h ↦ .inr (.inl h)⟩
  rintro (hle | hle | ⟨n, hbehind, -⟩)
  · omega
  · exact hle
  · have hk : (chunkSize : ℕ) ≤ (2 * n + 1) * chunkSize := Nat.le_mul_of_pos_left _ (by omega)
    omega

/-- With a header of 100 bytes in the channel, the first slice of 40000 bytes is two chunks long. -/
theorem not_onload_chunks :
    ∃ data ∈ onload (List.replicate 40000 0) (chunkSizeOf (262144 : ℕ+)) 100 100,
      ¬ data.length ≤ chunkSizeOf (262144 : ℕ+) := by
  have hsize : chunkSizeOf (262144 : ℕ+) = 16384 := rfl
  have hfirst : advance 40000 16384 100 = 32868 := rfl
  have hlength : (List.replicate 40000 (0 : UInt8)).length = 40000 := List.length_replicate
  refine ⟨slice (List.replicate 40000 0) 100 32868, ?_, ?_⟩
  · rw [hsize, onload, if_pos (by rw [hlength]; decide), hlength, PNat.val_ofNat, hfirst]
    exact List.mem_cons_self
  · rw [hsize, slice, List.length_drop, List.length_take, hlength]
    decide

end Voice

end GstWebrtcCamera

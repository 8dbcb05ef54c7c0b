import GstWebrtcCamera.Core.Iteration
import GstWebrtcCamera.Server.Receive
import Mathlib.Data.List.Count

/-!
# Taking a receive pipeline apart

`stop_recv_webrtc` of `gst-app.c` iterates over the children of the receive pipeline and removes
each child it is given, which makes the iterator stale. The iterator and `GstBin` are GStreamer's:
the loop is taken over any iterator that notices a removal, and a bin holds each child once and
counts how often its children have changed.
-/

namespace GstWebrtcCamera

variable {ε : Type*}

/-- The children of a `GstBin`. -/
structure Bin (ε : Type*) where
  children : List ε
  nodup : children.Nodup
  cookie : ℕ := 0

/-- What is done to the pipeline and to its children, in order. -/
inductive PipeOp (ε : Type*)
  | remove (child : ε)
  | setNull (child : ε)
  | pipeSetNull
  | pipeUnref
  deriving DecidableEq, Repr

/-- The bin and what has been done. -/
structure Stopping (ε : Type*) where
  bin : Bin ε
  log : List (PipeOp ε) := []

variable [DecidableEq ε]

/-- `gst_bin_remove`. -/
def Bin.remove (b : Bin ε) (child : ε) : Bin ε :=
  if child ∈ b.children then
    { children := b.children.erase child
      nodup := b.nodup.erase child
      cookie := b.cookie + 1 }
  else b

/-- A child has been taken out. -/
def Bin.Removed (b b' : Bin ε) : Prop := ∃ child ∈ b.children, b' = b.remove child

/-- `case GST_ITERATOR_OK`. -/
def stopChild (x : Stopping ε) (child : ε) : Stopping ε where
  bin := x.bin.remove child
  log := x.log ++ [.remove child, .setNull child]

/-- `stop_recv_webrtc` with its loop. There is no iterator over a pipeline that is not there. -/
def stopRecvChildren (it : ResyncIterator (@Bin.children ε) Bin.Removed) (fuel : ℕ)
    (recv : RecvItem) (bin : Bin ε) : Option (RecvItem × Stopping ε) :=
  match recv.recvpipe with
  | none => some (recv, { bin := bin })
  | some _ =>
    (it.loop Stopping.bin stopChild fuel (it.iterate bin) { bin := bin }).map fun x ↦
      ({ recv with stopRecv := none, recvpipe := none },
        { x with log := x.log ++ [.pipeSetNull, .pipeUnref] })

/-! ## The loop -/

theorem Bin.remove_of_mem {b : Bin ε} {child : ε} (h : child ∈ b.children) :
    (b.remove child).children = b.children.erase child ∧
      (b.remove child).cookie = b.cookie + 1 := by
  rw [Bin.remove, if_pos h]
  exact ⟨rfl, rfl⟩

/-- An iterator with a cookie, as GStreamer's is. -/
def binIterator (ε : Type*) [DecidableEq ε] : ResyncIterator (@Bin.children ε) Bin.Removed :=
  .ofCookie Bin.cookie fun {b b'} h ↦ by
    obtain ⟨child, hchild, rfl⟩ := h
    rw [(Bin.remove_of_mem hchild).2]
    exact Nat.ne_of_lt (Nat.lt_succ_self _)

theorem stopChild_of_cons (x : Stopping ε) (child : ε) (rest : List ε)
    (h : x.bin.children = child :: rest) :
    x.bin.Removed (stopChild x child).bin ∧ (stopChild x child).bin.children = rest := by
  have hmem : child ∈ x.bin.children := by simp [h]
  refine ⟨⟨child, hmem, rfl⟩, ?_⟩
  rw [stopChild, (Bin.remove_of_mem hmem).1, h, List.erase_cons_head]

theorem foldl_stopChild_log (l : List ε) (x : Stopping ε) :
    (l.foldl stopChild x).log
      = x.log ++ l.flatMap fun child ↦ [.remove child, .setNull child] := by
  induction l generalizing x with
  | nil => simp
  | cons child l ih =>
    rw [List.foldl_cons, ih, List.flatMap_cons, ← List.append_assoc]
    rfl

theorem foldl_stopChild_children (l : List ε) :
    ∀ x : Stopping ε, x.bin.children = l → (l.foldl stopChild x).bin.children = [] := by
  induction l with
  | nil => exact fun x h ↦ h
  | cons child l ih =>
    intro x h
    rw [List.foldl_cons]
    exact ih _ (stopChild_of_cons x child l h).2

theorem count_flatMap_stopChild {l : List ε} (hl : l.Nodup) (child : ε) :
    (l.flatMap fun c ↦ [PipeOp.remove c, PipeOp.setNull c]).count (.remove child)
        = (if child ∈ l then 1 else 0) ∧
      (l.flatMap fun c ↦ [PipeOp.remove c, PipeOp.setNull c]).count (.setNull child)
        = if child ∈ l then 1 else 0 := by
  induction l with
  | nil => simp
  | cons c l ih =>
    obtain ⟨hc, hl⟩ := List.nodup_cons.mp hl
    obtain ⟨hremove, hnull⟩ := ih hl
    rw [List.flatMap_cons, List.count_append, List.count_append, hremove, hnull]
    by_cases heq : c = child
    · subst heq
      simp [hc]
    · simp [heq, Ne.symm heq]

/-- **The whole function.** With calls enough it does this and no more. -/
theorem stopRecvChildren_eq (it : ResyncIterator (@Bin.children ε) Bin.Removed) {recv : RecvItem}
    {n : ℕ} (hpipe : recv.recvpipe = some n) (bin : Bin ε) {fuel : ℕ}
    (hfuel : 2 * bin.children.length + 1 ≤ fuel) :
    stopRecvChildren it fuel recv bin
      = some ({ recv with stopRecv := none, recvpipe := none },
          { bin := (bin.children.foldl stopChild { bin := bin }).bin
            log := (bin.children.flatMap fun child ↦ [.remove child, .setNull child])
              ++ [.pipeSetNull, .pipeUnref] }) := by
  have hloop := it.loop_eq_foldl stopChild_of_cons bin.children (x := { bin := bin }) rfl
    (it.rest_iterate bin) hfuel
  rw [stopRecvChildren, hpipe]
  simp only [hloop, Option.map_some, foldl_stopChild_log, List.nil_append]

theorem stopRecvChildren_recv (it : ResyncIterator (@Bin.children ε) Bin.Removed) (g : Globals)
    (c : ℕ) (recv : RecvItem) (bin : Bin ε) {fuel : ℕ}
    (hfuel : 2 * bin.children.length + 1 ≤ fuel) :
    (stopRecvChildren it fuel recv bin).map Prod.fst = some (stopRecvWebrtc g c recv).2 := by
  rcases hpipe : recv.recvpipe with _ | n
  · rw [stopRecvChildren, stopRecvWebrtc, hpipe]
    rfl
  · rw [stopRecvChildren_eq it hpipe bin hfuel, stopRecvWebrtc, hpipe]
    rfl

/-- **Every child once.** Over an iterator that notices what is taken out, the loop ends, and by
then every child has been removed once and set to `NULL` once, and no child is left. -/
theorem stopRecvChildren_once (it : ResyncIterator (@Bin.children ε) Bin.Removed) {recv : RecvItem}
    {n : ℕ} (hpipe : recv.recvpipe = some n) (bin : Bin ε) :
    ∃ bound, ∀ fuel ≥ bound, ∃ recv' x, stopRecvChildren it fuel recv bin = some (recv', x) ∧
      x.bin.children = [] ∧
      ∀ child, x.log.count (.remove child) = (if child ∈ bin.children then 1 else 0) ∧
        x.log.count (.setNull child) = if child ∈ bin.children then 1 else 0 := by
  refine ⟨2 * bin.children.length + 1, fun fuel hfuel ↦
    ⟨_, _, stopRecvChildren_eq it hpipe bin hfuel, foldl_stopChild_children _ _ rfl,
      fun child ↦ ?_⟩⟩
  obtain ⟨hremove, hnull⟩ := count_flatMap_stopChild bin.nodup child
  rw [List.count_append, List.count_append, hremove, hnull]
  exact ⟨rfl, rfl⟩

theorem stopRecvChildren_once_three :
    ∃ bound, ∀ fuel ≥ bound, ∃ recv' x,
      stopRecvChildren (binIterator ℕ) fuel { recvpipe := some 0 }
          { children := [3, 5, 8], nodup := by decide } = some (recv', x) ∧
        x.bin.children = [] ∧
        ∀ child, x.log.count (.remove child) = (if child ∈ [3, 5, 8] then 1 else 0) ∧
          x.log.count (.setNull child) = if child ∈ [3, 5, 8] then 1 else 0 :=
  stopRecvChildren_once (binIterator ℕ) rfl _

end GstWebrtcCamera

import GstWebrtcCamera.Core.Bytes
import GstWebrtcCamera.Core.Run
import GstWebrtcCamera.Server.Motion

/-!
# The events of the motion file

`_inotify_thread` reads events of the kernel into a buffer of 4096 bytes and goes from one to the
next by the length that stands in it. The buffer is `static`: behind what was read there still is
what an earlier `read` has left.

The kernel writes whole events and never more than fit. On what it writes, the walk over the bytes
is the walk over the events that the motion recorder is described by, however often it reads.

The fields of a `struct inotify_event` have four bytes each, the lowest first.
-/

namespace GstWebrtcCamera

open Bytes Run

/-- `struct inotify_event`. The name is the name with the zeros behind it, which `len` counts. -/
structure InotifyEvent where
  wd : UInt32
  mask : UInt32
  cookie : UInt32
  name : List UInt8

namespace InotifyEvent

/-- `sizeof(struct inotify_event)`. -/
def size : ℕ := 16

/-- What the kernel writes for an event. -/
def bytes (e : InotifyEvent) : List UInt8 :=
  encode 4 e.wd.toNat ++ (encode 4 e.mask.toNat ++ (encode 4 e.cookie.toNat ++
    (encode 4 e.name.length ++ e.name)))

/-- `event->mask`, where `event` is `ptr`. -/
def maskAt (buf : List UInt8) (ptr : ℕ) : UInt32 := UInt32.ofNat (decode (field buf (ptr + 4) 4))

/-- `event->len`. -/
def lenAt (buf : List UInt8) (ptr : ℕ) : ℕ := decode (field buf (ptr + 12) 4)

theorem length_bytes (e : InotifyEvent) : e.bytes.length = size + e.name.length := by
  simp only [bytes, List.length_append, length_encode, size]
  omega

section Read

variable (e : InotifyEvent) (before rest : List UInt8)

theorem maskAt_bytes : maskAt (before ++ (e.bytes ++ rest)) before.length = e.mask := by
  have hfield : field (before ++ (e.bytes ++ rest)) (before.length + 4) 4
      = encode 4 e.mask.toNat := by
    simp only [bytes, List.append_assoc]
    rw [← List.append_assoc before]
    refine field_append ?_ (length_encode _ _).symm
    rw [List.length_append, length_encode]
  have hlt : e.mask.toNat < 256 ^ 4 := e.mask.toNat_lt
  rw [maskAt, hfield, decode_encode, Nat.mod_eq_of_lt hlt, UInt32.ofNat_toNat]

theorem lenAt_bytes (h : e.name.length < 256 ^ 4) :
    lenAt (before ++ (e.bytes ++ rest)) before.length = e.name.length := by
  have hfield : field (before ++ (e.bytes ++ rest)) (before.length + 12) 4
      = encode 4 e.name.length := by
    have hassoc : before ++ (e.bytes ++ rest)
        = (before ++ (encode 4 e.wd.toNat ++ (encode 4 e.mask.toNat ++ encode 4 e.cookie.toNat)))
          ++ (encode 4 e.name.length ++ (e.name ++ rest)) := by
      simp only [bytes, List.append_assoc]
    rw [hassoc]
    refine field_append ?_ (length_encode _ _).symm
    simp only [List.length_append, length_encode]
  rw [lenAt, hfield, decode_encode, Nat.mod_eq_of_lt h]

end Read

end InotifyEvent

open InotifyEvent

namespace Motion

/-- The inner loop of `_inotify_thread` from `ptr` on, after a `read` that returned `rsize`. There
is no result where it would look at a byte behind the buffer. -/
def inotifyLoop (m : Motion) (buf : List UInt8) (rsize : ℤ) (ptr : ℕ) : Option Motion :=
  if (ptr : ℤ) < rsize then
    if ptr + 8 ≤ buf.length then
      let mask := maskAt buf ptr
      if mask &&& inModify ≠ 0 ∨ mask &&& inOpen ≠ 0 then some m.trigger
      else if ptr + size ≤ buf.length then
        m.inotifyLoop buf rsize (ptr + (size + lenAt buf ptr))
      else none
    else none
  else some m
termination_by buf.length - ptr
decreasing_by
  simp only [size] at *
  omega

/-- **One walk.** It goes over the events that are left, whatever stands behind them. -/
theorem inotifyLoop_eq (m : Motion) (stale : List UInt8) {events : List InotifyEvent}
    (hname : ∀ e ∈ events, e.name.length < 256 ^ 4) : ∀ before : List UInt8,
    m.inotifyLoop (before ++ (events.flatMap bytes ++ stale))
        (before ++ events.flatMap bytes).length before.length
      = some (m.inotifyThread (events.map mask)) := by
  induction events with
  | nil =>
    intro before
    rw [inotifyLoop, if_neg (by simp), List.map_nil, inotifyThread]
  | cons e events ih =>
    intro before
    have hlength := length_bytes e
    have hbuf : before ++ ((e :: events).flatMap bytes ++ stale)
        = before ++ (e.bytes ++ (events.flatMap bytes ++ stale)) := by
      rw [List.flatMap_cons, List.append_assoc]
    rw [inotifyLoop, hbuf]
    simp only [maskAt_bytes, lenAt_bytes e _ _ (hname e List.mem_cons_self), List.length_append,
      List.flatMap_cons, hlength, List.map_cons, inotifyThread]
    rw [if_pos (by simp only [size]; omega), if_pos (by simp only [size]; omega)]
    by_cases hmask : e.mask &&& inModify ≠ 0 ∨ e.mask &&& inOpen ≠ 0
    · rw [if_pos hmask, if_pos hmask]
    · rw [if_neg hmask, if_neg hmask, if_pos (by omega)]
      -- the next event begins where this one ends
      have hnext := ih (fun d hd ↦ hname d (List.mem_cons_of_mem e hd)) (before ++ e.bytes)
      simp only [List.append_assoc, List.length_append, hlength] at hnext
      exact hnext

end Motion

/-! ## The thread -/

/-- `sizeof(buf)`. -/
def inotifyBufSize : ℕ := 4096

/-- The recorder with the buffer of `_inotify_thread`. -/
structure InotifyThread where
  motion : Motion := {}
  buf : List UInt8 := List.replicate inotifyBufSize 0

namespace InotifyThread

inductive Event
  /-- `read` returns these. -/
  | read (events : List InotifyEvent)
  /-- `read` returns -1, most often since there are none. -/
  | failed
  | start (r : ℕ) (launched : Bool)
  | expire (r : ℕ)

/-- What the kernel sees to: an event that does not fit is left for the next `read`. -/
def Event.Fits : Event → Prop
  | .read events => (events.flatMap bytes).length ≤ inotifyBufSize
  | _ => True

/-- One round of the loop of `_inotify_thread`, on what `read` has returned. -/
def walk (t : InotifyThread) (rsize : ℤ) : Option InotifyThread :=
  (t.motion.inotifyLoop t.buf rsize 0).map fun m ↦ { t with motion := m }

/-- `read(inotifyFd, buf, sizeof(buf))`. -/
def copied (t : InotifyThread) (bs : List UInt8) : InotifyThread :=
  { t with buf := bs ++ t.buf.drop bs.length }

def step (build : MotionBuild) (t : Option InotifyThread) (e : Event) : Option InotifyThread :=
  t.bind fun t ↦
    match e with
    | .read events =>
      let bs := events.flatMap bytes
      (t.copied bs).walk bs.length
    | .failed => t.walk (-1)
    | .start r launched => some { t with motion := t.motion.step build (.start r launched) }
    | .expire r => some { t with motion := t.motion.step build (.expire r) }

/-- The same without the bytes. -/
def Event.abstract : Event → MotionEvent
  | .read events => .batch (events.map mask)
  | .failed => .batch []
  | .start r launched => .start r launched
  | .expire r => .expire r

section Run

variable (build : MotionBuild) {t : InotifyThread}

theorem length_name_lt {events : List InotifyEvent}
    (h : (events.flatMap bytes).length ≤ inotifyBufSize) :
    ∀ e ∈ events, e.name.length < 256 ^ 4 := by
  intro e he
  have hsub : e.bytes.Sublist (events.flatMap bytes) :=
    List.sublist_flatten_of_mem (List.mem_map_of_mem he)
  have hle := hsub.length_le
  have hlength := length_bytes e
  simp only [inotifyBufSize] at h
  omega

/-- One event of the thread is one of the recorder, and the buffer keeps its size. -/
theorem step_eq (hbuf : t.buf.length = inotifyBufSize) {e : Event} (h : e.Fits) :
    ∃ t', step build (some t) e = some t' ∧ t'.buf.length = inotifyBufSize ∧
      t'.motion = t.motion.step build e.abstract := by
  cases e with
  | read events =>
    have hwalk := Motion.inotifyLoop_eq t.motion (t.buf.drop (events.flatMap bytes).length)
      (length_name_lt h) []
    refine ⟨{ t.copied (events.flatMap bytes) with
      motion := t.motion.inotifyThread (events.map mask) }, ?_, ?_, rfl⟩
    · simp only [List.nil_append, List.length_nil] at hwalk
      simp only [step, Option.bind_some, walk, copied, hwalk, Option.map_some]
    · simp only [copied, List.length_append, List.length_drop, hbuf]
      exact Nat.add_sub_cancel' h
  | failed =>
    refine ⟨t, ?_, hbuf, rfl⟩
    rw [step, Option.bind_some, walk, Motion.inotifyLoop, if_neg (by simp)]
    rfl
  | start r launched => exact ⟨_, rfl, hbuf, rfl⟩
  | expire r => exact ⟨_, rfl, hbuf, rfl⟩

theorem exec_eq {es : List Event} (h : ∀ e ∈ es, e.Fits)
    (hbuf : t.buf.length = inotifyBufSize) :
    ∃ t', exec (step build) (some t) es = some t' ∧
      t'.motion = exec (Motion.step build) t.motion (es.map Event.abstract) := by
  induction es generalizing t with
  | nil => exact ⟨t, rfl, rfl⟩
  | cons e es ih =>
    obtain ⟨t₁, hstep, hbuf₁, hmotion⟩ := step_eq build hbuf (h e List.mem_cons_self)
    obtain ⟨t₂, hexec, hmotion₂⟩ := ih (fun d hd ↦ h d (List.mem_cons_of_mem e hd)) hbuf₁
    refine ⟨t₂, ?_, ?_⟩
    · rw [exec, List.foldl_cons, hstep]
      exact hexec
    · rw [hmotion₂, hmotion]
      rfl

/-- **The walk over the bytes.** In no run does the thread look behind its buffer, and it leaves the
recorder as the masks of the events do. -/
theorem inotifyThread_refines (es : List Event) (h : ∀ e ∈ es, e.Fits) :
    ∃ t, exec (step build) (some {}) es = some t ∧
      t.motion = exec (Motion.step build) {} (es.map Event.abstract) :=
  exec_eq build h List.length_replicate

/-- `IN_CLOSE_NOWRITE` and `IN_OPEN`, then `IN_MODIFY` alone: what the first `read` leaves behind
the second is not looked at. -/
def openAndModify : List Event :=
  [.read [⟨1, 0x10, 0, []⟩, ⟨1, 0x20, 0, [109, 0, 0, 0]⟩], .start 0 true, .read [⟨1, 2, 0, []⟩]]

theorem inotifyThread_refines_openAndModify :
    ∃ t, exec (step ⟨.appsrc, true⟩) (some {}) openAndModify = some t ∧
      t.motion
        = exec (Motion.step ⟨.appsrc, true⟩) {} (openAndModify.map Event.abstract) := by
  refine inotifyThread_refines _ _ fun e he ↦ ?_
  simp only [openAndModify, List.mem_cons, List.not_mem_nil, or_false] at he
  rcases he with rfl | rfl | rfl
  · rw [Event.Fits]
    decide
  · trivial
  · rw [Event.Fits]
    decide

end Run

end InotifyThread

end GstWebrtcCamera

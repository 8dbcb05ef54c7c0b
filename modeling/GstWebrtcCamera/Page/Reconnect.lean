import GstWebrtcCamera.Page.Connect

/-!
# One connection at a time

A websocket that is gone arms one timer, and a timer that fires makes one websocket, so the two
together stay at one. The exception is the websocket of the click: if it fails, the click handler
arms a timer and the close listener another, and only the second can be cleared. Intervals have no
such balance. Every offer starts one, and none is stopped.
-/

namespace GstWebrtcCamera

namespace ConnectPage

variable {V : Type*} {served : ℕ → V} {s : ConnectPage V}

/-- Websockets that are open or connecting. -/
def live (s : ConnectPage V) : ℕ := s.sockets.countP (·.readyState ≠ .closed)

/-- At most one websocket, one reconnect timer and one interval. -/
structure Single (s : ConnectPage V) : Prop where
  live : s.live ≤ 1
  pending : s.pending.length ≤ 1
  intervals : s.intervals ≤ 1

/-- The event is neither the failure of the click's websocket before it is open nor a second
offer. -/
def Gentle (s : ConnectPage V) : ConnectEvent → Prop
  | .failed i => s.sockets[i]? ≠ some ⟨.click, .connecting⟩
  | .described n _ => s.awaiting[n]? ≠ none → s.intervals = 0
  | _ => True

/-- Websockets and timers are one between them. -/
structure Balanced (s : ConnectPage V) : Prop where
  total : s.live + s.pending.length ≤ 1
  idle : s.clicked = false → s.live + s.pending.length = 0
  intervals : s.intervals ≤ 1

theorem Balanced.single (hs : s.Balanced) : s.Single := by
  have htotal := hs.total
  exact ⟨by omega, by omega, hs.intervals⟩

/-! ## What the parts do to the balance -/

@[simp] theorem live_playStream (s : ConnectPage V) (o : Origin) :
    (s.playStream o).live = s.live + 1 := by
  simp [live, playStream, createWebrtcRecv, List.countP_append]

@[simp] theorem live_setTimeout (s : ConnectPage V) (o : Origin) :
    (s.setTimeout o).live = s.live := rfl

@[simp] theorem length_pending_setTimeout (s : ConnectPage V) (o : Origin) :
    (s.setTimeout o).pending.length = s.pending.length + 1 := by
  simp [setTimeout]

theorem fulfilled_eq (s : ConnectPage V) (o : Origin) :
    ∃ pending, s.fulfilled o = { s with pending := pending } ∧
      pending.length ≤ s.pending.length := by
  have hclear : ∃ pending, s.clearTimeout = { s with pending := pending } ∧
      pending.length ≤ s.pending.length := by
    unfold clearTimeout
    split
    · exact ⟨_, rfl, Nat.le_refl _⟩
    · exact ⟨_, rfl, List.length_filter_le _ _⟩
  cases o with
  | retry => exact ⟨_, rfl, Nat.le_refl _⟩
  | click => exact hclear
  | reconnect => exact hclear

theorem live_setReadyState {i : ℕ} {k : Socket} (hi : s.sockets[i]? = some k)
    (hk : k.readyState ≠ .closed) (r : ReadyState) :
    (s.setReadyState i k r).live + 1 = s.live + if r ≠ .closed then 1 else 0 := by
  obtain ⟨hlt, hget⟩ := List.getElem?_eq_some_iff.mp hi
  have hpos : 0 < s.sockets.countP (·.readyState ≠ .closed) :=
    List.countP_pos_iff.mpr ⟨k, List.mem_of_getElem? hi, decide_eq_true hk⟩
  simp only [live, setReadyState, List.countP_set hlt, hget, decide_eq_true_eq, if_pos hk] at hpos ⊢
  omega

theorem live_onClose {i : ℕ} {k : Socket} (hi : s.sockets[i]? = some k)
    (hk : k.readyState ≠ .closed) : (s.onClose i k).live + 1 = s.live := by
  rw [onClose, live_setTimeout, live_setReadyState hi hk, if_neg (by simp), Nat.add_zero]

theorem length_pending_onClose (s : ConnectPage V) (i : ℕ) (k : Socket) :
    (s.onClose i k).pending.length = s.pending.length + 1 := length_pending_setTimeout _ _

/-- **A websocket is replaced by a timer.** -/
theorem Balanced.onClose (hs : s.Balanced) {i : ℕ} {k : Socket} (hi : s.sockets[i]? = some k)
    (hk : k.readyState ≠ .closed) : (s.onClose i k).Balanced := by
  have hlive := live_onClose hi hk
  have hpending := length_pending_onClose s i k
  refine ⟨?_, fun hclicked ↦ ?_, hs.intervals⟩
  · have htotal := hs.total
    omega
  · have hidle := hs.idle hclicked
    omega

/-- **A timer is replaced by a websocket.** -/
theorem Balanced.fired (hs : s.Balanced) {t : ℕ} {timer : ℕ × Origin}
    (ht : s.pending.find? (·.1 = t) = some timer) :
    ({ s with pending := s.pending.eraseP (·.1 = t) }.playStream timer.2).Balanced := by
  have hmem : timer ∈ s.pending := List.mem_of_find?_eq_some ht
  have hpos : 0 < s.pending.length := List.length_pos_of_mem hmem
  have hfound := List.find?_some ht
  have hlength : (s.pending.eraseP (·.1 = t)).length = s.pending.length - 1 :=
    List.length_eraseP_of_mem hmem hfound
  refine ⟨?_, fun hclicked ↦ ?_, hs.intervals⟩
  · have htotal := hs.total
    rw [live_playStream]
    show s.live + 1 + (s.pending.eraseP (·.1 = t)).length ≤ 1
    omega
  · have hidle := hs.idle hclicked
    omega

theorem Balanced.opened (hs : s.Balanced) {i : ℕ} {o : Origin}
    (hi : s.sockets[i]? = some ⟨o, .connecting⟩) :
    ((s.setReadyState i ⟨o, .connecting⟩ .opened).fulfilled o).Balanced := by
  obtain ⟨pending, heq, hpending⟩ := fulfilled_eq (s.setReadyState i ⟨o, .connecting⟩ .opened) o
  have hlive : (s.setReadyState i ⟨o, .connecting⟩ .opened).live + 1 = s.live + 1 :=
    live_setReadyState hi nofun .opened
  have hle : pending.length ≤ s.pending.length := hpending
  rw [heq]
  refine ⟨?_, fun hclicked ↦ ?_, hs.intervals⟩
  · have htotal := hs.total
    show (s.setReadyState i ⟨o, .connecting⟩ .opened).live + pending.length ≤ 1
    omega
  · have hidle := hs.idle hclicked
    show (s.setReadyState i ⟨o, .connecting⟩ .opened).live + pending.length = 0
    omega

/-- **One event.** -/
theorem Balanced.step (hs : s.Balanced) {e : ConnectEvent} (he : s.Gentle e) :
    (s.step served e).Balanced := by
  cases e with
  | click =>
    rw [ConnectPage.step]
    split_ifs with hclicked
    · exact hs
    · have hidle := hs.idle (by simpa using hclicked)
      refine ⟨?_, nofun, hs.intervals⟩
      rw [live_playStream]
      show s.live + 1 + s.pending.length ≤ 1
      omega
  | opened i =>
    simp only [ConnectPage.step]
    split
    · rename_i o hi
      exact hs.opened hi
    · exact hs
  | failed i =>
    simp only [ConnectPage.step]
    split
    · rename_i o hi
      cases o with
      -- only the click handler arms a timer of its own
      | click => exact absurd hi he
      | retry => exact hs.onClose hi nofun
      | reconnect => exact hs.onClose hi nofun
    · -- a websocket that was open had its promise fulfilled
      rename_i o hi
      exact hs.onClose hi nofun
    · exact hs
  | closed i =>
    simp only [ConnectPage.step]
    split
    · rename_i o hi
      exact hs.onClose hi nofun
    · exact hs
  | fired t =>
    simp only [ConnectPage.step]
    split
    · rename_i timer o ht
      exact hs.fired ht
    · exact hs
  | iceServers i =>
    simp only [ConnectPage.step]
    split
    · exact ⟨hs.total, hs.idle, hs.intervals⟩
    · exact hs
  | offer i =>
    simp only [ConnectPage.step]
    split
    · exact ⟨hs.total, hs.idle, hs.intervals⟩
    · exact hs
  | described n ok =>
    simp only [ConnectPage.step]
    split
    · rename_i k p hn
      have hnone : s.intervals = 0 := he (by rw [hn]; exact Option.some_ne_none _)
      refine ⟨hs.total, hs.idle, ?_⟩
      show s.intervals + 1 ≤ 1
      omega
    · exact hs

/-- What is not gentle shows at once. -/
theorem gentle_of_single_step {e : ConnectEvent} (h : (s.step served e).Single) : s.Gentle e := by
  cases e with
  | failed i =>
    intro hi
    have hpending := h.pending
    simp only [ConnectPage.step, hi, rejected, length_pending_onClose,
      length_pending_setTimeout] at hpending
    omega
  | described n ok =>
    intro hn
    obtain ⟨⟨k, p⟩, hn⟩ := Option.ne_none_iff_exists'.mp hn
    have hintervals := h.intervals
    simp only [ConnectPage.step, hn] at hintervals
    have hsucc : s.intervals + 1 ≤ 1 := hintervals
    omega
  | _ => trivial

/-- **One of each.** There is one websocket, one reconnect timer and one interval at most throughout
a run exactly if every event is gentle. -/
theorem always_single_iff (served : ℕ → V) (es : List ConnectEvent) :
    Run.Always (step served) Single init es ↔ Run.Meets (step served) Gentle init es :=
  Run.always_iff_meets (I := Balanced) ⟨Nat.zero_le _, fun _ ↦ rfl, Nat.zero_le _⟩
    (fun _ hs ↦ hs.single) (fun _ _ hs he ↦ hs.step he) (fun _ _ _ h ↦ gentle_of_single_step h)

/-- The first websocket fails: its handler and its listener arm a timer each. -/
theorem exists_not_single :
    ∃ s ∈ Run.reachable (step fun _ ↦ ()) init, ¬ s.Single := by
  refine ⟨_, ⟨[.click, .failed 0], rfl⟩, fun h ↦ ?_⟩
  exact absurd h.pending (by decide)

end ConnectPage

end GstWebrtcCamera

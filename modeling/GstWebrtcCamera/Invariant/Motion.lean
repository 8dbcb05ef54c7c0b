import GstWebrtcCamera.Server.Motion
import GstWebrtcCamera.Server.Step

/-!
# One motion recording at a time

A motion recorder that works is in one of three phases: idle, with the thread of a recording
waiting to run, or with the timer of a recording set. The flag tells the first from the others, so a
recording is only asked for when the last one is over. `Motion.In` says that the state of the
program is that of a phase, and every event takes it from one phase to the next.

The flag, the thread and the timer follow the phases in all four builds. Whether the pipeline does
depends on what the timer callback is given.
-/

namespace GstWebrtcCamera

namespace Motion

/-- What a motion recorder is doing. -/
inductive Phase
  | idle
  | waiting (r : ℕ)
  /-- The timer is set, and perhaps the pipeline plays. -/
  | recording (r : ℕ) (launched : Bool)

namespace Phase

def current? : Phase → Option ℕ
  | idle => none
  | waiting r | recording r _ => some r

def spawned : Phase → List ℕ
  | waiting r => [r]
  | _ => []

/-- What the callback of the timer will find. -/
def found (build : MotionBuild) (r : ℕ) (launched : Bool) : Option ℕ :=
  if build = ⟨.udpsrc, false⟩ then none else parseLaunch r launched

def timers (build : MotionBuild) : Phase → List (ℕ × Option ℕ)
  | recording r launched => [(r, found build r launched)]
  | _ => []

def playing : Phase → List ℕ
  | recording r launched => (parseLaunch r launched).toList
  | _ => []

end Phase

/-- The recorder is in a phase, and every recording before was stopped by its own timer. -/
structure In (build : MotionBuild) (m : Motion) (phase : Phase) : Prop where
  flag : m.threadsRunning = phase.current?.isSome
  spawned : m.spawned = phase.spawned
  timers : m.timers = phase.timers build
  started : m.started = m.stops.map Prod.snd ++ phase.playing
  own : ∀ stop ∈ m.stops, stop.1 = stop.2
  nodup : m.started.Nodup
  lt : ∀ r ∈ m.started, r < m.next
  fired : ∀ r < m.next, phase.current? = some r ∨ r ∈ m.fired
  current_lt : ∀ r, phase.current? = some r → r < m.next
  fresh : ∀ r, phase.current? = some r → r ∉ m.stops.map Prod.snd

variable {build : MotionBuild} {m : Motion} {phase : Phase} {r : ℕ}

theorem in_idle : In build {} .idle where
  flag := rfl
  spawned := rfl
  timers := rfl
  started := rfl
  own := by simp
  nodup := List.nodup_nil
  lt := by simp
  fired := by simp
  current_lt := by simp [Phase.current?]
  fresh := by simp [Phase.current?]

theorem In.playing (h : In build m phase) : m.playing = phase.playing := by
  have hnodup := h.started ▸ h.nodup
  have hdisj := (List.nodup_append.mp hnodup).2.2
  rw [Motion.playing, h.started, List.filter_append]
  have hold : (m.stops.map Prod.snd).filter (fun p ↦ p ∉ m.stops.map Prod.snd) = [] := by
    simp only [List.filter_eq_nil_iff]
    intro p hp
    simpa using hp
  have hnew : phase.playing.filter (fun p ↦ p ∉ m.stops.map Prod.snd) = phase.playing := by
    rw [List.filter_eq_self]
    intro p hp
    exact decide_eq_true fun hmem ↦ hdisj p hmem p hp rfl
  rw [hold, hnew, List.nil_append]

theorem In.trigger (h : In build m .idle) : In build m.trigger (.waiting m.next) := by
  have hfree : m.threadsRunning = false := h.flag
  rw [Motion.trigger, hfree, if_neg Bool.false_ne_true]
  exact {
    flag := rfl
    spawned := by simp [h.spawned, Phase.spawned]
    timers := h.timers
    started := h.started
    own := h.own
    nodup := h.nodup
    lt := fun r hr ↦ Nat.lt_succ_of_lt (h.lt r hr)
    fired := by
      intro r hr
      rcases Nat.lt_succ_iff_lt_or_eq.mp hr with hlt | rfl
      · exact .inr ((h.fired r hlt).resolve_left (by simp [Phase.current?]))
      · exact .inl rfl
    current_lt := by simp [Phase.current?]
    fresh := by
      intro r hr hmem
      obtain rfl : m.next = r := by simpa [Phase.current?] using hr
      have hstarted : m.next ∈ m.started := h.started ▸ List.mem_append_left _ hmem
      exact Nat.lt_irrefl m.next (h.lt m.next hstarted) }

theorem In.inotifyThread (h : In build m phase) (masks : List UInt32) :
    ∃ phase', In build (m.inotifyThread masks) phase' := by
  induction masks with
  | nil => exact ⟨phase, h⟩
  | cons mask masks ih =>
    rw [Motion.inotifyThread]
    split_ifs with hmask
    · -- the rest of the batch is not looked at
      cases phase with
      | idle => exact ⟨_, h.trigger⟩
      | _ =>
        have hbusy : m.threadsRunning = true := h.flag
        exact ⟨_, by rwa [Motion.trigger, if_pos hbusy]⟩
    · exact ih

/-- The two recorders start a pipeline alike, and set the timer up for the pipeline or not. -/
theorem start_eq (launched : Bool) :
    m.start build r launched =
      (m.setPlaying (parseLaunch r launched)).timeoutAdd r (Phase.found build r launched) := by
  obtain ⟨backend, glib274⟩ := build
  cases backend <;> cases glib274 <;>
    simp [Motion.start, startAppsrcRecord, startUdpsrcRec, Phase.found]

theorem stop_eq (pipeline : Option ℕ) : m.stop build r pipeline = m.stopRec r pipeline := by
  cases hb : build.backend <;> simp [Motion.stop, hb, stopAppsrcRec, stopUdpsrcRec]

theorem mem_parseLaunch {p : ℕ} {launched : Bool} (h : p ∈ parseLaunch r launched) : p = r := by
  cases launched <;> simp_all [parseLaunch]

theorem In.start (h : In build m (.waiting r)) (launched : Bool) :
    In build (m.step build (.start r launched)) (.recording r launched) := by
  have hmem : r ∈ m.spawned := by simp [h.spawned, Phase.spawned]
  rw [Motion.step, if_pos hmem, start_eq]
  exact {
    flag := h.flag
    spawned := by simp [setPlaying, timeoutAdd, h.spawned, Phase.spawned]
    timers := by simp [setPlaying, timeoutAdd, h.timers, Phase.timers]
    started := by simp [setPlaying, timeoutAdd, h.started, Phase.playing]
    own := h.own
    nodup := by
      cases launched with
      | false => simpa [setPlaying, timeoutAdd, parseLaunch] using h.nodup
      | true =>
        -- the pipeline is new, since nothing of this recording was stopped before
        refine List.nodup_append.mpr ⟨h.nodup, List.nodup_singleton r, fun p hp q hq hpq ↦ ?_⟩
        obtain rfl := List.mem_singleton.mp hq
        have hold : p ∈ m.stops.map Prod.snd := by simpa [h.started, Phase.playing] using hp
        exact h.fresh q rfl (hpq ▸ hold)
    lt := by
      intro p hp
      rcases List.mem_append.mp hp with hold | hnew
      · exact h.lt p hold
      · obtain rfl := mem_parseLaunch (Option.mem_toList.mp hnew)
        exact h.current_lt p rfl
    fired := h.fired
    current_lt := h.current_lt
    fresh := h.fresh }

theorem In.expire {launched : Bool} (h : In build m (.recording r launched))
    (hfound : Phase.found build r launched = parseLaunch r launched) :
    In build (m.step build (.expire r)) .idle := by
  have hlookup : m.timers.lookup r = some (parseLaunch r launched) := by
    simp [h.timers, Phase.timers, hfound]
  simp only [Motion.step, hlookup, stop_eq]
  exact {
    flag := rfl
    spawned := h.spawned
    timers := by simp [stopRec, setNull, h.timers, Phase.timers]
    started := by simp [stopRec, setNull, h.started, Phase.playing, Function.comp_def]
    own := by
      intro stop hstop
      rcases List.mem_append.mp hstop with hold | hnew
      · exact h.own stop hold
      · obtain ⟨p, hp, rfl⟩ := List.mem_map.mp hnew
        exact (mem_parseLaunch (Option.mem_toList.mp hp)).symm
    nodup := h.nodup
    lt := h.lt
    fired := by
      intro p hp
      refine .inr (List.mem_append.mpr ?_)
      rcases h.fired p hp with hcur | hfired
      · exact .inr (by simpa [Phase.current?, eq_comm] using hcur)
      · exact .inl hfired
    current_lt := by simp [Phase.current?]
    fresh := by simp [Phase.current?] }

/-! ## What the phases are good for -/

/-- One pipeline plays at most. The flag is up as long as some recording has a timer that has not
fired, or a pipeline that plays. A pipeline that was started plays under its own timer, or was
stopped by it, and no timer stops another pipeline. -/
structure Kept (m : Motion) : Prop where
  single : m.playing.length ≤ 1
  flagged : ∀ r < m.next, (r ∈ m.fired → r ∈ m.playing) → m.threadsRunning = true
  stopped : ∀ r ∈ m.started, (r ∈ m.playing ∧ r ∈ m.timers.map Prod.fst) ∨ (r, r) ∈ m.stops
  own : ∀ stop ∈ m.stops, stop.1 = stop.2

theorem In.kept (h : In build m phase) : m.Kept where
  single := by
    rw [h.playing]
    cases phase <;> simp [Phase.playing]
  flagged r hr hlate := by
    rw [h.playing] at hlate
    cases phase with
    | idle =>
      -- every recording so far has fired, and none plays
      have hfired : r ∈ m.fired := (h.fired r hr).resolve_left (by simp [Phase.current?])
      exact absurd (hlate hfired) (by simp [Phase.playing])
    | _ => exact h.flag
  stopped r hr := by
    rw [h.playing, h.timers]
    rcases List.mem_append.mp (h.started ▸ hr) with hold | hnew
    · obtain ⟨⟨timer, p⟩, hstop, rfl⟩ := List.mem_map.mp hold
      obtain rfl : timer = p := h.own (timer, p) hstop
      exact .inr hstop
    · refine .inl ⟨hnew, ?_⟩
      cases phase with
      | recording p launched =>
        obtain rfl := mem_parseLaunch (Option.mem_toList.mp hnew)
        simp [Phase.timers]
      | _ => simp [Phase.playing] at hnew
  own := h.own

/-! ## Which timers are safe -/

/-- The timer of the recording is set. -/
def Armed (m : Motion) (r : ℕ) : Prop := r ∈ m.timers.map Prod.fst

theorem step_expire_of_not_armed (h : ¬ m.Armed r) : m.step build (.expire r) = m := by
  have hlookup : m.timers.lookup r = none := by
    rw [List.lookup_eq_none_iff]
    intro timer htimer
    have hne : r ≠ timer.1 := fun heq ↦ h (heq ▸ List.mem_map_of_mem htimer)
    simpa using hne
  rw [Motion.step, hlookup]

theorem In.exists_recording (h : In build m phase) (hr : m.Armed r) :
    ∃ launched, phase = .recording r launched := by
  rw [Armed, h.timers] at hr
  cases phase with
  | recording p launched => exact ⟨launched, by simp_all [Phase.timers]⟩
  | _ => simp [Phase.timers] at hr

theorem In.mem_started_iff {launched : Bool} (h : In build m (.recording r launched)) :
    r ∈ m.started ↔ launched = true := by
  have hfresh : r ∉ m.stops.map Prod.snd := h.fresh r rfl
  rw [h.started, List.mem_append, or_iff_right hfresh]
  cases launched <;> simp [Phase.playing, parseLaunch]

/-- A timer of the build that loses the pipeline does not fire for a recording that has one. -/
def Safe (build : MotionBuild) (m : Motion) : MotionEvent → Prop
  | .expire r => build = ⟨.udpsrc, false⟩ → m.Armed r → r ∉ m.started
  | _ => True

theorem In.step (h : In build m phase) {e : MotionEvent} (hsafe : m.Safe build e) :
    ∃ phase', In build (m.step build e) phase' := by
  cases e with
  | batch masks => exact h.inotifyThread masks
  | start r launched =>
    by_cases hmem : r ∈ m.spawned
    · have hphase : phase = .waiting r := by
        rw [h.spawned] at hmem
        cases phase <;> simp_all [Phase.spawned]
      exact ⟨_, (hphase ▸ h).start launched⟩
    · exact ⟨phase, by rwa [Motion.step, if_neg hmem]⟩
  | expire r =>
    by_cases hr : m.Armed r
    · obtain ⟨launched, rfl⟩ := h.exists_recording hr
      refine ⟨.idle, h.expire ?_⟩
      rw [Phase.found]
      split_ifs with hbuild
      · -- the callback finds nothing, and there is nothing to find
        have hfalse : launched = false := by simpa [h.mem_started_iff] using hsafe hbuild hr
        rw [hfalse, parseLaunch, if_neg Bool.false_ne_true]
      · rfl
    · exact ⟨phase, by rwa [step_expire_of_not_armed hr]⟩

theorem In.safe_of_kept (h : In build m phase) {e : MotionEvent}
    (hkept : (m.step build e).Kept) : m.Safe build e := by
  cases e with
  | expire r =>
    rintro rfl hr hstarted
    obtain ⟨launched, rfl⟩ := h.exists_recording hr
    have hlookup : m.timers.lookup r = some none := by simp [h.timers, Phase.timers, Phase.found]
    simp only [Motion.step, hlookup, stop_eq] at hkept
    -- it has no timer any more and was not stopped by it
    rcases hkept.stopped r hstarted with ⟨-, htimer⟩ | hstop
    · simp [stopRec, setNull, h.timers, Phase.timers] at htimer
    · have hold : (r, r) ∈ m.stops := by simpa [stopRec, setNull] using hstop
      exact h.fresh r rfl (List.mem_map_of_mem hold)
  | _ => trivial

theorem safe_of_ne (hbuild : build ≠ ⟨.udpsrc, false⟩) (m : Motion) (e : MotionEvent) :
    m.Safe build e := by
  cases e with
  | expire r => exact fun h ↦ absurd h hbuild
  | _ => trivial

theorem always_kept_of_ne (hbuild : build ≠ ⟨.udpsrc, false⟩) (es : List MotionEvent) :
    Run.Always (step build) Kept {} es := by
  have hsafe : Run.Meets (step build) (Safe build) {} es :=
    Run.meets_of_forall (I := fun _ ↦ True) (Q := fun _ ↦ True) trivial (fun _ _ _ _ ↦ trivial)
      (fun m e _ _ ↦ safe_of_ne hbuild m e) fun _ _ ↦ trivial
  have hphase := hsafe.always (I := fun m ↦ ∃ phase, In build m phase) ⟨.idle, in_idle⟩
    fun m e ⟨_, h⟩ hsafe ↦ h.step hsafe
  exact hphase.mono fun m ⟨_, h⟩ ↦ h.kept

/-- **One motion recording at a time.** -/
theorem always_kept_iff (build : MotionBuild) (es : List MotionEvent) :
    Run.Always (step build) Kept {} es ↔ Run.Meets (step build) (Safe build) {} es := by
  refine Run.always_iff_meets (I := fun m ↦ ∃ phase, In build m phase) ⟨.idle, in_idle⟩ ?_ ?_ ?_
  · rintro m ⟨phase, h⟩
    exact h.kept
  · rintro m e ⟨phase, h⟩ hsafe
    exact h.step hsafe
  · rintro m e ⟨phase, h⟩ hkept
    exact h.safe_of_kept hkept

/-- A recording whose timer has fired goes on under the next one. -/
theorem exists_not_kept :
    ∃ m ∈ Run.reachable (step ⟨.udpsrc, false⟩) {}, ¬ m.Kept := by
  refine ⟨_, ⟨[.batch [inModify], .start 0 true, .expire 0, .batch [inModify], .start 1 true],
    rfl⟩, fun h ↦ ?_⟩
  exact absurd h.single (by decide +kernel)

end Motion

/-! ## The recorder in the process -/

/-- What the globals say about motion recordings. -/
def Globals.motion (g : Globals) : Bool × ℕ × List ℕ × List ℕ :=
  (g.threadsRunning, g.nextMotion, g.spawned, g.armed)

/-- The same of the recorder alone. -/
def Motion.shared (m : Motion) : Bool × ℕ × List ℕ × List ℕ :=
  (m.threadsRunning, m.next, m.spawned, m.timers.map Prod.fst)

namespace Globals

variable {build : MotionBuild} {m : Motion} {g : Globals} {r : ℕ}

theorem motion_inotifyEvent (h : m.shared = g.motion) :
    m.trigger.shared = (inotifyEvent g).motion := by
  simp only [Motion.shared, motion, Prod.mk.injEq] at h
  rw [Motion.trigger, inotifyEvent, h.1]
  split_ifs <;> simp [Motion.shared, motion, h]

theorem motion_startAppsrcRecord (h : m.shared = g.motion) (hr : r ∈ g.spawned) :
    (m.step build (.start r true)).shared = (startAppsrcRecord g r).motion := by
  simp only [Motion.shared, motion, Prod.mk.injEq] at h
  rw [Motion.step, if_pos (h.2.2.1 ▸ hr), Motion.start_eq, startAppsrcRecord, if_pos hr]
  simp [Motion.shared, motion, Motion.setPlaying, Motion.timeoutAdd, h]

theorem motion_stopAppsrcRec (h : m.shared = g.motion) (hr : r ∈ g.armed) :
    (m.step build (.expire r)).shared = (stopAppsrcRec g r).motion := by
  simp only [Motion.shared, motion, Prod.mk.injEq] at h
  obtain ⟨hflag, hnext, hspawned, harmed⟩ := h
  have herase : (m.timers.eraseP fun timer ↦ timer.1 = r).map Prod.fst = g.armed.erase r := by
    rw [← harmed, List.erase_eq_eraseP', List.eraseP_map]
    rfl
  cases hlookup : m.timers.lookup r with
  | none =>
    obtain ⟨timer, htimer, rfl⟩ := List.mem_map.mp (harmed ▸ hr)
    exact absurd rfl (bne_iff_ne.mp (List.lookup_eq_none_iff.mp hlookup timer htimer))
  | some pipeline =>
    simp [Motion.step, hlookup, Motion.stop_eq, Motion.stopRec, Motion.setNull, Motion.shared,
      motion, stopAppsrcRec, hr, removeAvpair, herase, hnext, hspawned]

end Globals

namespace Server

variable {env : Env} {s : Server} {m : Motion}

/-- An event of the process is an event of the recorder, or none. -/
theorem Wired.motion (hs : s.Wired env) (build : MotionBuild) (h : m.shared = s.globals.motion)
    (e : Event) :
    ∃ es, (Run.exec (Motion.step build) m es).shared = (s.step env e).globals.motion := by
  have hstep := hs.stepped e
  obtain ⟨s', hs'⟩ : ∃ s', s' = s.step env e := ⟨_, rfl⟩
  rw [← hs'] at hstep ⊢
  cases hstep with
  | @performed c msg launched it r hlive hit hr hcmd =>
    obtain ⟨hflag, hnext, hspawned, -, harmed⟩ := hr.motion_eq
    refine ⟨[], h.trans ?_⟩
    show s.globals.motion = r.1.motion
    simp only [Globals.motion, hflag, hnext, hspawned, harmed]
  | fired hlive hcb =>
    refine ⟨[], h.trans ?_⟩
    rw [Server.fire, if_pos hcb]
    rfl
  | watched hlive hb => exact ⟨[.batch [inModify]], Globals.motion_inotifyEvent h⟩
  | @motionLaunched r hlive hr => exact ⟨[.start r true], Globals.motion_startAppsrcRecord h hr⟩
  | motionAppended hlive hr =>
    refine ⟨[], h.trans ?_⟩
    rw [appendAppsrcRecord, if_pos hr]
    rfl
  | @motionStopped r hlive hr => exact ⟨[.expire r], Globals.motion_stopAppsrcRec h hr⟩
  | _ => exact ⟨[], h⟩

theorem exists_motion (build : MotionBuild) (hs : s ∈ Run.reachable (step env) init) :
    ∃ m ∈ Run.reachable (Motion.step build) {}, m.shared = s.globals.motion := by
  refine (Run.mem_reachable_induction (I := fun s : Server ↦ s.Wired env ∧
    ∃ m ∈ Run.reachable (Motion.step build) {}, m.shared = s.globals.motion)
    ⟨wired_init env, {}, ⟨[], rfl⟩, rfl⟩ ?_ hs).2
  rintro s e ⟨hwired, m, ⟨es, rfl⟩, hm⟩
  obtain ⟨es', hes'⟩ := hwired.motion build hm e
  exact ⟨hwired.step e, _, ⟨es ++ es', Run.exec_append es'⟩, hes'⟩

theorem motion_single (hs : s ∈ Run.reachable (step env) init) :
    (s.globals.spawned ++ s.globals.armed).length = if s.globals.threadsRunning then 1 else 0 := by
  obtain ⟨m, hm, hshared⟩ := exists_motion ⟨.appsrc, true⟩ hs
  obtain ⟨phase, h⟩ := Run.mem_reachable_induction
    (I := fun m : Motion ↦ ∃ phase, Motion.In ⟨.appsrc, true⟩ m phase) ⟨.idle, Motion.in_idle⟩
    (fun m e ⟨_, h⟩ ↦ h.step (Motion.safe_of_ne (by decide) m e)) hm
  simp only [Motion.shared, Globals.motion, Prod.mk.injEq] at hshared
  rw [← hshared.1, ← hshared.2.2.1, ← hshared.2.2.2, h.flag, h.spawned, h.timers]
  cases phase <;> rfl

end Server

end GstWebrtcCamera

import GstWebrtcCamera.Core.Registry
import GstWebrtcCamera.Invariant.Recording

/-!
# The list of appsrc pairs

`G_AppsrcList` is a registry of the pairs that get the camera's samples. What it is meant to hold is
not written down anywhere in the state, so the machine is run together with a set, `started`, to
which every start adds and from which every stop and every close removes.

A start is the call that appends the pair. The motion recorder makes that call from its thread after
it has armed the timer that stops the recording; if the timer was faster the recording is over by
then, and nothing is started any more.
-/

namespace GstWebrtcCamera

open Registry
open scoped List

/-- The server with the appsrc backend; the other one has no list. -/
def Env.appsrc (env : Env) : Env := { env with backend := .appsrc }

namespace Server

/-- The pairs started and not yet stopped, after a command. -/
def commandStarted (flag : Bool) (c : ℕ) (S : Finset AvRef) : Command → Finset AvRef
  | .recordStart => if flag then S else insert (.cmdRec c) S
  | .recordStop => S.erase (.cmdRec c)
  | _ => S

/-- The pairs started and not yet stopped, after an event of a live process. -/
def startedBy (s : Server) (S : Finset AvRef) : Event → Finset AvRef
  | .connect _ _ => insert (.send s.nextConn) S
  | .message c msg _ =>
    if c ∈ s.table then commandStarted s.globals.cmdRecording c S (commandOf msg) else S
  -- a close frees the session, so both of its pairs are over
  | .close c => if c ∈ s.table then (S.erase (.send c)).erase (.cmdRec c) else S
  | .motionAppend r =>
    if r ∈ s.globals.toAppend ∧ r ∈ s.globals.armed then insert (.motion r) S else S
  | .motionTimer r => if r ∈ s.globals.armed then S.erase (.motion r) else S
  | _ => S

def startedAfter (s : Server) (S : Finset AvRef) (e : Event) : Finset AvRef :=
  if s.aborted.isSome then S else s.startedBy S e

/-- The server and what it has started. -/
structure Tracked where
  server : Server
  started : Finset AvRef

namespace Tracked

def init : Tracked := { server := Server.init, started := ∅ }

def step (env : Env) (t : Tracked) (e : Event) : Tracked :=
  { server := t.server.step env e, started := t.server.startedAfter t.started e }

/-- `G_AppsrcList` holds every pair that is started and not stopped, once, and nothing else. -/
def Registers (t : Tracked) : Prop := Represents t.server.globals.appsrcList t.started

/-- No start finds its own pair started already, no close finds a started recording without a
pipeline, and no motion recording is appended when its timer has fired. -/
def Timely (t : Tracked) : Event → Prop
  | .message c msg _ =>
    t.server.aborted = none → c ∈ t.server.table → commandOf msg = .recordStart →
      t.server.globals.cmdRecording = false → .cmdRec c ∉ t.started
  | .close c =>
    t.server.aborted = none → c ∈ t.server.table → .cmdRec c ∈ t.started →
      t.server.records c = true
  | .motionAppend r =>
    t.server.aborted = none → r ∈ t.server.globals.toAppend → r ∈ t.server.globals.armed
  | _ => True

end Tracked

/-! ## Motion recordings that are not appended yet -/

variable {env : Env} {s : Server} {S S' : Finset AvRef} {g g' : Globals} {r : ℕ}

/-- The recordings on their way to the list. -/
def queue (g : Globals) : List ℕ := g.spawned ++ g.toAppend

/-- Every recording is on its way at most once, and only before it is started. -/
structure MotionQueue (g : Globals) (S : Finset AvRef) : Prop where
  nodup : (queue g).Nodup
  lt : ∀ r ∈ queue g, r < g.nextMotion
  started_lt : ∀ r, .motion r ∈ S → r < g.nextMotion
  not_started : ∀ r ∈ queue g, .motion r ∉ S

theorem MotionQueue.of_perm (h : MotionQueue g S) (hqueue : queue g' ~ queue g)
    (hnext : g'.nextMotion = g.nextMotion) (hS : ∀ r, .motion r ∈ S' → .motion r ∈ S) :
    MotionQueue g' S' where
  nodup := hqueue.nodup_iff.mpr h.nodup
  lt r hr := by
    rw [hnext]
    exact h.lt r (hqueue.mem_iff.mp hr)
  started_lt r hr := by
    rw [hnext]
    exact h.started_lt r (hS r hr)
  not_started r hr hmem := h.not_started r (hqueue.mem_iff.mp hr) (hS r hmem)

theorem MotionQueue.inotifyEvent (h : MotionQueue g S) : MotionQueue (inotifyEvent g) S := by
  rw [GstWebrtcCamera.inotifyEvent]
  split_ifs
  · exact h
  · have hperm : g.spawned ++ [g.nextMotion] ++ g.toAppend ~ g.nextMotion :: queue g := by
      rw [queue, List.append_assoc]
      exact List.perm_middle
    constructor
    · refine hperm.nodup_iff.mpr (List.nodup_cons.mpr ⟨fun hmem ↦ ?_, h.nodup⟩)
      exact lt_irrefl _ (h.lt _ hmem)
    · intro r hr
      rcases List.mem_cons.mp (hperm.mem_iff.mp hr) with rfl | hr
      · exact Nat.lt_succ_self _
      · exact Nat.lt_succ_of_lt (h.lt r hr)
    · intro r hr
      exact Nat.lt_succ_of_lt (h.started_lt r hr)
    · intro r hr hmem
      rcases List.mem_cons.mp (hperm.mem_iff.mp hr) with rfl | hr
      · exact lt_irrefl _ (h.started_lt _ hmem)
      · exact h.not_started r hr hmem

theorem queue_startAppsrcRecord (hr : r ∈ g.spawned) :
    queue (startAppsrcRecord g r) ~ queue g := by
  rw [startAppsrcRecord, if_pos hr]
  calc g.spawned.erase r ++ (g.toAppend ++ [r])
    _ = g.spawned.erase r ++ g.toAppend ++ [r] := (List.append_assoc _ _ _).symm
    _ ~ r :: (g.spawned.erase r ++ g.toAppend) := List.perm_append_singleton _ _
    _ = (r :: g.spawned.erase r) ++ g.toAppend := rfl
    _ ~ g.spawned ++ g.toAppend := (List.perm_cons_erase hr).symm.append_right _

theorem queue_appendAppsrcRecord (hr : r ∈ g.toAppend) :
    queue g ~ r :: queue (appendAppsrcRecord g r) := by
  rw [appendAppsrcRecord, if_pos hr]
  calc g.spawned ++ g.toAppend
    _ ~ g.spawned ++ (r :: g.toAppend.erase r) := (List.perm_cons_erase hr).append_left _
    _ ~ r :: (g.spawned ++ g.toAppend.erase r) := List.perm_middle

theorem MotionQueue.appendAppsrcRecord (h : MotionQueue g S) (hr : r ∈ g.toAppend)
    (hS : ∀ i, .motion i ∈ S' → .motion i ∈ S ∨ i = r) :
    MotionQueue (appendAppsrcRecord g r) S' := by
  have hperm := queue_appendAppsrcRecord hr
  have hnext : (GstWebrtcCamera.appendAppsrcRecord g r).nextMotion = g.nextMotion := by
    rw [GstWebrtcCamera.appendAppsrcRecord, if_pos hr]
    rfl
  have hnodup := List.nodup_cons.mp (hperm.nodup_iff.mp h.nodup)
  have hold : ∀ i ∈ queue (GstWebrtcCamera.appendAppsrcRecord g r), i ∈ queue g := fun i hi ↦
    hperm.mem_iff.mpr (List.mem_cons_of_mem r hi)
  have hmem : r ∈ queue g := hperm.mem_iff.mpr List.mem_cons_self
  constructor
  · exact hnodup.2
  · intro i hi
    rw [hnext]
    exact h.lt i (hold i hi)
  · intro i hi
    rw [hnext]
    rcases hS i hi with hi | rfl
    · exact h.started_lt i hi
    · exact h.lt i hmem
  · intro i hi hin
    rcases hS i hin with hin | rfl
    · exact h.not_started i (hold i hi) hin
    · exact hnodup.1 hi

/-! ## The invariant -/

namespace Tracked

/-- The invariant. -/
structure Tracks (t : Tracked) : Prop where
  represents : Registers t
  send_lt : ∀ c, .send c ∈ t.started → c < t.server.nextConn
  motion : MotionQueue t.server.globals t.started

variable {t : Tracked} {e : Event}

theorem tracks_init : Tracks init where
  represents := represents_nil
  send_lt _ hc := absurd hc (Finset.notMem_empty _)
  motion := ⟨List.nodup_nil, nofun, fun _ hr ↦ absurd hr (Finset.notMem_empty _), nofun⟩

theorem startedAfter_of_live (hlive : s.aborted = none) : s.startedAfter S e = s.startedBy S e := by
  rw [startedAfter, hlive]
  rfl

theorem startedAfter_of_not_enabled (he : ¬ s.Enabled e) : s.startedAfter S e = S := by
  by_cases hlive : s.aborted = none
  · rw [startedAfter_of_live hlive]
    cases e with
    | connect hashId launched => exact absurd ⟨hlive, trivial⟩ he
    | message c msg launched => exact if_neg fun hc ↦ he ⟨hlive, hc⟩
    | close c => exact if_neg fun hc ↦ he ⟨hlive, hc⟩
    | motionAppend r => exact if_neg fun hr ↦ he ⟨hlive, hr.1⟩
    | motionTimer r => exact if_neg fun hr ↦ he ⟨hlive, hr⟩
    | _ => rfl
  · exact if_pos (Option.isSome_iff_ne_none.mpr hlive)

theorem mem_commandStarted {flag : Bool} {c : ℕ} {cmd : Command} {a : AvRef}
    (h : a ∈ commandStarted flag c S cmd) : a ∈ S ∨ a = .cmdRec c := by
  cases cmd with
  | recordStart =>
    cases flag with
    | true => exact .inl h
    | false => exact (Finset.mem_insert.mp h).symm
  | recordStop => exact .inl (Finset.mem_of_mem_erase h)
  | _ => exact .inl h

theorem mem_startedAfter {a : AvRef} (h : a ∈ s.startedAfter S e) :
    a ∈ S ∨ (a = .send s.nextConn ∧ s.aborted = none ∧ ∃ hashId launched,
        e = .connect hashId launched) ∨
      (∃ c, a = .cmdRec c) ∨ ∃ r, a = .motion r ∧ e = .motionAppend r := by
  by_cases hlive : s.aborted = none
  swap
  · rw [startedAfter, if_pos (Option.isSome_iff_ne_none.mpr hlive)] at h
    exact .inl h
  rw [startedAfter_of_live hlive] at h
  cases e with
  | connect hashId launched =>
    rcases Finset.mem_insert.mp h with rfl | h
    · exact .inr (.inl ⟨rfl, hlive, hashId, launched, rfl⟩)
    · exact .inl h
  | message c msg launched =>
    rw [startedBy] at h
    split_ifs at h
    · rcases mem_commandStarted h with h | rfl
      · exact .inl h
      · exact .inr (.inr (.inl ⟨c, rfl⟩))
    · exact .inl h
  | close c =>
    rw [startedBy] at h
    split_ifs at h
    · exact .inl (Finset.mem_of_mem_erase (Finset.mem_of_mem_erase h))
    · exact .inl h
  | motionAppend r =>
    rw [startedBy] at h
    split_ifs at h
    · rcases Finset.mem_insert.mp h with rfl | h
      · exact .inr (.inr (.inr ⟨r, rfl, rfl⟩))
      · exact .inl h
    · exact .inl h
  | motionTimer r =>
    rw [startedBy] at h
    split_ifs at h
    · exact .inl (Finset.mem_of_mem_erase h)
    · exact .inl h
  | _ => exact .inl h

/-- A message changes the list as it changes the set, unless it starts what is started already. -/
theorem represents_performed_iff (hb : env.backend = .appsrc) {c : ℕ} {it : WebrtcItem}
    (hconn : it.connection = c) {launched : Bool} {cmd : Command} {p : Globals × WebrtcItem}
    (hp : Performed env g it launched cmd p) (h : Represents g.appsrcList S) :
    Represents p.1.appsrcList (commandStarted g.cmdRecording c S cmd)
      ↔ (cmd = .recordStart → g.cmdRecording = false → .cmdRec c ∉ S) := by
  subst hconn
  cases hp with
  | started hrec =>
    obtain ⟨pair, heq⟩ := startRecording_eq env g it launched
    simp only [heq, hb, Backend.enlist, commandStarted, hrec, Bool.false_eq_true, if_false,
      forall_const]
    exact h.append_iff
  | refused hrec =>
    simp only [commandStarted, hrec, if_true]
    exact iff_of_true h fun _ hno ↦ by contradiction
  | stopped =>
    simp only [stopRecording_eq, hb, Backend.delist]
    exact iff_of_true (h.erase _) nofun
  | _ => exact iff_of_true h nofun

theorem timely_of_not_enabled (he : ¬ t.server.Enabled e) : Timely t e := by
  cases e with
  | message c msg launched => exact fun hlive hc ↦ absurd ⟨hlive, hc⟩ he
  | close c => exact fun hlive hc ↦ absurd ⟨hlive, hc⟩ he
  | motionAppend r => exact fun hlive hr ↦ absurd ⟨hlive, hr⟩ he
  | _ => trivial

/-- A close takes out the pair of the session, and that of its recording if there is a pipeline. -/
theorem represents_closed_iff (hb : env.backend = .appsrc) {c : ℕ} {it : WebrtcItem}
    (hconn : it.connection = c) (h : Represents g.appsrcList S) :
    Represents (closedGlobals env g it).appsrcList ((S.erase (.send c)).erase (.cmdRec c))
      ↔ (.cmdRec c ∈ S → it.record.pipeline.isSome = true) := by
  subst hconn
  have hsend := h.erase (.send it.connection)
  simp only [closedGlobals, closeRecv, hb, Backend.delist]
  by_cases hlive : it.record.pipeline.isSome = true
  · rw [if_pos hlive]
    exact iff_of_true (hsend.erase _) fun _ ↦ hlive
  · rw [if_neg hlive, hsend.keep_iff]
    simp [hlive]

/-- **One step.** The list goes on representing the set exactly if the event is timely. -/
theorem registers_step_iff (hb : env.backend = .appsrc) (hs : t.server.Wired env) (ht : Tracks t)
    (e : Event) : Registers (t.step env e) ↔ Timely t e := by
  obtain ⟨s, S⟩ := t
  have h : Represents s.globals.appsrcList S := ht.represents
  show Represents (s.step env e).globals.appsrcList (s.startedAfter S e) ↔ _
  have hstep := hs.stepped e
  simp only at hstep
  obtain ⟨s', hs'⟩ : ∃ s', s' = s.step env e := ⟨_, rfl⟩
  rw [← hs'] at hstep ⊢
  cases hstep with
  | stuck he =>
    rw [startedAfter_of_not_enabled he]
    exact iff_of_true h (timely_of_not_enabled he)
  | http msg path =>
    rw [startedAfter]
    exact iff_of_true (by split_ifs <;> exact h) trivial
  | opened hlive hit =>
    rw [startedAfter_of_live hlive, startedBy, openedGlobals, hb]
    refine iff_of_true (h.append_iff.mpr fun hmem ↦ ?_) trivial
    exact lt_irrefl _ (ht.send_lt _ hmem)
  | @performed c msg launched it r hlive hit hr hcmd =>
    have hc : c ∈ s.table := AList.lookup_isSome.mp (by rw [hit]; rfl)
    rw [startedAfter_of_live hlive, startedBy, if_pos hc, Timely]
    simp only [hlive, hc, forall_const]
    exact represents_performed_iff hb (hs.items c it hit).connection hr h
  | @aborted c msg launched it a hlive hit hcmd =>
    have hnot : commandOf msg ≠ .recordStart := fun heq ↦ by rw [heq] at hcmd; exact hcmd
    have hkeep : commandStarted s.globals.cmdRecording c S (commandOf msg) = S := by
      revert hcmd
      generalize commandOf msg = cmd
      cases cmd with
      | recordStart => exact False.elim
      | recordStop => exact False.elim
      | _ => exact fun _ ↦ rfl
    rw [startedAfter_of_live hlive, startedBy, hkeep, ite_self]
    exact iff_of_true h fun _ _ heq ↦ absurd heq hnot
  | fired hlive hcb =>
    rw [startedAfter_of_live hlive, Server.fire, if_pos hcb]
    exact iff_of_true h trivial
  | @closed c it hlive hit =>
    have hc : c ∈ s.table := AList.lookup_isSome.mp (by rw [hit]; rfl)
    rw [startedAfter_of_live hlive, startedBy, if_pos hc, Timely]
    simp only [hlive, hc, forall_const, records_of_lookup hit]
    exact represents_closed_iff hb (hs.items c it hit).connection h
  | watched hlive hbe =>
    rw [startedAfter_of_live hlive, withGlobals, inotifyEvent]
    exact iff_of_true (by split_ifs <;> exact h) trivial
  | motionLaunched hlive hr =>
    rw [startedAfter_of_live hlive, withGlobals, startAppsrcRecord, if_pos hr]
    exact iff_of_true h trivial
  | @motionAppended r hlive hr =>
    rw [startedAfter_of_live hlive, startedBy, withGlobals, appendAppsrcRecord, if_pos hr, Timely]
    simp only [hlive, hr, forall_const, true_and]
    by_cases harmed : r ∈ s.globals.armed
    · rw [if_pos harmed]
      refine iff_of_true (h.append_iff.mpr ?_) harmed
      exact ht.motion.not_started r (List.mem_append_right _ hr)
    · rw [if_neg harmed]
      exact iff_of_false h.not_append harmed
  | motionStopped hlive hr =>
    rw [startedAfter_of_live hlive, startedBy, withGlobals, stopAppsrcRec, if_pos hr, if_pos hr]
    exact iff_of_true (h.erase _) trivial
  | untyped hlive hit hcmd =>
    rw [startedAfter_of_live hlive]
    exact iff_of_true h trivial
  | headed hlive hit hcmd =>
    rw [startedAfter_of_live hlive]
    exact iff_of_true h trivial
  | controlled hlive hit hcmd log =>
    rw [startedAfter_of_live hlive]
    exact iff_of_true h trivial
  | received hlive hit hjobs =>
    rw [startedAfter_of_live hlive]
    exact iff_of_true h trivial
  | negotiated hlive hit =>
    rw [startedAfter_of_live hlive]
    exact iff_of_true h trivial
  | delivered hlive =>
    rw [startedAfter_of_live hlive]
    exact iff_of_true h trivial
  | unwatched hlive hbe =>
    rw [startedAfter_of_live hlive]
    exact iff_of_true h trivial

/-! ## The invariant is kept -/

theorem motion_mem_of_startedAfter (he : ∀ i, e ≠ .motionAppend i)
    (h : .motion r ∈ s.startedAfter S e) : .motion r ∈ S := by
  rcases mem_startedAfter h with h | ⟨heq, -⟩ | ⟨c, heq⟩ | ⟨i, -, heq⟩
  · exact h
  · contradiction
  · contradiction
  · exact absurd heq (he i)

theorem send_lt_step (hs : t.server.Wired env) (ht : Tracks t) (e : Event) :
    ∀ c, .send c ∈ (t.step env e).started → c < (t.step env e).server.nextConn := by
  have hle : t.server.nextConn ≤ (t.server.step env e).nextConn := hs.nextConn_le e
  intro c hc
  rcases mem_startedAfter hc with hc | ⟨heq, hlive, hashId, launched, rfl⟩ | ⟨i, heq⟩ | ⟨r, heq, -⟩
  · exact (ht.send_lt c hc).trans_le hle
  · obtain rfl : c = t.server.nextConn := AvRef.send.inj heq
    exact (nextConn_connect hlive hashId launched).symm ▸ Nat.lt_succ_self _
  · contradiction
  · contradiction

theorem motion_step (hs : t.server.Wired env) (ht : Tracks t) (e : Event) :
    MotionQueue (t.step env e).server.globals (t.step env e).started := by
  obtain ⟨s, S⟩ := t
  have h : MotionQueue s.globals S := ht.motion
  show MotionQueue (s.step env e).globals (s.startedAfter S e)
  have hstep := hs.stepped e
  simp only at hstep
  obtain ⟨s', hs'⟩ : ∃ s', s' = s.step env e := ⟨_, rfl⟩
  rw [← hs'] at hstep ⊢
  cases hstep with
  | stuck he =>
    rw [startedAfter_of_not_enabled he]
    exact h
  | @performed c msg launched it r hlive hit hr hcmd =>
    obtain ⟨-, hnext, hspawned, htoAppend, -⟩ := hr.motion_eq
    refine h.of_perm ?_ hnext fun r ↦ motion_mem_of_startedAfter (by simp)
    show queue r.1 ~ queue s.globals
    rw [queue, hspawned, htoAppend, queue]
  | fired hlive hcb =>
    rw [Server.fire, if_pos hcb]
    exact h.of_perm .rfl rfl fun r ↦ motion_mem_of_startedAfter (by simp)
  | watched hlive hb =>
    rw [startedAfter_of_live hlive]
    exact h.inotifyEvent
  | motionLaunched hlive hr =>
    refine h.of_perm (queue_startAppsrcRecord hr) ?_ fun r ↦ motion_mem_of_startedAfter (by simp)
    rw [withGlobals, startAppsrcRecord, if_pos hr]
  | @motionAppended r hlive hr =>
    refine h.appendAppsrcRecord hr fun i hi ↦ ?_
    rw [startedAfter_of_live hlive, startedBy] at hi
    split_ifs at hi
    · exact (Finset.mem_insert.mp hi).symm.imp_right AvRef.motion.inj
    · exact .inl hi
  | motionStopped hlive hr =>
    rw [withGlobals, stopAppsrcRec, if_pos hr]
    exact h.of_perm .rfl rfl fun r ↦ motion_mem_of_startedAfter (by simp)
  | _ => exact h.of_perm .rfl rfl fun r ↦ motion_mem_of_startedAfter (by simp)

/-- **The list of pairs.** In a run the list holds the pairs that are started and not stopped, once
each, throughout exactly when every event of the run is timely. -/
theorem always_registers_iff (env : Env) (es : List Event) :
    Run.Always (step env.appsrc) Registers init es
      ↔ Run.Meets (step env.appsrc) Timely init es := by
  refine Run.always_iff_meets (I := fun t ↦ t.server.Wired env.appsrc ∧ Tracks t)
    ⟨wired_init _, tracks_init⟩ (fun t ht ↦ ht.2.represents) ?_ ?_
  · rintro t e ⟨hs, ht⟩ hC
    exact ⟨hs.step e, (registers_step_iff rfl hs ht e).mpr hC, send_lt_step hs ht e,
      motion_step hs ht e⟩
  · rintro t e ⟨hs, ht⟩ hP
    exact (registers_step_iff rfl hs ht e).mp hP

/-- The timer of a motion recording is faster than its thread. -/
theorem exists_not_registers :
    ∃ t ∈ Run.reachable (step (Env.plain .udpsrc).appsrc) init, ¬ Registers t := by
  refine ⟨_, ⟨[.inotify, .motionLaunch 0, .motionTimer 0, .motionAppend 0], rfl⟩, fun h ↦ ?_⟩
  have hmem := (h.mem_iff (.motion 0)).mp (by decide)
  revert hmem
  decide

end Tracked

end Server

end GstWebrtcCamera

import GstWebrtcCamera.Core.Run
import GstWebrtcCamera.Server.Recording
import Mathlib.Data.List.Nodup

/-!
# The motion recorder

Three threads work on a motion recording. The inotify thread raises `threads_running` and starts a
thread for the recording, that thread launches a pipeline and sets a timer, and when the timer fires
the main loop stops the pipeline and lowers the flag.

There are four builds of it: two recorders, and for each the timer of a GLib with or without
`g_timeout_add_once`. They differ in the pointer the timer callback is given. In the old form of the
udpsrc recorder this is the argument of the thread instead of the pipeline, and the thread is
started without an argument.

The lists of what was started and what was stopped are not in the program.
-/

namespace GstWebrtcCamera

/-- How the recorder is compiled and configured. -/
structure MotionBuild where
  /-- `config_data.app_sink`. -/
  backend : Backend
  /-- `GLIB_AVAILABLE_IN_2_74`. -/
  glib274 : Bool
  deriving DecidableEq, Repr

/-- A pipeline has the number of its recording. -/
structure Motion where
  /-- `threads_running`. -/
  threadsRunning : Bool := false
  /-- Recordings asked for so far. -/
  next : ℕ := 0
  /-- Threads that have not run. -/
  spawned : List ℕ := []
  /-- Timers that are set, with the pipeline their callback will find. -/
  timers : List (ℕ × Option ℕ) := []
  fired : List ℕ := []
  /-- Pipelines that were set to `GST_STATE_PLAYING`. -/
  started : List ℕ := []
  /-- Pipelines that were set to `GST_STATE_NULL`, each after the timer that did it. -/
  stops : List (ℕ × ℕ) := []
  deriving DecidableEq, Repr

/-- `IN_MODIFY`. -/
def inModify : UInt32 := 0x2

/-- `IN_OPEN`. -/
def inOpen : UInt32 := 0x20

namespace Motion

/-- A new recording, unless one is running. -/
def trigger (m : Motion) : Motion :=
  if m.threadsRunning then m
  else {
    m with
    threadsRunning := true
    next := m.next + 1
    spawned := m.spawned ++ [m.next] }

/-- One `read` of `_inotify_thread`, as the masks of its events. The first that matters is the last
that is looked at. -/
def inotifyThread (m : Motion) : List UInt32 → Motion
  | [] => m
  | mask :: masks =>
    if mask &&& inModify ≠ 0 ∨ mask &&& inOpen ≠ 0 then m.trigger else m.inotifyThread masks

/-- `gst_element_set_state(pipeline, GST_STATE_PLAYING)`. -/
def setPlaying (m : Motion) (pipeline : Option ℕ) : Motion :=
  { m with started := m.started ++ pipeline.toList }

/-- `gst_element_set_state(pipeline, GST_STATE_NULL)`, in the callback of a timer. -/
def setNull (m : Motion) (timer : ℕ) (pipeline : Option ℕ) : Motion :=
  { m with stops := m.stops ++ pipeline.toList.map fun p ↦ (timer, p) }

/-- `g_timeout_add_once` or `g_timeout_add_full`. -/
def timeoutAdd (m : Motion) (r : ℕ) (pipeline : Option ℕ) : Motion :=
  { m with timers := m.timers ++ [(r, pipeline)] }

/-- `gst_parse_launch` in the thread of `r`. -/
def parseLaunch (r : ℕ) (launched : Bool) : Option ℕ := if launched then some r else none

/-- The callback of the old timer gets what the thread was given. -/
def startUdpsrcRec (glib274 : Bool) (m : Motion) (r : ℕ) (userData : Option ℕ) (launched : Bool) :
    Motion :=
  let recPipeline := parseLaunch r launched
  (m.setPlaying recPipeline).timeoutAdd r (if glib274 then recPipeline else userData)

/-- The callback gets the item, by either timer, and finds the pipeline in it. -/
def startAppsrcRecord (m : Motion) (r : ℕ) (launched : Bool) : Motion :=
  let pipeline := parseLaunch r launched
  (m.setPlaying pipeline).timeoutAdd r pipeline

/-- The common part of the callbacks. -/
def stopRec (m : Motion) (r : ℕ) (pipeline : Option ℕ) : Motion :=
  let m := m.setNull r pipeline
  { m with threadsRunning := false, fired := m.fired ++ [r] }

def stopUdpsrcRec (m : Motion) (r : ℕ) (recPipeline : Option ℕ) : Motion := m.stopRec r recPipeline

def stopAppsrcRec (m : Motion) (r : ℕ) (pipeline : Option ℕ) : Motion := m.stopRec r pipeline

end Motion

inductive MotionEvent
  | batch (masks : List UInt32)
  /-- The thread of a recording runs. -/
  | start (r : ℕ) (launched : Bool)
  /-- The timer of a recording fires. It does so once: the old timer is removed by its callback. -/
  | expire (r : ℕ)
  deriving DecidableEq, Repr

namespace Motion

/-- `g_thread_new` passes `NULL` to the thread. -/
def start (build : MotionBuild) (m : Motion) (r : ℕ) (launched : Bool) : Motion :=
  match build.backend with
  | .appsrc => m.startAppsrcRecord r launched
  | .udpsrc => m.startUdpsrcRec build.glib274 r none launched

def stop (build : MotionBuild) (m : Motion) (r : ℕ) (pipeline : Option ℕ) : Motion :=
  match build.backend with
  | .appsrc => m.stopAppsrcRec r pipeline
  | .udpsrc => m.stopUdpsrcRec r pipeline

def step (build : MotionBuild) (m : Motion) : MotionEvent → Motion
  | .batch masks => m.inotifyThread masks
  | .start r launched =>
    if r ∈ m.spawned then { m with spawned := m.spawned.erase r }.start build r launched else m
  | .expire r =>
    match m.timers.lookup r with
    | none => m
    | some pipeline =>
      { m with timers := m.timers.eraseP fun timer ↦ timer.1 = r }.stop build r pipeline

/-- Pipelines that were started and not stopped. -/
def playing (m : Motion) : List ℕ := m.started.filter fun p ↦ p ∉ m.stops.map Prod.snd

end Motion

end GstWebrtcCamera

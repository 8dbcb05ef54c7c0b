import GstWebrtcCamera.Server.State

/-!
# Recording

Two recorders write to disk. The *command* recorder belongs to a connection and is driven by its
`record` messages; at most one is meant to run, and the global `cmd_recording` says whether one
does. The *motion* recorder is started by a thread that watches a file and stopped by a timer.

With the appsrc backend both hand their appsrc elements to the sample fan-out through
`G_AppsrcList`. The list holds pointers into the objects that own the pairs.
-/

namespace GstWebrtcCamera

/-! ## The command recorder -/

def getRecordState (g : Globals) : Bool := g.cmdRecording

/-- The flag is raised first; a launch that fails leaves it up. -/
def udpsrcCmdRecStart (g : Globals) (item : RecordItem) (launched : Bool) : Globals × RecordItem :=
  let (p, g) := { g with cmdRecording := true }.parseLaunch launched
  (g, { item with pipeline := p })

/-- The flag is lowered whoever raised it. -/
def udpsrcCmdRecStop (g : Globals) (item : RecordItem) : Globals × RecordItem :=
  ({ g with cmdRecording := false }, { item with pipeline := none })

/-- The pair is appended even when the launch failed and it is empty. -/
def appsrcCmdRecStart (env : Env) (g : Globals) (c : ℕ) (item : RecordItem) (launched : Bool) :
    Globals × RecordItem :=
  let (p, g) := { g with cmdRecording := true }.parseLaunch launched
  let pair : AvPair := { videoSrc := p, audioSrc := if env.audioEnable then p else none }
  (g.appendAvpair (.cmdRec c), { item with pipeline := p, recAvpair := pair })

/-- The pair keeps its pointers. -/
def appsrcCmdRecStop (g : Globals) (c : ℕ) (item : RecordItem) : Globals × RecordItem :=
  ({ g with cmdRecording := false }.removeAvpair (.cmdRec c), { item with pipeline := none })

/-- `record.start(&record)`. -/
def RecStart.call (f : RecStart) (env : Env) (g : Globals) (c : ℕ) (item : RecordItem)
    (launched : Bool) : Globals × RecordItem :=
  match f with
  | udpsrcCmdRecStart => GstWebrtcCamera.udpsrcCmdRecStart g item launched
  | appsrcCmdRecStart => GstWebrtcCamera.appsrcCmdRecStart env g c item launched

/-- `record.stop(&record)`. -/
def RecStop.call (f : RecStop) (g : Globals) (c : ℕ) (item : RecordItem) : Globals × RecordItem :=
  match f with
  | udpsrcCmdRecStop => GstWebrtcCamera.udpsrcCmdRecStop g item
  | appsrcCmdRecStop => GstWebrtcCamera.appsrcCmdRecStop g c item

/-! ## The motion recorder

`start_appsrc_record` runs in a thread of its own while the timer runs in the main loop, so its
launch, which arms the timer, and its append are two steps. -/

/-- `_inotify_thread`, an event that asks for a recording. -/
def inotifyEvent (g : Globals) : Globals :=
  if g.threadsRunning then g
  else {
    g with
    threadsRunning := true
    nextMotion := g.nextMotion + 1
    spawned := g.spawned ++ [g.nextMotion] }

/-- `start_appsrc_record` up to `g_timeout_add_once`. -/
def startAppsrcRecord (g : Globals) (r : ℕ) : Globals :=
  if r ∈ g.spawned then
    { g with spawned := g.spawned.erase r, toAppend := g.toAppend ++ [r], armed := g.armed ++ [r] }
  else g

/-- The rest of `start_appsrc_record`. -/
def appendAppsrcRecord (g : Globals) (r : ℕ) : Globals :=
  if r ∈ g.toAppend then { g with toAppend := g.toAppend.erase r }.appendAvpair (.motion r) else g

/-- The timer callback, which frees the recording. -/
def stopAppsrcRec (g : Globals) (r : ℕ) : Globals :=
  if r ∈ g.armed then
    { g with armed := g.armed.erase r, threadsRunning := false }.removeAvpair (.motion r)
  else g

end GstWebrtcCamera

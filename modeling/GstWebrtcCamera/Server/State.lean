import GstWebrtcCamera.Core.Lifecycle
import GstWebrtcCamera.Sql.Statements
import Mathlib.Data.List.AList

/-!
# The state of the camera server

One process serves every websocket connection. What a connection owns is its `WebrtcItem`; what all
share are a few globals of `gst-app.c` and the connection table of `soup.c`. The handlers read and
write one item and the globals, never another item, and they are modelled with exactly that type.

Three things in the state are not in the program: the log of receive pipelines, the callbacks that
are registered with a raw pointer and have not run yet, and those that ran when their pointer no
longer meant what it did. The program keeps no record of any of them, which is what several of its
properties are about.

## Pointers

A `GstElement *` is an `Option ℕ`, the number of the `gst_parse_launch` or `gst_pipeline_new` call
that made its pipeline. GStreamer and GObject calls on `NULL` print a warning and do nothing. A
call through a `NULL` function pointer is a crash, so function pointers are options too, and the
handlers return `Except Abort`.
-/

namespace GstWebrtcCamera

/-- What takes the process down in the middle of a callback. -/
inductive Abort
  /-- A call through a `NULL` function pointer. -/
  | nullCall
  /-- `strlen(NULL)`. -/
  | strlenNull
  /-- A failing `g_assert`. -/
  | gAssert
  /-- `g_error`. -/
  | gError
  deriving DecidableEq, Repr

/-- `config_data.app_sink`: which pair of capture functions the server was started with. -/
inductive Backend
  | appsrc
  | udpsrc
  deriving DecidableEq, Repr

/-- What does not change while the server runs. -/
structure Env where
  backend : Backend
  /-- `config_data.audio.enable`. -/
  audioEnable : Bool
  /-- `audio_source != NULL`. -/
  audioSource : Bool
  /-- `config_data.clients`. -/
  clientLimit : ℤ
  /-- `gst_element_factory_make("webrtcbin", ..)` finds the plugin. -/
  webrtcbin : Bool
  /-- `gst_sdp_message_parse_buffer` accepts the text. -/
  sdpParses : CString → Bool

/-- A server without sound, for three clients, where everything is installed. -/
def Env.plain (backend : Backend) : Env where
  backend := backend
  audioEnable := false
  audioSource := false
  clientLimit := 3
  webrtcbin := true
  sdpParses := fun _ ↦ true

/-! ## Function pointers -/

inductive GetState
  | getRecordState
  deriving DecidableEq, Repr

inductive RecStart
  | udpsrcCmdRecStart
  | appsrcCmdRecStart
  deriving DecidableEq, Repr

inductive RecStop
  | udpsrcCmdRecStop
  | appsrcCmdRecStop
  deriving DecidableEq, Repr

inductive AddRemote
  | startRecvWebrtcbin
  deriving DecidableEq, Repr

inductive StopRecv
  | stopRecvWebrtc
  deriving DecidableEq, Repr

inductive StopWebrtc
  | stopUdpsrcWebrtc
  | stopAppsrcWebrtc
  deriving DecidableEq, Repr

/-! ## One connection -/

/-- `struct _AppsrcAvPair`. -/
structure AvPair where
  videoSrc : Option ℕ := none
  audioSrc : Option ℕ := none
  deriving DecidableEq, Repr

/-- `struct _RecordItem`. -/
structure RecordItem where
  pipeline : Option ℕ := none
  start : Option RecStart := none
  stop : Option RecStop := none
  getRecState : Option GetState := none
  recAvpair : AvPair := {}
  deriving DecidableEq, Repr

/-- `struct _RecvItem`. -/
structure RecvItem where
  recvpipe : Option ℕ := none
  recvbin : Option ℕ := none
  stopRecv : Option StopRecv := none
  addremote : Option AddRemote := none
  deriving DecidableEq, Repr

/-- `struct _DcFile`, with the number of the transfer it describes. -/
structure DcFile where
  fd : ℤ := 0
  filename : Option CString := none
  fsize : ℤ := 0
  pos : ℤ := 0
  transfer : ℕ := 0
  deriving DecidableEq

/-- `struct _WebrtcItem`. The connection is named by its number; its address, which a later
connection may get again, is `hashId`. -/
structure WebrtcItem where
  connection : ℕ
  hashId : UInt64
  sendpipe : Option ℕ := none
  sendbin : Option ℕ := none
  stopWebrtc : Option StopWebrtc := none
  sendAvpair : AvPair := {}
  record : RecordItem := {}
  recv : RecvItem := {}
  dcfile : DcFile := {}
  deriving DecidableEq

/-! ## What connections share -/

/-- A pair in `G_AppsrcList`, by the object it is a field of. -/
inductive AvRef
  /-- `send_avpair` of a connection. -/
  | send (c : ℕ)
  /-- `record.rec_avpair` of a connection. -/
  | cmdRec (c : ℕ)
  /-- `rec_avpair` of a motion recording. -/
  | motion (r : ℕ)
  deriving DecidableEq, Repr

/-- A callback registered with a connection, or something it owns, as user data. -/
inductive Callback
  /-- `check_webrtcbin_state_by_timer`. -/
  | checkState (c : ℕ)
  /-- A `play_voice` job, queued when transfer `transfer` was complete. -/
  | playVoice (c transfer : ℕ)
  /-- `on_offer_created_cb`. -/
  | offerCreated (c : ℕ)
  /-- `on_answer_created`. -/
  | answerCreated (c : ℕ)
  deriving DecidableEq, Repr

/-- The connection a callback was registered for. -/
def Callback.owner : Callback → ℕ
  | checkState c | playVoice c _ | offerCreated c | answerCreated c => c

/-- Messages to the page, as far as the page's recording state depends on them. -/
inductive ServerMsg
  | iceServers
  | recordStarted
  deriving DecidableEq, Repr

/-- A call into `v4l2ctl.c`. -/
inductive CtrlCall
  | resetUserCtrls
  | setCtrlValue (id value : ℤ)
  deriving DecidableEq, Repr

structure Globals where
  /-- `cmd_recording`. -/
  cmdRecording : Bool := false
  /-- `G_AppsrcList`. -/
  appsrcList : List AvRef := []
  nextPipe : ℕ := 0
  /-- Receive pipelines made and released, per connection. -/
  recvLog : ℕ → List (Lifecycle.Op ℕ) := fun _ ↦ []
  /-- Messages sent to a page and not handled there yet. -/
  outbox : ℕ → List ServerMsg := fun _ ↦ []
  sqlLog : List SqlCall := []
  ctrlLog : List CtrlCall := []
  /-- Callbacks that are registered and have not run. -/
  pending : List Callback := []
  /-- Callbacks that ran too late. -/
  late : List Callback := []
  /-- `threads_running`. -/
  threadsRunning : Bool := false
  nextMotion : ℕ := 0
  /-- Motion recording threads that have not launched their pipeline. -/
  spawned : List ℕ := []
  /-- Those that have, and have not reached the append. -/
  toAppend : List ℕ := []
  /-- Motion recordings whose timer has not fired. -/
  armed : List ℕ := []

namespace Globals

/-- `gst_parse_launch`, which may fail. -/
def parseLaunch (g : Globals) (launched : Bool) : Option ℕ × Globals :=
  if launched then (some g.nextPipe, { g with nextPipe := g.nextPipe + 1 }) else (none, g)

def register (g : Globals) (cb : Callback) : Globals := { g with pending := g.pending ++ [cb] }

def send (g : Globals) (c : ℕ) (m : ServerMsg) : Globals :=
  { g with outbox := Function.update g.outbox c (g.outbox c ++ [m]) }

def logRecv (g : Globals) (c : ℕ) (op : Lifecycle.Op ℕ) : Globals :=
  { g with recvLog := Function.update g.recvLog c (g.recvLog c ++ [op]) }

def addWebrtcAccessLog (g : Globals) (sql : SqlCall) : Globals :=
  { g with sqlLog := g.sqlLog ++ [sql] }

/-- `g_list_append`. -/
def appendAvpair (g : Globals) (r : AvRef) : Globals := { g with appsrcList := g.appsrcList ++ [r] }

/-- `g_list_remove` takes out the first occurrence. -/
def removeAvpair (g : Globals) (r : AvRef) : Globals :=
  { g with appsrcList := g.appsrcList.erase r }

end Globals

/-- The process: the globals, `webrtc_connected_table`, and how it died if it did. -/
structure Server where
  globals : Globals := {}
  table : AList (fun _ : ℕ ↦ WebrtcItem) := ∅
  nextConn : ℕ := 0
  aborted : Option Abort := none

end GstWebrtcCamera

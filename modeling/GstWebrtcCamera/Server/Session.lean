import GstWebrtcCamera.Server.Message
import GstWebrtcCamera.Server.Upload

/-!
# Opening and closing a connection

`soup_websocket_handler` makes the `WebrtcItem` of a new connection, has the capture function of
the backend fill in its pipeline and its function pointers, and puts it in the table.
`destroy_webrtc_table` is the table's destroy function: it stops what the item still runs and frees
it. Whatever was registered with the item as user data stays registered.
-/

namespace GstWebrtcCamera

/-- `start_udpsrc_webrtcbin`. -/
def startUdpsrcWebrtcbin (g : Globals) (it : WebrtcItem) (launched : Bool) :
    Globals × WebrtcItem :=
  let (p, g) := g.parseLaunch launched
  let record := {
    it.record with
    getRecState := some .getRecordState
    start := some .udpsrcCmdRecStart
    stop := some .udpsrcCmdRecStop }
  let recv := { it.recv with addremote := some .startRecvWebrtcbin }
  (g, {
    it with
    sendpipe := p
    sendbin := p
    record := record
    recv := recv
    stopWebrtc := some .stopUdpsrcWebrtc })

/-- `start_appsrc_webrtcbin`. Its state check is a timer whose callback returns nothing, registered
as one that says whether to go on. -/
def startAppsrcWebrtcbin (env : Env) (g : Globals) (it : WebrtcItem) (launched : Bool) :
    Globals × WebrtcItem :=
  let (p, g) := g.parseLaunch launched
  let record := {
    it.record with
    getRecState := some .getRecordState
    start := some .appsrcCmdRecStart
    stop := some .appsrcCmdRecStop }
  let recv := { it.recv with addremote := some .startRecvWebrtcbin }
  ((g.appendAvpair (.send it.connection)).register (.checkState it.connection), {
    it with
    sendpipe := p
    sendbin := p
    sendAvpair := { videoSrc := p, audioSrc := if env.audioSource then p else none }
    record := record
    recv := recv
    stopWebrtc := some .stopAppsrcWebrtc })

/-- `data->fn(webrtc_entry)`. -/
def Backend.startWebrtcbin (b : Backend) (env : Env) (g : Globals) (it : WebrtcItem)
    (launched : Bool) : Globals × WebrtcItem :=
  match b with
  | appsrc => startAppsrcWebrtcbin env g it launched
  | udpsrc => startUdpsrcWebrtcbin g it launched

/-- `stop_webrtc(webrtc_entry)`. -/
def StopWebrtc.call (f : StopWebrtc) (g : Globals) (c : ℕ) : Globals :=
  match f with
  | stopUdpsrcWebrtc => g
  | stopAppsrcWebrtc => g.removeAvpair (.send c)

/-- `record.stop`, if a recording is there to stop. -/
def stopRecordIfLive (g : Globals) (c : ℕ) (record : RecordItem) : Except Abort Globals :=
  if record.pipeline.isSome then
    match record.stop with
    | none => .error .nullCall
    | some stop => .ok (stop.call g c record).1
  else .ok g

/-- `recv.stop_recv`, if a receive pipeline is there to stop. -/
def stopRecvIfLive (g : Globals) (c : ℕ) (recv : RecvItem) : Except Abort Globals :=
  if recv.recvpipe.isSome then
    match recv.stopRecv with
    | none => .error .nullCall
    | some stop => .ok (stop.call g c recv).1
  else .ok g

/-- `destroy_webrtc_table`. -/
def destroyWebrtcTable (g : Globals) (it : WebrtcItem) : Except Abort Globals := do
  let g := g.addWebrtcAccessLog (.webrtcOut it.hashId)
  let g := match it.stopWebrtc with
    | none => g
    | some stop => stop.call g it.connection
  let g ← stopRecordIfLive g it.connection it.record
  stopRecvIfLive g it.connection it.recv

end GstWebrtcCamera

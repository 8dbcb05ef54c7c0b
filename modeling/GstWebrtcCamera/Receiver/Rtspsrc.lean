import GstWebrtcCamera.Core.Lifecycle
import GstWebrtcCamera.Core.Run
import GstWebrtcCamera.Receiver.Message
import Mathlib.Data.Finset.Basic
import Mathlib.Data.List.AList

/-!
# The RTSP relay

`rtspsrc-webrtc` logs in at a camera, fetches its RTSP stream into a local multicast group and sends
the group to every page. A connection owns two pipelines: the one that sends, made once, and the one
that fetches, made anew for every answer of the page. Each of the two steps of opening a connection
logs in for itself, and the entry gets into the table after the second.

Pipelines are numbered, and what a connection starts and releases is logged per connection. What the
camera answers is part of the event. An entry that did not get into the table is still there, since
the message handler is connected before; only the close does not find it.
-/

namespace GstWebrtcCamera

open CString Json

/-- How the camera behaves while a callback runs. -/
structure Camera where
  /-- `connect` gets through. -/
  connects : Bool := true
  /-- The login form is answered. -/
  logsIn : Bool := true
  /-- The request for the stream's address is answered. -/
  tellsUrl : Bool := true
  /-- The fetch pipeline starts. -/
  plays : Bool := true
  /-- The request of a control command is answered. -/
  obeys : Bool := true
  deriving DecidableEq, Repr

structure ReceiverEntry where
  connection : ℕ
  pipeline : ℕ
  rtspsrcpipe : Option ℕ := none
  deriving DecidableEq, Repr

/-- Pipelines made so far, and what each connection did with its own. -/
structure Relay where
  nextPipe : ℕ := 0
  /-- Sending pipelines. -/
  webrtcLog : ℕ → List (Lifecycle.Op ℕ) := fun _ ↦ []
  /-- Fetching pipelines. -/
  fetchLog : ℕ → List (Lifecycle.Op ℕ) := fun _ ↦ []

namespace Relay

def logWebrtc (g : Relay) (c : ℕ) (ops : List (Lifecycle.Op ℕ)) : Relay :=
  { g with webrtcLog := Function.update g.webrtcLog c (g.webrtcLog c ++ ops) }

def logFetch (g : Relay) (c : ℕ) (ops : List (Lifecycle.Op ℕ)) : Relay :=
  { g with fetchLog := Function.update g.fetchLog c (g.fetchLog c ++ ops) }

/-- `gst_parse_launch`. -/
def parseLaunch (g : Relay) : ℕ × Relay := (g.nextPipe, { g with nextPipe := g.nextPipe + 1 })

/-- The fetch pipeline is stopped and released, if there is one. -/
def stopFetch (g : Relay) (c : ℕ) (rtspsrcpipe : Option ℕ) : Relay :=
  g.logFetch c (rtspsrcpipe.map Lifecycle.Op.release).toList

end Relay

namespace Rtspsrc

/-- `login_camera`, which says whether the camera could be reached. -/
def loginCamera (cam : Camera) : Except Abort Bool :=
  if ¬ cam.connects then .ok false
  else if ¬ cam.logsIn then .error .gAssert
  else .ok true

def getRtspUrl (cam : Camera) : Except Abort Unit :=
  if cam.tellsUrl then .ok () else .error .gAssert

/-- `start_to_fetch_rtspsrc`, for a connection. -/
def startToFetchRtspsrc (g : Relay) (c : ℕ) (cam : Camera) : Except Abort (Relay × Option ℕ) := do
  if ← loginCamera cam then
    getRtspUrl cam
    let (p, g) := g.parseLaunch
    if cam.plays then return (g.logFetch c [.acquire p], some p)
    else throw .gError
  else return (g, none)

/-- `create_receiver_entry`. -/
def createReceiverEntry (g : Relay) (c : ℕ) (cam : Camera) :
    Except Abort (Relay × Option ReceiverEntry) := do
  if ← loginCamera cam then
    getRtspUrl cam
    let (p, g) := g.parseLaunch
    return (g.logWebrtc c [.acquire p], some { connection := c, pipeline := p })
  else return (g, none)

/-- `destroy_receiver_entry`. -/
def destroyReceiverEntry (g : Relay) (e : ReceiverEntry) : Relay :=
  (g.stopFetch e.connection e.rtspsrcpipe).logWebrtc e.connection [.release e.pipeline]

/-- An answer that was accepted fetches the stream anew. -/
def refetch (g : Relay) (e : ReceiverEntry) (cam : Camera) :
    Except Abort (Relay × ReceiverEntry) := do
  let (g, p) ← startToFetchRtspsrc (g.stopFetch e.connection e.rtspsrcpipe) e.connection cam
  return (g, { e with rtspsrcpipe := p })

/-- `get_navctrl_cmd`. -/
def getNavctrlCmd (cmd : Option CString) : ℤ :=
  if cmd = some (ofString "left") then 4
  else if cmd = some (ofString "right") then 3
  else if cmd = some (ofString "up") then 1
  else if cmd = some (ofString "down") then 2
  else if cmd = some (ofString "origin") then 24
  else -1

/-- `set_autotrack` and `send_navctrl_cmd`. The second request of a navigation is not looked at. -/
def control (cam : Camera) : RtspsrcCommand → Except Abort Unit
  | .autotrack _ => if cam.obeys then .ok () else .error .gAssert
  | .navctrl cmd =>
    if getNavctrlCmd cmd < 0 then .ok ()
    else if cam.obeys then .ok ()
    else .error .gAssert

/-- Do what a message asks for. -/
def perform (sdpParses : CString → Bool) (g : Relay) (e : ReceiverEntry) (cam : Camera) :
    ReceiverCommand RtspsrcCommand → Except Abort (Relay × ReceiverEntry)
  | .fatal => .error .gError
  | .sdpAnswer sdp => do
    remoteAnswer sdpParses sdp
    refetch g e cam
  | .ice _ _ => .ok (g, e)
  | .own command => do
    control cam command
    return (g, e)

/-- `soup_websocket_message_cb`. -/
def soupWebsocketMessageCb (sdpParses : CString → Bool) (g : Relay) (e : ReceiverEntry)
    (cam : Camera) (msg : WsMessage) : Except Abort (Relay × ReceiverEntry) :=
  perform sdpParses g e cam (commandOf msg)

end Rtspsrc

/-! ## The machine -/

inductive RelayEvent
  /-- A websocket opens; the two steps of opening meet the camera one after the other. -/
  | connect (create fetch : Camera)
  | message (c : ℕ) (msg : WsMessage) (cam : Camera)
  | close (c : ℕ)

structure RelayServer where
  relay : Relay := {}
  /-- The entries a message handler is connected with. -/
  entries : AList (fun _ : ℕ ↦ ReceiverEntry) := ∅
  /-- The keys of `receiver_entry_table`. -/
  table : Finset ℕ := ∅
  /-- The connections that are open. -/
  connected : Finset ℕ := ∅
  nextConn : ℕ := 0
  aborted : Option Abort := none

namespace RelayServer

/-- The process dies. -/
def abort (s : RelayServer) (a : Abort) : RelayServer := { s with aborted := some a }

/-- An entry after both steps. It is registered if it fetches. -/
def register (s : RelayServer) (e : ReceiverEntry) : RelayServer :=
  { s with
    entries := s.entries.insert e.connection e
    table := if e.rtspsrcpipe.isSome then insert e.connection s.table else s.table }

/-- `soup_websocket_handler`. -/
def soupWebsocketHandler (s : RelayServer) (create fetch : Camera) : RelayServer :=
  let c := s.nextConn
  let s := { s with connected := insert c s.connected, nextConn := c + 1 }
  match Rtspsrc.createReceiverEntry s.relay c create with
  | .error a => s.abort a
  | .ok (g, none) => { s with relay := g }
  | .ok (g, some e) =>
    match Rtspsrc.startToFetchRtspsrc g c fetch with
    | .error a => s.abort a
    | .ok (g, p) => { s with relay := g }.register { e with rtspsrcpipe := p }

/-- A message, if a handler is connected. -/
def onMessage (sdpParses : CString → Bool) (s : RelayServer) (c : ℕ) (msg : WsMessage)
    (cam : Camera) : RelayServer :=
  match s.entries.lookup c with
  | none => s
  | some e =>
    match Rtspsrc.soupWebsocketMessageCb sdpParses s.relay e cam msg with
    | .error a => s.abort a
    | .ok (g, e) => { s with relay := g, entries := s.entries.insert c e }

/-- `soup_websocket_closed_cb`: `g_hash_table_remove` destroys the entry it finds. -/
def soupWebsocketClosedCb (s : RelayServer) (c : ℕ) : RelayServer :=
  let s := { s with connected := s.connected.erase c }
  if c ∈ s.table then
    match s.entries.lookup c with
    | none => s
    | some e =>
      { s with
        relay := Rtspsrc.destroyReceiverEntry s.relay e
        entries := s.entries.erase c
        table := s.table.erase c }
  else s

def act (sdpParses : CString → Bool) (s : RelayServer) : RelayEvent → RelayServer
  | .connect create fetch => s.soupWebsocketHandler create fetch
  | .message c msg cam => if c ∈ s.connected then s.onMessage sdpParses c msg cam else s
  | .close c => if c ∈ s.connected then s.soupWebsocketClosedCb c else s

def step (sdpParses : CString → Bool) (s : RelayServer) (e : RelayEvent) : RelayServer :=
  if s.aborted.isSome then s else s.act sdpParses e

/-- The process before the first event. -/
def init : RelayServer := {}

end RelayServer

end GstWebrtcCamera

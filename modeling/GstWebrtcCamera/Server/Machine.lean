import GstWebrtcCamera.Core.Run
import GstWebrtcCamera.Http.Serve
import GstWebrtcCamera.Server.Session

/-!
# The server as a machine

Everything the main loop and the helper threads dispatch is an event, and events come in any order.
An event of a connection that is not in the table, or of a callback that is not registered, cannot
happen and leaves the state as it is. A handler that aborts takes the process with it: nothing
happens afterwards.

Outcomes the environment decides are part of the event: whether a pipeline launch succeeds, what
`open` returns, whether a timer whose callback returns nothing goes on.
-/

namespace GstWebrtcCamera

inductive Event
  /-- A page request. -/
  | http (msg : Request) (path : List Char)
  | connect (hashId : UInt64) (launched : Bool)
  | message (c : ℕ) (msg : WsMessage) (launched : Bool)
  /-- A text on the data channel; `fd` is what an `open` in it returns. -/
  | dcString (c : ℕ) (root : Option Json) (fd : ℤ)
  | dcData (c : ℕ) (size : ℕ)
  /-- `sendbin` asks for an offer. -/
  | negotiationNeeded (c : ℕ)
  /-- A registered callback runs; `again` keeps a timer going. -/
  | fire (cb : Callback) (again : Bool)
  | close (c : ℕ)
  /-- The page takes the next message sent to it. -/
  | delivered (c : ℕ)
  | inotify
  | motionLaunch (r : ℕ)
  | motionAppend (r : ℕ)
  | motionTimer (r : ℕ)

namespace Server

/-- The process dies. -/
def abort (s : Server) (a : Abort) : Server := { s with aborted := some a }

/-- Run a handler on the item of a connection. -/
def onItem (s : Server) (c : ℕ)
    (f : Globals → WebrtcItem → Except Abort (Globals × WebrtcItem)) : Server :=
  match s.table.lookup c with
  | none => s
  | some it =>
    match f s.globals it with
    | .error a => s.abort a
    | .ok r => { s with globals := r.1, table := s.table.insert c r.2 }

/-- `soup_websocket_handler`. The table's size is not looked at. -/
def soupWebsocketHandler (env : Env) (s : Server) (hashId : UInt64) (launched : Bool) : Server :=
  let c := s.nextConn
  let (g, it) :=
    env.backend.startWebrtcbin env s.globals { connection := c, hashId := hashId } launched
  { s with globals := g.send c .iceServers, table := s.table.insert c it, nextConn := c + 1 }

/-- `soup_websocket_closed_cb`. -/
def soupWebsocketClosedCb (s : Server) (c : ℕ) : Server :=
  match s.table.lookup c with
  | none => s
  | some it =>
    match destroyWebrtcTable s.globals it with
    | .error a => s.abort a
    | .ok g => { s with globals := g, table := s.table.erase c }

/-- The connection a callback uses is gone, or the transfer a job was queued for is. -/
def Dangling (s : Server) (cb : Callback) : Prop :=
  match s.table.lookup cb.owner with
  | none => True
  | some it =>
    match cb with
    | .playVoice _ transfer => it.dcfile.transfer ≠ transfer
    | _ => False

instance (s : Server) (cb : Callback) : Decidable (s.Dangling cb) := by
  unfold Dangling
  split
  · exact inferInstanceAs (Decidable True)
  · split
    · exact inferInstanceAs (Decidable (_ ≠ _))
    · exact inferInstanceAs (Decidable False)

/-- What stays registered when `cb` has run. -/
def pendingAfter (g : Globals) (cb : Callback) (again : Bool) : List Callback :=
  match cb with
  | .checkState _ => if again then g.pending else g.pending.erase cb
  | _ => g.pending.erase cb

/-- A registered callback runs. -/
def fire (s : Server) (cb : Callback) (again : Bool) : Server :=
  if cb ∈ s.globals.pending then
    let late := if s.Dangling cb then s.globals.late ++ [cb] else s.globals.late
    let pending := pendingAfter s.globals cb again
    { s with globals := { s.globals with pending := pending, late := late } }
  else s

/-- What one event does to a live process. -/
def act (env : Env) (s : Server) : Event → Server
  | .http _ _ => s
  | .connect hashId launched => soupWebsocketHandler env s hashId launched
  | .message c msg launched => s.onItem c fun g it ↦ soupWebsocketMessageCb env g it msg launched
  | .dcString c root fd =>
    s.onItem c fun g it ↦
      (dataChannelOnMessageString g it root fd).map fun (g, it, _) ↦ (g, it)
  | .dcData c size =>
    s.onItem c fun g it ↦
      let (g, it, _) := dataChannelOnMessageData g it size
      .ok (g, it)
  | .negotiationNeeded c => s.onItem c fun g it ↦ .ok (g.register (.offerCreated c), it)
  | .fire cb again => s.fire cb again
  | .close c => s.soupWebsocketClosedCb c
  | .delivered c =>
    { s with
      globals := {
        s.globals with outbox := Function.update s.globals.outbox c (s.globals.outbox c).tail } }
  -- only the appsrc recorder is registered anywhere
  | .inotify =>
    match env.backend with
    | .appsrc => { s with globals := inotifyEvent s.globals }
    | .udpsrc => s
  | .motionLaunch r => { s with globals := startAppsrcRecord s.globals r }
  | .motionAppend r => { s with globals := appendAppsrcRecord s.globals r }
  | .motionTimer r => { s with globals := stopAppsrcRec s.globals r }

def step (env : Env) (s : Server) (e : Event) : Server :=
  if s.aborted.isSome then s else s.act env e

/-- The process before the first event. -/
def init : Server := {}

end Server

end GstWebrtcCamera

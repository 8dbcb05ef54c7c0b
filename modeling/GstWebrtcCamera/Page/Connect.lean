import GstWebrtcCamera.Core.Run

/-!
# How a page connects

`playStream` makes a peer connection and a websocket, in this order, and both pages call it from
three places: the click handler, a timer that the click handler arms if its websocket fails, and the
timer that every websocket arms when it is closed. One variable remembers the last timer armed.

Sockets and peer connections are numbered by the `playStream` call that made them, and the current
peer connection is the last one. A websocket that fails fires `error` and then `close`; the promise
is rejected in between, so what waits for it runs before the close listener does.

An offer is handled in two steps. It is given to the peer connection that is current when it
arrives, and once that is done the peer connection that is current *then* is asked for an answer.
-/

namespace GstWebrtcCamera

/-- Who waits for the promise of a `playStream` call. -/
inductive Origin
  /-- The click handler. -/
  | click
  /-- Nobody: the call is in the timer the click handler arms. -/
  | retry
  /-- The timer of a close listener. -/
  | reconnect
  deriving DecidableEq, Repr

inductive ReadyState
  | connecting
  | opened
  | closed
  deriving DecidableEq, Repr

structure Socket where
  origin : Origin
  readyState : ReadyState := .connecting
  deriving DecidableEq, Repr

/-- An `RTCPeerConnection`. -/
structure Peer (V : Type*) where
  /-- What `iceServers` was when it was constructed; nothing is the empty object. -/
  config : Option V
  /-- The websocket its remote description came over. -/
  remote : Option ℕ := none
  /-- The websocket of the last `iceServers` message before it was constructed. -/
  heard : Option ℕ

structure ConnectPage (V : Type*) where
  /-- The button is disabled by the first click. -/
  clicked : Bool := false
  sockets : List Socket := []
  peers : List (Peer V) := []
  /-- The timers that are pending. -/
  pending : List (ℕ × Origin) := []
  nextTimer : ℕ := 0
  reconnectTimerId : Option ℕ := none
  iceServers : Option V := none
  /-- The websocket of the last `iceServers` message. -/
  heard : Option ℕ := none
  /-- Offers given to a peer connection that has not taken them yet: the websocket and the peer. -/
  awaiting : List (ℕ × ℕ) := []
  /-- Video status intervals that are running; nothing clears one. -/
  intervals : ℕ := 0
  /-- Answers made: the peer connection and the websocket of the offer. -/
  answers : List (ℕ × ℕ) := []

inductive ConnectEvent
  | click
  | opened (i : ℕ)
  /-- `error` and then `close`. -/
  | failed (i : ℕ)
  | closed (i : ℕ)
  | fired (t : ℕ)
  /-- The server's `iceServers` message arrives. -/
  | iceServers (i : ℕ)
  /-- An offer of the server arrives. -/
  | offer (i : ℕ)
  /-- `setRemoteDescription` is done with the `n`-th offer it is given. -/
  | described (n : ℕ) (ok : Bool)

namespace ConnectPage

variable {V : Type*}

def createWebrtcRecv (s : ConnectPage V) : ConnectPage V :=
  { s with peers := s.peers ++ [{ config := s.iceServers, heard := s.heard }] }

def playStream (s : ConnectPage V) (o : Origin) : ConnectPage V :=
  { s.createWebrtcRecv with sockets := s.sockets ++ [{ origin := o }] }

/-- `reconnectTimerId = setTimeout(.., 5000)`. -/
def setTimeout (s : ConnectPage V) (o : Origin) : ConnectPage V :=
  { s with
    pending := s.pending ++ [(s.nextTimer, o)]
    nextTimer := s.nextTimer + 1
    reconnectTimerId := some s.nextTimer }

/-- `if (reconnectTimerId) clearTimeout(reconnectTimerId)`. -/
def clearTimeout (s : ConnectPage V) : ConnectPage V :=
  match s.reconnectTimerId with
  | none => s
  | some t => { s with pending := s.pending.filter (·.1 ≠ t) }

/-- What runs when the promise is fulfilled. -/
def fulfilled (s : ConnectPage V) : Origin → ConnectPage V
  | .click | .reconnect => s.clearTimeout
  | .retry => s

/-- What runs when it is rejected. -/
def rejected (s : ConnectPage V) : Origin → ConnectPage V
  | .click => s.setTimeout .retry
  | .retry | .reconnect => s

def setReadyState (s : ConnectPage V) (i : ℕ) (k : Socket) (r : ReadyState) : ConnectPage V :=
  { s with sockets := s.sockets.set i { k with readyState := r } }

/-- The close listener. -/
def onClose (s : ConnectPage V) (i : ℕ) (k : Socket) : ConnectPage V :=
  (s.setReadyState i k .closed).setTimeout .reconnect

/-- `createAnswer` on the current peer connection, which fails if there is no offer to answer. -/
def createAnswer (s : ConnectPage V) : Option (ℕ × ℕ) :=
  s.peers.getLast?.bind fun q ↦ q.remote.map fun k ↦ (s.peers.length - 1, k)

/-- Peer connection `p` is done with the `n`-th offer, which came over websocket `k`. -/
def setRemoteDescription (s : ConnectPage V) (n : ℕ) (ok : Bool) (k p : ℕ) : ConnectPage V :=
  { s with
    awaiting := s.awaiting.eraseIdx n
    peers := if ok then s.peers.modify p fun q ↦ { q with remote := some k } else s.peers }

/-- The rest of `onIncomingSDP`. -/
def onDescribed (s : ConnectPage V) : ConnectPage V :=
  { s with
    answers := s.answers ++ s.createAnswer.toList
    intervals := s.intervals + 1 }

/-- `served` is the value the server sends on each websocket. -/
def step (served : ℕ → V) (s : ConnectPage V) : ConnectEvent → ConnectPage V
  | .click => if s.clicked then s else { s with clicked := true }.playStream .click
  | .opened i =>
    match s.sockets[i]? with
    | some ⟨o, .connecting⟩ => (s.setReadyState i ⟨o, .connecting⟩ .opened).fulfilled o
    | _ => s
  | .failed i =>
    match s.sockets[i]? with
    | some ⟨o, .connecting⟩ => (s.rejected o).onClose i ⟨o, .connecting⟩
    | some ⟨o, .opened⟩ => s.onClose i ⟨o, .opened⟩
    | _ => s
  | .closed i =>
    match s.sockets[i]? with
    | some ⟨o, .opened⟩ => s.onClose i ⟨o, .opened⟩
    | _ => s
  | .fired t =>
    match s.pending.find? (·.1 = t) with
    | some (_, o) => { s with pending := s.pending.eraseP (·.1 = t) }.playStream o
    | none => s
  | .iceServers i =>
    match s.sockets[i]? with
    | some ⟨_, .opened⟩ => { s with iceServers := some (served i), heard := some i }
    | _ => s
  | .offer i =>
    match s.sockets[i]? with
    | some ⟨_, .opened⟩ => { s with awaiting := s.awaiting ++ [(i, s.peers.length - 1)] }
    | _ => s
  | .described n ok =>
    match s.awaiting[n]? with
    | some (k, p) => (s.setRemoteDescription n ok k p).onDescribed
    | none => s

/-- The page before the click. -/
def init : ConnectPage V := {}

end ConnectPage

end GstWebrtcCamera

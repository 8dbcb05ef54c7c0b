import GstWebrtcCamera.Server.Machine

/-!
# What every item in the table looks like

The function pointers of an item are filled in when the connection is opened and stay what they
were; the only one that changes is `stop_recv`, which is set exactly while a receive pipeline is.
`Wired` says so, and on wired items the handlers have short descriptions: no call goes through
`NULL`, so they are the equations of this file. The invariants of the machine are proved from these
and never unfold a handler.
-/

namespace GstWebrtcCamera

namespace Backend

/-- `record.start` of every connection. -/
def recStart : Backend → RecStart
  | appsrc => .appsrcCmdRecStart
  | udpsrc => .udpsrcCmdRecStart

def recStop : Backend → RecStop
  | appsrc => .appsrcCmdRecStop
  | udpsrc => .udpsrcCmdRecStop

def stopWebrtc : Backend → StopWebrtc
  | appsrc => .stopAppsrcWebrtc
  | udpsrc => .stopUdpsrcWebrtc

end Backend

/-- The function pointers of an open connection. -/
structure Wired (env : Env) (c : ℕ) (it : WebrtcItem) : Prop where
  connection : it.connection = c
  getRecState : it.record.getRecState = some .getRecordState
  start : it.record.start = some env.backend.recStart
  stop : it.record.stop = some env.backend.recStop
  stopWebrtc : it.stopWebrtc = some env.backend.stopWebrtc
  addremote : it.recv.addremote = some .startRecvWebrtcbin
  /-- Set exactly while there is a pipeline to stop. -/
  stopRecv : it.recv.stopRecv = it.recv.recvpipe.map fun _ ↦ .stopRecvWebrtc

/-- `G_AppsrcList` after a pair is appended; only the appsrc backend has the list. -/
def Backend.enlist (b : Backend) (l : List AvRef) (r : AvRef) : List AvRef :=
  match b with
  | appsrc => l ++ [r]
  | udpsrc => l

/-- `G_AppsrcList` after a pair is removed. -/
def Backend.delist (b : Backend) (l : List AvRef) (r : AvRef) : List AvRef :=
  match b with
  | appsrc => l.erase r
  | udpsrc => l

variable {env : Env} {g : Globals} {it : WebrtcItem} {c : ℕ}

/-! ## Recording -/

/-- A start that is not refused. -/
def startRecording (env : Env) (g : Globals) (it : WebrtcItem) (launched : Bool) :
    Globals × WebrtcItem :=
  let (g, record) := env.backend.recStart.call env g it.connection it.record launched
  (g, { it with record := record })

def stopRecording (env : Env) (g : Globals) (it : WebrtcItem) : Globals × WebrtcItem :=
  let (g, record) := env.backend.recStop.call g it.connection it.record
  (g, { it with record := record })

theorem recordStart_eq (h : Wired env c it) (launched : Bool) :
    recordStart env g it launched
      = .ok (if g.cmdRecording then (g.send c .recordStarted, it)
          else startRecording env g it launched) := by
  rw [recordStart, h.getRecState, h.start, ← h.connection]
  cases hrec : g.cmdRecording with
  | true => simp [getRecordState, hrec]
  | false => simp [getRecordState, hrec, startRecording]

theorem recordStop_eq (h : Wired env c it) : recordStop g it = .ok (stopRecording env g it) := by
  rw [recordStop, h.stop]
  rfl

theorem startRecording_eq (env : Env) (g : Globals) (it : WebrtcItem) (launched : Bool) :
    ∃ pair, startRecording env g it launched = (
      { g with
        cmdRecording := true
        nextPipe := if launched then g.nextPipe + 1 else g.nextPipe
        appsrcList := env.backend.enlist g.appsrcList (.cmdRec it.connection) },
      { it with
        record := {
          it.record with
          pipeline := if launched then some g.nextPipe else none
          recAvpair := pair } }) := by
  unfold startRecording
  cases hb : env.backend <;> cases launched <;> exact ⟨_, rfl⟩

theorem stopRecording_eq (env : Env) (g : Globals) (it : WebrtcItem) :
    stopRecording env g it = (
      { g with
        cmdRecording := false
        appsrcList := env.backend.delist g.appsrcList (.cmdRec it.connection) },
      { it with record := { it.record with pipeline := none } }) := by
  unfold stopRecording
  cases env.backend <;> rfl

/-! ## Receiving -/

/-- An offer that gets through: the plugin is there, and the description is a string that parses. -/
def Acceptable (env : Env) (sdp : Option CString) : Prop :=
  env.webrtcbin = true ∧ ∃ text, sdp = some text ∧ env.sdpParses text = true

/-- What an acceptable offer does. -/
def startReceiving (g : Globals) (it : WebrtcItem) : Globals × WebrtcItem :=
  ({ g with
      nextPipe := g.nextPipe + 1
      recvLog :=
        Function.update g.recvLog it.connection (g.recvLog it.connection ++ [.acquire g.nextPipe])
      pending := g.pending ++ [.answerCreated it.connection] },
    { it with
      recv := {
        it.recv with
        recvpipe := some g.nextPipe
        recvbin := some g.nextPipe
        stopRecv := some .stopRecvWebrtc } })

theorem startReceiving_recvLog (g : Globals) {it : WebrtcItem} (hconn : it.connection = c) :
    (startReceiving g it).1.recvLog c = g.recvLog c ++ [.acquire g.nextPipe] := by
  subst hconn
  exact Function.update_self _ _ _

theorem sdpOffer_eq (h : Wired env c it) {sdp : Option CString} (hsdp : Acceptable env sdp) :
    sdpOffer env g it sdp = .ok (startReceiving g it) := by
  obtain ⟨hbin, text, rfl, hparse⟩ := hsdp
  rw [sdpOffer, h.addremote]
  simp only [AddRemote.call, startRecvWebrtcbin, hbin, if_true, handleSdpOffer]
  show Except.bind (if env.sdpParses text then _ else _) _ = _
  rw [if_pos hparse]
  rfl

theorem sdpOffer_error (h : Wired env c it) {sdp : Option CString} (hsdp : ¬ Acceptable env sdp) :
    ∃ a, sdpOffer env g it sdp = .error a := by
  rw [sdpOffer, h.addremote]
  cases hbin : env.webrtcbin with
  | false =>
    exact ⟨.gAssert, by simp [AddRemote.call, startRecvWebrtcbin, hbin, bind, Except.bind]⟩
  | true =>
    cases sdp with
    | none =>
      exact ⟨.strlenNull, by
        simp [AddRemote.call, startRecvWebrtcbin, hbin, bind, Except.bind, handleSdpOffer]⟩
    | some text =>
      have hparse : ¬ env.sdpParses text = true := fun ht ↦ hsdp ⟨hbin, text, rfl, ht⟩
      exact ⟨.gAssert, by
        simp [AddRemote.call, startRecvWebrtcbin, hbin, bind, Except.bind, handleSdpOffer, hparse]⟩

/-- The log after whatever is in the slot is released. -/
def closeRecv (g : Globals) (c : ℕ) (recvpipe : Option ℕ) : Globals :=
  { g with
    recvLog := Function.update g.recvLog c (Lifecycle.closeLog (g.recvLog c) recvpipe) }

theorem closeRecv_recvLog (g : Globals) (c : ℕ) (recvpipe : Option ℕ) :
    (closeRecv g c recvpipe).recvLog c = Lifecycle.closeLog (g.recvLog c) recvpipe :=
  Function.update_self _ _ _

theorem closeRecv_none (g : Globals) (c : ℕ) : closeRecv g c none = g := by
  rw [closeRecv, Lifecycle.closeLog, Function.update_eq_self]

/-- `RecvItem` after a stop: `recvbin` keeps pointing at what was released. -/
def RecvItem.stopped (recv : RecvItem) : RecvItem :=
  { recv with recvpipe := none, stopRecv := none }

theorem Wired.stopped_of_none (h : Wired env c it) (hpipe : it.recv.recvpipe = none) :
    it.recv.stopped = it.recv := by
  have hstop := h.stopRecv
  rw [hpipe, Option.map_none] at hstop
  rw [RecvItem.stopped, ← hpipe, ← hstop]

theorem talkStop_eq (h : Wired env c it) :
    talkStop g it = (closeRecv g c it.recv.recvpipe, { it with recv := it.recv.stopped }) := by
  rw [talkStop, h.stopRecv]
  cases hpipe : it.recv.recvpipe with
  | none =>
    rw [closeRecv_none, h.stopped_of_none hpipe]
    rfl
  | some n =>
    simp only [Option.map_some, StopRecv.call, stopRecvWebrtc, hpipe, h.connection]
    rfl

/-! ## Closing -/

/-- The globals after a connection is closed. -/
def closedGlobals (env : Env) (g : Globals) (it : WebrtcItem) : Globals :=
  let c := it.connection
  let live := it.record.pipeline.isSome
  let avpairs := env.backend.delist g.appsrcList (.send c)
  closeRecv
    { g with
      sqlLog := g.sqlLog ++ [.webrtcOut it.hashId]
      cmdRecording := if live then false else g.cmdRecording
      appsrcList := if live then env.backend.delist avpairs (.cmdRec c) else avpairs }
    c it.recv.recvpipe

theorem stopRecordIfLive_eq (h : Wired env c it) :
    stopRecordIfLive g c it.record = .ok (if it.record.pipeline.isSome then { g with
        cmdRecording := false
        appsrcList := env.backend.delist g.appsrcList (.cmdRec c) } else g) := by
  rw [stopRecordIfLive, h.stop]
  cases it.record.pipeline with
  | none => rfl
  | some n => cases env.backend <;> rfl

theorem stopRecvIfLive_eq (h : Wired env c it) :
    stopRecvIfLive g c it.recv = .ok (closeRecv g c it.recv.recvpipe) := by
  rw [stopRecvIfLive, h.stopRecv]
  cases hpipe : it.recv.recvpipe with
  | none => rw [closeRecv_none]; rfl
  | some n =>
    simp only [Option.isSome_some, if_true, Option.map_some, StopRecv.call, stopRecvWebrtc, hpipe]
    rfl

theorem destroyWebrtcTable_eq (h : Wired env c it) :
    destroyWebrtcTable g it = .ok (closedGlobals env g it) := by
  have hwebrtc : env.backend.stopWebrtc.call (g.addWebrtcAccessLog (.webrtcOut it.hashId)) c
      = { g with
        sqlLog := g.sqlLog ++ [.webrtcOut it.hashId]
        appsrcList := env.backend.delist g.appsrcList (.send c) } := by
    cases env.backend <;> rfl
  simp only [destroyWebrtcTable, h.stopWebrtc, h.connection, hwebrtc, stopRecordIfLive_eq h]
  refine (stopRecvIfLive_eq h).trans ?_
  rw [closedGlobals, h.connection]
  cases it.record.pipeline <;> rfl

/-! ## Opening -/

/-- The item of a new connection is wired and owns nothing but its send pipeline. -/
structure Fresh (env : Env) (c : ℕ) (it : WebrtcItem) : Prop extends Wired env c it where
  pipeline : it.record.pipeline = none
  recvpipe : it.recv.recvpipe = none
  recvbin : it.recv.recvbin = none
  transfer : it.dcfile = {}

theorem fresh_startWebrtcbin (env : Env) (g : Globals) (c : ℕ) (hashId : UInt64)
    (launched : Bool) :
    Fresh env c (env.backend.startWebrtcbin env g
      { connection := c, hashId := hashId } launched).2 := by
  unfold Backend.startWebrtcbin
  cases hb : env.backend <;> cases launched <;>
    exact ⟨⟨rfl, rfl, by rw [hb]; rfl, by rw [hb]; rfl, by rw [hb]; rfl, rfl, rfl⟩,
      rfl, rfl, rfl, rfl⟩

/-- The globals after a connection is opened. -/
def openedGlobals (env : Env) (g : Globals) (c : ℕ) (launched : Bool) : Globals :=
  { g with
    nextPipe := if launched then g.nextPipe + 1 else g.nextPipe
    appsrcList := env.backend.enlist g.appsrcList (.send c)
    pending := match env.backend with
      | .appsrc => g.pending ++ [.checkState c]
      | .udpsrc => g.pending
    outbox := Function.update g.outbox c (g.outbox c ++ [.iceServers]) }

theorem soupWebsocketHandler_eq (env : Env) (s : Server) (hashId : UInt64) (launched : Bool) :
    ∃ it, Fresh env s.nextConn it ∧ s.soupWebsocketHandler env hashId launched = {
      s with
      globals := openedGlobals env s.globals s.nextConn launched
      table := s.table.insert s.nextConn it
      nextConn := s.nextConn + 1 } := by
  refine ⟨_, fresh_startWebrtcbin env s.globals s.nextConn hashId launched, ?_⟩
  unfold Server.soupWebsocketHandler openedGlobals Backend.startWebrtcbin
  cases env.backend <;> cases launched <;> rfl

/-! ## Messages -/

/-- What a message makes of a wired item and the globals, when it does not abort. -/
inductive Performed (env : Env) (g : Globals) (it : WebrtcItem) (launched : Bool) :
    Command → Globals × WebrtcItem → Prop
  | unknown : Performed env g it launched .unknown (g, it)
  | ignored : Performed env g it launched .ignored (g, it)
  | client (ip origin path username useragent : Option CString) :
      Performed env g it launched (.client ip origin path username useragent)
        (g.addWebrtcAccessLog (.webrtcLog it.hashId ip origin path username useragent), it)
  | refused (hrec : g.cmdRecording = true) :
      Performed env g it launched .recordStart (g.send it.connection .recordStarted, it)
  | started (hrec : g.cmdRecording = false) :
      Performed env g it launched .recordStart (startRecording env g it launched)
  | stopped : Performed env g it launched .recordStop (stopRecording env g it)
  | talkStopped :
      Performed env g it launched .talkStop
        (closeRecv g it.connection it.recv.recvpipe, { it with recv := it.recv.stopped })
  | offered {sdp : Option CString} (hsdp : Acceptable env sdp) :
      Performed env g it launched (.sdpOffer sdp) (startReceiving g it)
  | answered (sdp : CString) : Performed env g it launched (.sdpAnswer (some sdp)) (g, it)
  | ice (mlineIndex : UInt32) (candidate : Option CString) :
      Performed env g it launched (.ice mlineIndex candidate) (g, it)

/-- The messages that take the process down. -/
def Aborting (env : Env) : Command → Prop
  | .sdpOffer sdp => ¬ Acceptable env sdp
  | .sdpAnswer sdp => sdp = none
  | _ => False

/-- On a wired item a message is either performed or aborts, and which of the two depends on the
message alone. -/
theorem perform_cases (h : Wired env c it) (launched : Bool) (cmd : Command) :
    (∃ r, perform env g it launched cmd = .ok r ∧ Performed env g it launched cmd r ∧
        ¬ Aborting env cmd) ∨
      ∃ a, perform env g it launched cmd = .error a ∧ Aborting env cmd := by
  cases cmd with
  | unknown => exact .inl ⟨_, rfl, .unknown, id⟩
  | ignored => exact .inl ⟨_, rfl, .ignored, id⟩
  | client ip origin path username useragent =>
    exact .inl ⟨_, rfl, .client ip origin path username useragent, id⟩
  | recordStart =>
    refine .inl ⟨_, recordStart_eq h launched, ?_, id⟩
    by_cases hrec : g.cmdRecording = true
    · rw [if_pos hrec, ← h.connection]
      exact .refused hrec
    · rw [if_neg hrec]
      exact .started (Bool.not_eq_true _ ▸ hrec)
  | recordStop => exact .inl ⟨_, recordStop_eq h, .stopped, id⟩
  | talkStop =>
    refine .inl ⟨_, congrArg Except.ok (talkStop_eq h), ?_, id⟩
    rw [← h.connection]
    exact .talkStopped
  | sdpOffer sdp =>
    by_cases hsdp : Acceptable env sdp
    · exact .inl ⟨_, sdpOffer_eq h hsdp, .offered hsdp, not_not.mpr hsdp⟩
    · obtain ⟨a, ha⟩ := sdpOffer_error (g := g) h hsdp
      exact .inr ⟨a, ha, hsdp⟩
  | sdpAnswer sdp =>
    cases sdp with
    | none => exact .inr ⟨_, rfl, rfl⟩
    | some sdp => exact .inl ⟨_, rfl, .answered sdp, nofun⟩
  | ice mlineIndex candidate => exact .inl ⟨_, rfl, .ice mlineIndex candidate, id⟩

theorem Performed.wired (h : Wired env c it) {launched : Bool} {cmd : Command}
    {r : Globals × WebrtcItem} (hr : Performed env g it launched cmd r) : Wired env c r.2 := by
  cases hr with
  | started hrec =>
    obtain ⟨pair, heq⟩ := startRecording_eq env g it launched
    rw [heq]
    exact ⟨h.connection, h.getRecState, h.start, h.stop, h.stopWebrtc, h.addremote, h.stopRecv⟩
  | stopped =>
    rw [stopRecording_eq]
    exact ⟨h.connection, h.getRecState, h.start, h.stop, h.stopWebrtc, h.addremote, h.stopRecv⟩
  | talkStopped =>
    exact ⟨h.connection, h.getRecState, h.start, h.stop, h.stopWebrtc, h.addremote, rfl⟩
  | offered hsdp =>
    exact ⟨h.connection, h.getRecState, h.start, h.stop, h.stopWebrtc, h.addremote, rfl⟩
  | _ => exact h

theorem Performed.motion_eq {launched : Bool} {cmd : Command} {r : Globals × WebrtcItem}
    (hr : Performed env g it launched cmd r) :
    r.1.threadsRunning = g.threadsRunning ∧ r.1.nextMotion = g.nextMotion ∧
      r.1.spawned = g.spawned ∧ r.1.toAppend = g.toAppend ∧ r.1.armed = g.armed := by
  cases hr with
  | started hrec =>
    obtain ⟨pair, heq⟩ := startRecording_eq env g it launched
    rw [heq]
    exact ⟨rfl, rfl, rfl, rfl, rfl⟩
  | stopped =>
    rw [stopRecording_eq]
    exact ⟨rfl, rfl, rfl, rfl, rfl⟩
  | _ => exact ⟨rfl, rfl, rfl, rfl, rfl⟩

end GstWebrtcCamera

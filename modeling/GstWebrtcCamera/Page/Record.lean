import GstWebrtcCamera.Core.Mirror
import GstWebrtcCamera.Invariant.Recording

/-!
# The record button

Every page has a button that shows `isRecord`. A click switches the flag and sends a command; the
server may refuse a start, which the page learns from a `record started` message that switches the
flag off. For each page and its connection this is a `Mirror`, and an event of the system is an
operation of the library on it.

The server is the machine with all its connections. `playStream` makes a websocket and lets
`websocketConnection` be that one, whether the last one is open or not; one that is replaced goes on
being heard. A websocket has two ends that close by themselves: the page's is closed and the server
drops the connection, in either order.
-/

namespace GstWebrtcCamera

/-- A websocket of a page. -/
inductive PageSocket
  | connecting
  /-- With the number of its connection. -/
  | opened (c : ℕ)
  | closed
  deriving DecidableEq

/-- What a page knows. -/
structure RecordPage where
  isRecord : Bool := false
  /-- `startRecord.disabled == false`. -/
  enabled : Bool := false
  /-- The websockets that `playStream` has made, which are numbered from 1. -/
  sockets : ℕ → PageSocket := fun _ ↦ .closed
  /-- The number of the last one, or 0. -/
  websocketConnection : ℕ := 0

namespace RecordPage

/-- The connection of `websocketConnection`, while that is open. -/
def socket (p : RecordPage) : Option ℕ :=
  match p.sockets p.websocketConnection with
  | .opened c => some c
  | _ => none

/-- The state of a websocket changes. -/
def setSocket (p : RecordPage) (w : ℕ) (k : PageSocket) : RecordPage :=
  { p with sockets := Function.update p.sockets w k }

variable {p : RecordPage} {w v c : ℕ} {k : PageSocket}

theorem socket_eq_some_iff : p.socket = some c ↔ p.sockets p.websocketConnection = .opened c := by
  rw [socket]
  split
  · next d hd => rw [hd, Option.some_inj, PageSocket.opened.injEq]
  · next hne => exact iff_of_false nofun (hne c)

theorem socket_eq_none_of (hk : ∀ c, k ≠ .opened c)
    (h : p.sockets p.websocketConnection = k) : p.socket = none := by
  refine Option.eq_none_iff_forall_ne_some.mpr fun c hc ↦ hk c ?_
  rw [← h, socket_eq_some_iff.mp hc]

@[simp] theorem setSocket_self (p : RecordPage) (w : ℕ) (k : PageSocket) :
    (p.setSocket w k).sockets w = k := Function.update_self _ _ _

theorem setSocket_of_ne (hv : v ≠ w) (k : PageSocket) :
    (p.setSocket w k).sockets v = p.sockets v := Function.update_of_ne hv _ _

theorem socket_setSocket_of_ne (hw : w ≠ p.websocketConnection) (k : PageSocket) :
    (p.setSocket w k).socket = p.socket := by
  have hsame : (p.setSocket w k).sockets p.websocketConnection = p.sockets p.websocketConnection :=
    setSocket_of_ne (Ne.symm hw) k
  show (match (p.setSocket w k).sockets p.websocketConnection with
    | .opened c => some c
    | _ => none) = _
  rw [hsame, socket]

theorem opened_of_setSocket (hk : ∀ c, k ≠ .opened c)
    (h : (p.setSocket w k).sockets v = .opened c) : p.sockets v = .opened c := by
  rcases eq_or_ne v w with rfl | hv
  · rw [setSocket_self] at h
    exact absurd h (hk c)
  · rwa [setSocket_of_ne hv] at h

end RecordPage

open RecordPage

/-- The server, the pages, and the commands between them. -/
structure RecordSystem where
  server : Server := {}
  pages : ℕ → RecordPage := fun _ ↦ {}
  /-- `record` commands under way on a connection; a start is `true`. -/
  toServer : ℕ → List Bool := fun _ ↦ []

namespace RecordSystem

/-- `{"type": "cmd", "cmd": "record", "arg": isRecord ? "start" : "stop"}`. -/
def recordMessage (isRecord : Bool) : WsMessage :=
  if isRecord then pageCommand "record" "start" else pageCommand "record" "stop"

def setPage (s : RecordSystem) (i : ℕ) (p : RecordPage) : RecordSystem :=
  { s with pages := Function.update s.pages i p }

/-- The click handler of `startRecord`. What is sent on a closed socket is lost, and `send` on one
that is connecting throws behind the change of the flag. -/
def click (s : RecordSystem) (i : ℕ) : RecordSystem :=
  if (s.pages i).enabled then
    let isRecord := !(s.pages i).isRecord
    let s := s.setPage i { s.pages i with isRecord := isRecord }
    match (s.pages i).socket with
    | none => s
    | some c => { s with toServer := Function.update s.toServer c (s.toServer c ++ [isRecord]) }
  else s

/-- The server takes the next command of a connection. -/
def serverRecv (env : Env) (s : RecordSystem) (c : ℕ) (launched : Bool) : RecordSystem :=
  match s.toServer c with
  | [] => s
  | isRecord :: rest =>
    { s with
      server := s.server.step env (.message c (recordMessage isRecord) launched)
      toServer := Function.update s.toServer c rest }

def recordCallBack (s : RecordSystem) (i : ℕ) : RecordSystem :=
  s.setPage i { s.pages i with isRecord := false }

/-- `onServerMessage` on the next message of websocket `w`. -/
def onServerMessage (env : Env) (s : RecordSystem) (i w : ℕ) : RecordSystem :=
  match (s.pages i).sockets w with
  | .opened c =>
    match s.server.globals.outbox c with
    | [] => s
    | .iceServers :: _ => { s with server := s.server.step env (.delivered c) }
    | .recordStarted :: _ => { s with server := s.server.step env (.delivered c) }.recordCallBack i
  | _ => s

/-- The server drops a connection, and with it the commands that have not arrived. -/
def serverClose (env : Env) (s : RecordSystem) (c : ℕ) : RecordSystem :=
  { s with
    server := s.server.step env (.close c)
    toServer := Function.update s.toServer c [] }

/-- Websocket `w` of a page is closed, or has failed. -/
def pageClose (s : RecordSystem) (i w : ℕ) : RecordSystem :=
  s.setPage i ((s.pages i).setSocket w .closed)

/-- `playStream`. -/
def playStream (s : RecordSystem) (i : ℕ) : RecordSystem :=
  let w := (s.pages i).websocketConnection + 1
  s.setPage i { (s.pages i).setSocket w .connecting with websocketConnection := w }

/-- The server takes websocket `w`, and it is open. -/
def socketOpened (env : Env) (s : RecordSystem) (i w : ℕ) (hashId : UInt64) (launched : Bool) :
    RecordSystem :=
  match (s.pages i).sockets w with
  | .connecting =>
    { s with server := s.server.step env (.connect hashId launched) }.setPage i
      ((s.pages i).setSocket w (.opened s.server.nextConn))
  | _ => s

inductive Event
  /-- The camera's stream arrives at a page. -/
  | track (i : ℕ)
  | click (i : ℕ)
  | serverRecv (c : ℕ) (launched : Bool)
  | pageRecv (i w : ℕ)
  | serverClose (c : ℕ)
  | pageClose (i w : ℕ)
  /-- A click on the play button, or a timer that fires. -/
  | playStream (i : ℕ)
  | socketOpened (i w : ℕ) (hashId : UInt64) (launched : Bool)

def step (env : Env) (s : RecordSystem) : Event → RecordSystem
  | .track i => s.setPage i { s.pages i with enabled := true }
  | .click i => s.click i
  | .serverRecv c launched => s.serverRecv env c launched
  | .pageRecv i w => s.onServerMessage env i w
  | .serverClose c => s.serverClose env c
  | .pageClose i w => s.pageClose i w
  | .playStream i => s.playStream i
  | .socketOpened i w hashId launched => s.socketOpened env i w hashId launched

def init : RecordSystem := {}

/-! ## Agreement -/

/-- Nothing is under way between a page and the server on the page's connection. -/
def Quiet (s : RecordSystem) (i : ℕ) : Prop :=
  match (s.pages i).socket with
  | none => True
  | some c => s.toServer c = [] ∧ s.server.globals.outbox c = []

/-- The server has a recording pipeline for the page's connection. -/
def recordsFor (s : RecordSystem) (i : ℕ) : Bool :=
  match (s.pages i).socket with
  | none => false
  | some c => s.server.records c

/-- A page nothing is under way for shows what the server does for it. -/
def Agrees (s : RecordSystem) : Prop := ∀ i, s.Quiet i → (s.pages i).isRecord = s.recordsFor i

/-- How many `record started` messages are under way to a connection's page. -/
def refusals (s : RecordSystem) (c : ℕ) : ℕ := (s.server.globals.outbox c).count .recordStarted

/-- Each event as it should come. -/
def Careful (s : RecordSystem) : Event → Prop
  -- a click reaches the server
  | .click i => (s.pages i).enabled = true → ∃ c, (s.pages i).socket = some c ∧ c ∈ s.server.table
  -- an accepted start launches, unless something else is under way
  | .serverRecv c launched =>
    (s.toServer c).head? = some true → s.server.globals.cmdRecording = false →
      launched = true ∨ (s.toServer c).tail ≠ [] ∨ 0 < s.refusals c
  -- a refusal, on whichever websocket, finds the page's recording off, or its stop under way
  | .pageRecv i w =>
    ∀ d, (s.pages i).sockets w = .opened d →
      (s.server.globals.outbox d).head? = some .recordStarted →
        ∀ c, (s.pages i).socket = some c →
          (s.toServer c).getLast? ≠ some true ∧
            (s.toServer c = [] → s.server.records c = false)
  -- a connection is lost while the flag is off, or about to be switched off
  | .serverClose c =>
    ∀ i, (s.pages i).socket = some c → (s.pages i).isRecord = false ∨ 0 < s.refusals c
  | .pageClose i w => w = (s.pages i).websocketConnection → (s.pages i).isRecord = false
  -- a connection is replaced while the flag is off
  | .playStream i => (s.pages i).isRecord = false
  | _ => True

/-- A page and its connection. -/
def mirror (s : RecordSystem) (i c : ℕ) : Mirror where
  flag := (s.pages i).isRecord
  requests := s.toServer c
  refusals := s.refusals c
  actual := s.server.records c

/-- A page is in step with its connection, and off without one. -/
def PageInStep (s : RecordSystem) (i : ℕ) : Prop :=
  match (s.pages i).socket with
  | none => (s.pages i).isRecord = false
  | some c => (s.mirror i c).InStep

/-- The invariant. -/
structure Synced (env : Env) (s : RecordSystem) : Prop where
  wired : s.server.Wired env
  alive : s.server.aborted = none
  /-- Websockets do not share connections. -/
  socket_inj : ∀ i j w v c, (s.pages i).sockets w = .opened c →
    (s.pages j).sockets v = .opened c → i = j ∧ w = v
  socket_lt : ∀ i w c, (s.pages i).sockets w = .opened c → c < s.server.nextConn
  outbox_new : ∀ c, s.server.nextConn ≤ c → s.server.globals.outbox c = []
  /-- Commands are under way to open connections only. -/
  gone : ∀ c, c ∉ s.server.table → s.toServer c = []
  page : ∀ i, s.PageInStep i

variable {env : Env} {s s' : RecordSystem} {i w c : ℕ}

theorem Synced.page_inj (h : Synced env s) {j : ℕ} (hi : (s.pages i).socket = some c)
    (hj : (s.pages j).socket = some c) : i = j :=
  (h.socket_inj i j _ _ c (socket_eq_some_iff.mp hi) (socket_eq_some_iff.mp hj)).1

theorem Synced.agrees (h : Synced env s) : Agrees s := by
  intro i hquiet
  have hpage := h.page i
  rw [PageInStep] at hpage
  rw [Quiet] at hquiet
  rw [recordsFor]
  cases hsocket : (s.pages i).socket with
  | none =>
    rw [hsocket] at hpage
    exact hpage
  | some c =>
    rw [hsocket] at hpage hquiet
    have hzero : s.refusals c = 0 := by
      rw [refusals, hquiet.2]
      rfl
    exact hpage.flag_eq hquiet.1 hzero

theorem PageInStep.of_eq (h : s.PageInStep i)
    (hflag : (s'.pages i).isRecord = (s.pages i).isRecord)
    (hsocket : (s'.pages i).socket = (s.pages i).socket)
    (hmirror : ∀ c, (s.pages i).socket = some c → s'.toServer c = s.toServer c ∧
      s'.refusals c = s.refusals c ∧ s'.server.records c = s.server.records c) :
    s'.PageInStep i := by
  rw [PageInStep, hsocket]
  rw [PageInStep] at h
  cases hc : (s.pages i).socket with
  | none =>
    rw [hc] at h
    exact hflag.trans h
  | some c =>
    rw [hc] at h
    obtain ⟨hq, hr, hrec⟩ := hmirror c hc
    have heq : s'.mirror i c = s.mirror i c := by
      rw [mirror, mirror, hflag, hq, hr, hrec]
    show (s'.mirror i c).InStep
    rw [heq]
    exact h

theorem pageInStep_of_socket (hsocket : (s.pages i).socket = some c) :
    s.PageInStep i ↔ (s.mirror i c).InStep := by
  rw [PageInStep, hsocket]

/-! ## What the server does -/

/-- The same connections are open. -/
structure SameConnections (s s' : Server) : Prop where
  alive : s'.aborted = none
  mem_iff : ∀ c, c ∈ s'.table ↔ c ∈ s.table
  nextConn : s'.nextConn = s.nextConn

section

open Server

variable {s : Server} {it : WebrtcItem} {launched : Bool}

theorem sameConnections_withItem (hlive : s.aborted = none) (hc : c ∈ s.table) (g : Globals)
    (it : WebrtcItem) : SameConnections s (s.withItem c g it) where
  alive := hlive
  mem_iff i := by
    rw [withItem, AList.mem_insert]
    constructor
    · rintro (rfl | hi)
      · exact hc
      · exact hi
    · exact .inr
  nextConn := rfl

theorem commandOf_recordMessage (isRecord : Bool) :
    commandOf (recordMessage isRecord) = if isRecord then .recordStart else .recordStop := by
  cases isRecord with
  | true => exact commandOf_record_start
  | false => exact commandOf_record_stop

theorem records_recordMessage (hs : s.Wired env) (hlive : s.aborted = none) (hc : c ∈ s.table)
    (isRecord launched : Bool) :
    (s.step env (.message c (recordMessage isRecord) launched)).records
      = ((commandClaimOp s.globals.cmdRecording c launched
          (if isRecord then .recordStart else .recordStop)).apply s.claim).owns := by
  have hclaim := claim_step hs (.message c (recordMessage isRecord) launched)
  rw [claimOp, if_pos ⟨hlive, hc⟩, commandOf_recordMessage] at hclaim
  exact congrArg Ownership.Claim.owns hclaim

theorem step_recordMessage (hlive : s.aborted = none) (hit : s.table.lookup c = some it)
    (isRecord : Bool) {r : Globals × WebrtcItem}
    (hr : perform env s.globals it launched (if isRecord then .recordStart else .recordStop)
      = .ok r) :
    s.step env (.message c (recordMessage isRecord) launched) = s.withItem c r.1 r.2 := by
  rw [step_of_live hlive, act, onItem_of_ok hit]
  rw [soupWebsocketMessageCb, commandOf_recordMessage, hr]

/-- A start that is refused is answered, and changes nothing. -/
theorem step_refused (hs : s.Wired env) (hlive : s.aborted = none) (hc : c ∈ s.table)
    (hrec : s.globals.cmdRecording = true) (launched : Bool) :
    ∃ s', s.step env (.message c (recordMessage true) launched) = s' ∧ SameConnections s s' ∧
      s'.globals.outbox
        = Function.update s.globals.outbox c (s.globals.outbox c ++ [.recordStarted]) ∧
      s'.records = s.records := by
  obtain ⟨it, hit⟩ := Option.isSome_iff_exists.mp (AList.lookup_isSome.mpr hc)
  have hr := recordStart_eq (g := s.globals) (hs.items c it hit) launched
  rw [if_pos hrec] at hr
  have hstep := step_recordMessage hlive hit true hr
  have hrecords := records_recordMessage hs hlive hc true launched
  rw [hstep] at hrecords ⊢
  refine ⟨_, rfl, sameConnections_withItem hlive hc _ _, rfl, ?_⟩
  rw [hrecords, hrec]
  rfl

theorem step_started (hs : s.Wired env) (hlive : s.aborted = none) (hc : c ∈ s.table)
    (hrec : s.globals.cmdRecording = false) (launched : Bool) :
    ∃ s', s.step env (.message c (recordMessage true) launched) = s' ∧ SameConnections s s' ∧
      s'.globals.outbox = s.globals.outbox ∧
      s'.records = Function.update s.records c launched := by
  obtain ⟨it, hit⟩ := Option.isSome_iff_exists.mp (AList.lookup_isSome.mpr hc)
  have hr := recordStart_eq (g := s.globals) (hs.items c it hit) launched
  rw [hrec, if_neg Bool.false_ne_true] at hr
  have hstep := step_recordMessage hlive hit true hr
  have hrecords := records_recordMessage hs hlive hc true launched
  obtain ⟨pair, heq⟩ := startRecording_eq env s.globals it launched
  rw [hstep] at hrecords ⊢
  refine ⟨_, rfl, sameConnections_withItem hlive hc _ _, ?_, ?_⟩
  · rw [heq]
    rfl
  · rw [hrecords, hrec]
    rfl

theorem step_stopped (hs : s.Wired env) (hlive : s.aborted = none) (hc : c ∈ s.table)
    (launched : Bool) :
    ∃ s', s.step env (.message c (recordMessage false) launched) = s' ∧ SameConnections s s' ∧
      s'.globals.outbox = s.globals.outbox ∧
      s'.records = Function.update s.records c false := by
  obtain ⟨it, hit⟩ := Option.isSome_iff_exists.mp (AList.lookup_isSome.mpr hc)
  have hr : perform env s.globals it launched .recordStop
      = .ok (stopRecording env s.globals it) := recordStop_eq (hs.items c it hit)
  have hstep := step_recordMessage hlive hit false hr
  have hrecords := records_recordMessage hs hlive hc false launched
  rw [hstep] at hrecords ⊢
  refine ⟨_, rfl, sameConnections_withItem hlive hc _ _, ?_, hrecords⟩
  rw [stopRecording_eq]
  rfl

theorem step_delivered (hs : s.Wired env) (hlive : s.aborted = none) (c : ℕ) :
    ∃ s', s.step env (.delivered c) = s' ∧ SameConnections s s' ∧
      s'.globals.outbox = Function.update s.globals.outbox c (s.globals.outbox c).tail ∧
      s'.records = s.records := by
  have hrecords : (s.step env (.delivered c)).records = s.records :=
    congrArg Ownership.Claim.owns (claim_step hs (.delivered c))
  rw [step_of_live hlive] at hrecords ⊢
  exact ⟨_, rfl, ⟨hlive, fun _ ↦ Iff.rfl, rfl⟩, rfl, hrecords⟩

/-- A close ends the recording of its connection, and nothing else of what pages see. -/
theorem step_closed (hs : s.Wired env) (hlive : s.aborted = none) (c : ℕ) :
    ∃ s', s.step env (.close c) = s' ∧ s'.aborted = none ∧
      (∀ i, i ∈ s'.table ↔ i ≠ c ∧ i ∈ s.table) ∧ s'.nextConn = s.nextConn ∧
      s'.globals.outbox = s.globals.outbox ∧ s'.records = Function.update s.records c false := by
  have hrecords : (s.step env (.close c)).records = Function.update s.records c false := by
    have hclaim := claim_step hs (.close c)
    rw [claimOp] at hclaim
    by_cases hrec : s.records c = true
    · rw [if_pos ⟨hlive, hrec⟩] at hclaim
      exact congrArg Ownership.Claim.owns hclaim
    · rw [if_neg fun h ↦ hrec h.2] at hclaim
      have hfalse : s.records c = false := Bool.not_eq_true _ ▸ hrec
      rw [← hfalse, Function.update_eq_self]
      exact congrArg Ownership.Claim.owns hclaim
  have hstep := hs.stepped (.close c)
  obtain ⟨s', hs'⟩ : ∃ s', s' = s.step env (.close c) := ⟨_, rfl⟩
  rw [← hs'] at hstep hrecords ⊢
  cases hstep with
  | stuck he =>
    refine ⟨s, rfl, hlive, fun i ↦ ⟨fun hi ↦ ⟨?_, hi⟩, And.right⟩, rfl, rfl, hrecords⟩
    rintro rfl
    exact he ⟨hlive, hi⟩
  | closed hl hit => exact ⟨_, rfl, hlive, fun i ↦ AList.mem_erase, rfl, rfl, hrecords⟩

theorem step_connect (hs : s.Wired env) (hlive : s.aborted = none) (hashId : UInt64)
    (launched : Bool) :
    ∃ s', s.step env (.connect hashId launched) = s' ∧ s'.aborted = none ∧
      (∀ i, i ∈ s'.table ↔ i = s.nextConn ∨ i ∈ s.table) ∧ s'.nextConn = s.nextConn + 1 ∧
      s'.globals.outbox = Function.update s.globals.outbox s.nextConn
        (s.globals.outbox s.nextConn ++ [.iceServers]) ∧
      s'.records = s.records := by
  have hrecords : (s.step env (.connect hashId launched)).records = s.records :=
    congrArg Ownership.Claim.owns (claim_step hs (.connect hashId launched))
  obtain ⟨it, -, heq⟩ := soupWebsocketHandler_eq env s hashId launched
  rw [step_of_live hlive, act, heq] at hrecords ⊢
  exact ⟨_, rfl, hlive, fun _ ↦ AList.mem_insert _, rfl, rfl, hrecords⟩

end

/-! ## What pages see of it -/

theorem synced_init (env : Env) : Synced env init where
  wired := Server.wired_init env
  alive := rfl
  socket_inj := nofun
  socket_lt := nofun
  outbox_new _ _ := rfl
  gone _ _ := rfl
  page _ := rfl

theorem setPage_of_ne {j : ℕ} (hj : j ≠ i) (p : RecordPage) : (s.setPage i p).pages j = s.pages j :=
  Function.update_of_ne hj _ _

@[simp] theorem setPage_self (s : RecordSystem) (i : ℕ) (p : RecordPage) :
    (s.setPage i p).pages i = p := Function.update_self _ _ _

theorem Synced.setPage (h : Synced env s) {p : RecordPage}
    (hsub : ∀ w c, p.sockets w = .opened c → (s.pages i).sockets w = .opened c)
    (hpage : (s.setPage i p).PageInStep i) : Synced env (s.setPage i p) := by
  have hsockets : ∀ j w c, ((s.setPage i p).pages j).sockets w = .opened c →
      (s.pages j).sockets w = .opened c := by
    intro j w c hj
    rcases eq_or_ne j i with rfl | hne
    · rw [setPage_self] at hj
      exact hsub w c hj
    · rwa [setPage_of_ne hne] at hj
  refine ⟨h.wired, h.alive, ?_, ?_, h.outbox_new, h.gone, ?_⟩
  · intro j k w v c hj hk
    exact h.socket_inj j k w v c (hsockets j w c hj) (hsockets k v c hk)
  · intro j w c hj
    exact h.socket_lt j w c (hsockets j w c hj)
  · intro j
    rcases eq_or_ne j i with rfl | hj
    · exact hpage
    · have hsame := setPage_of_ne (s := s) hj p
      refine (h.page j).of_eq ?_ ?_ fun c _ ↦ ⟨rfl, rfl, rfl⟩
      · rw [hsame]
      · rw [hsame]

theorem Synced.setPage_of_eq (h : Synced env s) {p : RecordPage}
    (hsub : ∀ w c, p.sockets w = .opened c → (s.pages i).sockets w = .opened c)
    (hflag : p.isRecord = (s.pages i).isRecord) (hsocket : p.socket = (s.pages i).socket) :
    Synced env (s.setPage i p) := by
  refine h.setPage hsub ((h.page i).of_eq ?_ ?_ fun c _ ↦ ⟨rfl, rfl, rfl⟩)
  · rw [setPage_self, hflag]
  · rw [setPage_self, hsocket]

theorem Synced.setPage_of_off (h : Synced env s) {p : RecordPage}
    (hsub : ∀ w c, p.sockets w = .opened c → (s.pages i).sockets w = .opened c)
    (hflag : p.isRecord = false) (hsocket : p.socket = none) : Synced env (s.setPage i p) := by
  refine h.setPage hsub ?_
  rw [PageInStep, setPage_self, hsocket]
  exact hflag

theorem Synced.on_connection (h : Synced env s) (c : ℕ) (hwired : s'.server.Wired env)
    (hsame : SameConnections s.server s'.server)
    (hsockets : ∀ j, (s'.pages j).sockets = (s.pages j).sockets ∧
      (s'.pages j).websocketConnection = (s.pages j).websocketConnection)
    (hpages : ∀ j, (s.pages j).socket ≠ some c → s'.pages j = s.pages j)
    (hother : ∀ d, d ≠ c → s'.toServer d = s.toServer d ∧
      s'.server.globals.outbox d = s.server.globals.outbox d ∧
      s'.server.records d = s.server.records d)
    (hgone : c ∉ s.server.table → s'.toServer c = [])
    (hnew : s.server.nextConn ≤ c → s'.server.globals.outbox c = [])
    (hmirror : ∀ i, (s.pages i).socket = some c → (s'.mirror i c).InStep) : Synced env s' := by
  have hsocket : ∀ j, (s'.pages j).socket = (s.pages j).socket := by
    intro j
    rw [RecordPage.socket, (hsockets j).1, (hsockets j).2, RecordPage.socket]
  refine ⟨hwired, hsame.alive, ?_, ?_, ?_, ?_, ?_⟩
  · intro j k w v d
    rw [(hsockets j).1, (hsockets k).1]
    exact h.socket_inj j k w v d
  · intro j w d
    rw [(hsockets j).1, hsame.nextConn]
    exact h.socket_lt j w d
  · intro d hd
    rw [hsame.nextConn] at hd
    rcases eq_or_ne d c with rfl | hne
    · exact hnew hd
    · rw [(hother d hne).2.1, h.outbox_new d hd]
  · intro d hd
    rw [hsame.mem_iff] at hd
    rcases eq_or_ne d c with rfl | hne
    · exact hgone hd
    · rw [(hother d hne).1, h.gone d hd]
  · intro i
    by_cases hi : (s.pages i).socket = some c
    · exact (pageInStep_of_socket ((hsocket i).trans hi)).mpr (hmirror i hi)
    · have hpage := hpages i hi
      refine (h.page i).of_eq (by rw [hpage]) (by rw [hpage]) fun d hd ↦ ?_
      have hne : d ≠ c := by
        rintro rfl
        exact hi hd
      obtain ⟨hq, hout, hrec⟩ := hother d hne
      exact ⟨hq, by rw [refusals, hout, refusals], hrec⟩

theorem sockets_update {p : RecordPage} (hp : p.sockets = (s.pages i).sockets ∧
    p.websocketConnection = (s.pages i).websocketConnection) (j : ℕ) :
    (Function.update s.pages i p j).sockets = (s.pages j).sockets ∧
      (Function.update s.pages i p j).websocketConnection
        = (s.pages j).websocketConnection := by
  rcases eq_or_ne j i with rfl | hj
  · rw [Function.update_self]
    exact hp
  · rw [Function.update_of_ne hj]
    exact ⟨rfl, rfl⟩

theorem update_of_socket_ne (hsocket : (s.pages i).socket = some c) (p : RecordPage) {j : ℕ}
    (hj : (s.pages j).socket ≠ some c) : Function.update s.pages i p j = s.pages j := by
  refine Function.update_of_ne ?_ _ _
  rintro rfl
  exact hj hsocket

theorem mirror_eq {flag : Bool} {requests : List Bool} {n : ℕ} {actual : Bool}
    (hpage : (s.pages i).isRecord = flag) (hq : s.toServer c = requests) (hn : s.refusals c = n)
    (hrec : s.server.records c = actual) :
    s.mirror i c = { flag := flag, requests := requests, refusals := n, actual := actual } := by
  rw [mirror, hpage, hq, hn, hrec]

/-- A click on an open socket switches the flag and sends the request. -/
theorem click_eq (henabled : (s.pages i).enabled = true) (hsocket : (s.pages i).socket = some c) :
    s.click i = {
      server := s.server
      pages := Function.update s.pages i { s.pages i with isRecord := !(s.pages i).isRecord }
      toServer := Function.update s.toServer c (s.toServer c ++ [!(s.pages i).isRecord]) } := by
  have hflipped : ({ s.pages i with isRecord := !(s.pages i).isRecord } : RecordPage).socket
      = some c := hsocket
  rw [click, if_pos henabled]
  simp only [setPage_self, hflipped]
  rfl

theorem Synced.click (h : Synced env s) (hC : s.Careful (.click i)) : Synced env (s.click i) := by
  by_cases henabled : (s.pages i).enabled = true
  swap
  · rw [RecordSystem.click, if_neg henabled]
    exact h
  obtain ⟨c, hsocket, hc⟩ := hC henabled
  rw [click_eq henabled hsocket]
  refine h.on_connection c h.wired ⟨h.alive, fun _ ↦ Iff.rfl, rfl⟩ (sockets_update ⟨rfl, rfl⟩)
    (fun j ↦ update_of_socket_ne hsocket _) ?_ (absurd hc) (h.outbox_new c) ?_
  · intro d hd
    exact ⟨Function.update_of_ne hd _ _, rfl, rfl⟩
  · intro j hj
    obtain rfl : j = i := h.page_inj hj hsocket
    have hmirror := Mirror.inStep_switch (s.mirror j c) (!(s.pages j).isRecord)
    rw [mirror_eq (congrArg RecordPage.isRecord (Function.update_self _ _ _))
      (Function.update_self _ _ _) rfl rfl]
    exact hmirror

theorem Synced.serve (h : Synced env s) {srv : Server} {rest : List Bool}
    (hc : c ∈ s.server.table) (hwired : srv.Wired env) (hsame : SameConnections s.server srv)
    (hother : ∀ d, d ≠ c → srv.globals.outbox d = s.server.globals.outbox d ∧
      srv.records d = s.server.records d)
    (hmirror : ∀ i, (s.pages i).socket = some c → Mirror.InStep {
      flag := (s.pages i).isRecord
      requests := rest
      refusals := (srv.globals.outbox c).count .recordStarted
      actual := srv.records c }) :
    Synced env { s with server := srv, toServer := Function.update s.toServer c rest } := by
  refine h.on_connection c hwired hsame (fun _ ↦ ⟨rfl, rfl⟩) (fun _ _ ↦ rfl) ?_ (absurd hc) ?_ ?_
  · intro d hd
    exact ⟨Function.update_of_ne hd _ _, hother d hd⟩
  · exact fun hnew ↦ absurd (h.wired.fresh c hc) (Nat.not_lt_of_le hnew)
  · intro i hi
    rw [mirror_eq rfl (Function.update_self _ _ _) rfl rfl]
    exact hmirror i hi

theorem serverRecv_cons {isRecord : Bool} {rest : List Bool} (hq : s.toServer c = isRecord :: rest)
    (launched : Bool) :
    s.serverRecv env c launched = { s with
      server := s.server.step env (.message c (recordMessage isRecord) launched)
      toServer := Function.update s.toServer c rest } := by
  rw [serverRecv, hq]

theorem Synced.serverRecv (h : Synced env s) {launched : Bool}
    (hC : s.Careful (.serverRecv c launched)) : Synced env (s.serverRecv env c launched) := by
  rw [Careful] at hC
  cases hq : s.toServer c with
  | nil =>
    rw [RecordSystem.serverRecv, hq]
    exact h
  | cons isRecord rest =>
    rw [serverRecv_cons hq]
    have hc : c ∈ s.server.table := by
      by_contra hgone
      rw [h.gone c hgone] at hq
      contradiction
    have hwired := h.wired.step (.message c (recordMessage isRecord) launched)
    have hinStep : ∀ i, (s.pages i).socket = some c → (s.mirror i c).InStep := fun i hi ↦
      (pageInStep_of_socket hi).mp (h.page i)
    cases isRecord with
    | false =>
      obtain ⟨srv, hsrv, hsame, hout, hrec⟩ := step_stopped h.wired h.alive hc launched
      rw [hsrv] at hwired ⊢
      refine h.serve hc hwired hsame (fun d hd ↦ ?_) fun i hi ↦ ?_
      · rw [hout, hrec, Function.update_of_ne hd]
        exact ⟨rfl, rfl⟩
      · rw [hout, hrec, Function.update_self]
        exact (hinStep i hi).stop hq
    | true =>
      cases hflag : s.server.globals.cmdRecording with
      | true =>
        obtain ⟨srv, hsrv, hsame, hout, hrec⟩ := step_refused h.wired h.alive hc hflag launched
        rw [hsrv] at hwired ⊢
        refine h.serve hc hwired hsame (fun d hd ↦ ?_) fun i hi ↦ ?_
        · rw [hout, hrec, Function.update_of_ne hd]
          exact ⟨rfl, rfl⟩
        · rw [hout, hrec, Function.update_self, List.count_append, List.count_singleton_self]
          exact (hinStep i hi).refuse hq
      | false =>
        obtain ⟨srv, hsrv, hsame, hout, hrec⟩ := step_started h.wired h.alive hc hflag launched
        rw [hsrv] at hwired ⊢
        refine h.serve hc hwired hsame (fun d hd ↦ ?_) fun i hi ↦ ?_
        · rw [hout, hrec, Function.update_of_ne hd]
          exact ⟨rfl, rfl⟩
        · rw [hout, hrec, Function.update_self]
          rw [hq] at hC
          exact (hinStep i hi).accept hq (hC rfl hflag)

theorem Synced.delivered (h : Synced env s) {m : ServerMsg} {rest : List ServerMsg}
    (hlt : c < s.server.nextConn) (hq : s.server.globals.outbox c = m :: rest)
    (hm : m = .recordStarted → ∀ i, (s.pages i).socket ≠ some c) :
    Synced env { s with server := s.server.step env (.delivered c) } := by
  have hwired := h.wired.step (.delivered c)
  obtain ⟨srv, hsrv, hsame, hout, hrec⟩ := step_delivered h.wired h.alive c
  rw [hsrv] at hwired ⊢
  refine h.on_connection c hwired hsame (fun _ ↦ ⟨rfl, rfl⟩) (fun _ _ ↦ rfl) ?_ (h.gone c) ?_ ?_
  · intro d hd
    rw [hout, hrec, Function.update_of_ne hd]
    exact ⟨rfl, rfl, rfl⟩
  · exact fun hnew ↦ absurd hlt (Nat.not_lt_of_le hnew)
  · intro j hj
    have hn : refusals { s with server := srv } c = s.refusals c := by
      rw [refusals, hout, Function.update_self, refusals, hq, List.tail_cons]
      cases m with
      | iceServers => rfl
      | recordStarted => exact absurd hj (hm rfl j)
    rw [mirror_eq rfl rfl hn (congrFun hrec c)]
    exact (pageInStep_of_socket hj).mp (h.page j)

theorem Synced.refused (h : Synced env s) (hsocket : (s.pages i).socket = some c)
    (hlast : (s.toServer c).getLast? ≠ some true)
    (hact : s.toServer c = [] → s.server.records c = false) :
    Synced env ({ s with server := s.server.step env (.delivered c) }.recordCallBack i) := by
  have hwired := h.wired.step (.delivered c)
  obtain ⟨srv, hsrv, hsame, hout, hrec⟩ := step_delivered h.wired h.alive c
  rw [hsrv] at hwired ⊢
  refine h.on_connection c hwired hsame (sockets_update ⟨rfl, rfl⟩)
    (fun j ↦ update_of_socket_ne hsocket _) ?_ (h.gone c) ?_ ?_
  · intro d hd
    show _ ∧ srv.globals.outbox d = _ ∧ srv.records d = _
    rw [hout, hrec, Function.update_of_ne hd]
    exact ⟨rfl, rfl, rfl⟩
  · exact fun hnew ↦ absurd (h.socket_lt i _ c (socket_eq_some_iff.mp hsocket))
      (Nat.not_lt_of_le hnew)
  · intro j hj
    obtain rfl : j = i := h.page_inj hj hsocket
    rw [mirror_eq (congrArg RecordPage.isRecord (Function.update_self _ _ _)) rfl rfl
      (congrFun hrec c)]
    exact Mirror.inStep_refused (m := s.mirror j c) hlast hact _

theorem Synced.recordCallBack (h : Synced env s)
    (hoff : ∀ c, (s.pages i).socket = some c → (s.toServer c).getLast? ≠ some true ∧
      (s.toServer c = [] → s.server.records c = false)) : Synced env (s.recordCallBack i) := by
  refine h.setPage (fun _ _ ↦ id) ?_
  have hsocket : ({ s.pages i with isRecord := false } : RecordPage).socket = (s.pages i).socket :=
    rfl
  rw [PageInStep, setPage_self, hsocket]
  cases hc : (s.pages i).socket with
  | none => rfl
  | some c =>
    show Mirror.InStep _
    rw [mirror_eq (congrArg RecordPage.isRecord (setPage_self s i _)) rfl rfl rfl]
    exact Mirror.inStep_refused (m := s.mirror i c) (hoff c hc).1 (hoff c hc).2 _

theorem Synced.onServerMessage (h : Synced env s) (hC : s.Careful (.pageRecv i w)) :
    Synced env (s.onServerMessage env i w) := by
  rw [RecordSystem.onServerMessage]
  rw [Careful] at hC
  cases hw : (s.pages i).sockets w with
  | connecting => exact h
  | closed => exact h
  | opened d =>
    have hlt := h.socket_lt i w d hw
    cases hq : s.server.globals.outbox d with
    | nil =>
      simp only [hq]
      exact h
    | cons m rest =>
      simp only [hq]
      cases m with
      | iceServers => exact h.delivered hlt hq nofun
      | recordStarted =>
        have hoff := hC d hw (by rw [hq]; rfl)
        by_cases hcurrent : (s.pages i).socket = some d
        · exact h.refused hcurrent (hoff d hcurrent).1 (hoff d hcurrent).2
        · -- the websocket is not the last one of its page, and so of no page
          have hnone : ∀ j, (s.pages j).socket ≠ some d := by
            intro j hj
            obtain ⟨rfl, -⟩ := h.socket_inj j i _ w d (socket_eq_some_iff.mp hj) hw
            exact hcurrent hj
          have hdelivered := h.delivered hlt hq fun _ ↦ hnone
          obtain ⟨srv, hsrv, -, -, hrec⟩ := step_delivered h.wired h.alive d
          refine hdelivered.recordCallBack fun c hc ↦ ?_
          rw [hsrv]
          show _ ∧ (_ → srv.records c = false)
          rw [hrec]
          exact hoff c hc

theorem Synced.serverClose (h : Synced env s) (hC : s.Careful (.serverClose c)) :
    Synced env (s.serverClose env c) := by
  rw [RecordSystem.serverClose]
  have hwired := h.wired.step (.close c)
  obtain ⟨srv, hsrv, halive, hmem, hnext, hout, hrec⟩ := step_closed h.wired h.alive c
  rw [hsrv] at hwired ⊢
  refine ⟨hwired, halive, h.socket_inj, ?_, ?_, ?_, ?_⟩
  · intro j w d hd
    rw [hnext]
    exact h.socket_lt j w d hd
  · intro d hd
    rw [hnext] at hd
    rw [hout, h.outbox_new d hd]
  · intro d hd
    rcases eq_or_ne d c with rfl | hne
    · exact Function.update_self _ _ _
    · refine (Function.update_of_ne hne _ _).trans (h.gone d fun hin ↦ hd ?_)
      exact (hmem d).mpr ⟨hne, hin⟩
  · intro i
    by_cases hi : (s.pages i).socket = some c
    · refine (pageInStep_of_socket (s := { s with
        server := srv
        toServer := Function.update s.toServer c [] }) hi).mpr ?_
      show Mirror.InStep {
        flag := (s.pages i).isRecord
        requests := Function.update s.toServer c [] c
        refusals := (srv.globals.outbox c).count .recordStarted
        actual := srv.records c }
      rw [Function.update_self, hout, hrec, Function.update_self]
      exact Mirror.inStep_cut (m := s.mirror i c) (hC i hi)
    · refine (h.page i).of_eq rfl rfl fun d hd ↦ ?_
      have hne : d ≠ c := by
        rintro rfl
        exact hi hd
      refine ⟨Function.update_of_ne hne _ _, ?_, ?_⟩
      · rw [refusals, hout, refusals]
      · rw [hrec, Function.update_of_ne hne]

theorem Synced.pageClose (h : Synced env s) (hC : s.Careful (.pageClose i w)) :
    Synced env (s.pageClose i w) := by
  have hclosed : ∀ c, PageSocket.closed ≠ .opened c := fun _ ↦ PageSocket.noConfusion
  have hsub : ∀ v c, ((s.pages i).setSocket w .closed).sockets v = .opened c →
      (s.pages i).sockets v = .opened c := fun _ _ ↦ opened_of_setSocket hclosed
  by_cases hw : w = (s.pages i).websocketConnection
  · refine h.setPage_of_off hsub (hC hw) (socket_eq_none_of hclosed ?_)
    rw [hw]
    exact setSocket_self _ _ _
  · exact h.setPage_of_eq hsub rfl (socket_setSocket_of_ne hw _)

theorem Synced.playStream (h : Synced env s) (hC : s.Careful (.playStream i)) :
    Synced env (s.playStream i) := by
  have hconnecting : ∀ c, PageSocket.connecting ≠ .opened c := fun _ ↦ PageSocket.noConfusion
  exact h.setPage_of_off (fun _ _ hv ↦ opened_of_setSocket hconnecting hv) hC
    (socket_eq_none_of hconnecting (setSocket_self _ _ _))

theorem records_of_notMem (hc : c ∉ s.server.table) : s.server.records c = false := by
  rw [← Bool.not_eq_true]
  exact fun hrec ↦ hc (Server.mem_of_records hrec)

theorem Synced.opened_cases (h : Synced env s) {j v : ℕ}
    (hj : (Function.update s.pages i ((s.pages i).setSocket w (.opened s.server.nextConn)) j).sockets
      v = .opened c) :
    (j = i ∧ v = w ∧ c = s.server.nextConn) ∨
      (s.pages j).sockets v = .opened c ∧ c < s.server.nextConn := by
  rcases eq_or_ne j i with rfl | hne
  · rw [Function.update_self] at hj
    rcases eq_or_ne v w with rfl | hv
    · rw [setSocket_self] at hj
      exact .inl ⟨rfl, rfl, (PageSocket.opened.inj hj).symm⟩
    · rw [setSocket_of_ne hv] at hj
      exact .inr ⟨hj, h.socket_lt j v c hj⟩
  · rw [Function.update_of_ne hne] at hj
    exact .inr ⟨hj, h.socket_lt j v c hj⟩

theorem Synced.pageInStep_opened (h : Synced env s) (hw : (s.pages i).sockets w = .connecting)
    {srv : Server} {message : ServerMsg}
    (hout : srv.globals.outbox = Function.update s.server.globals.outbox s.server.nextConn
      (s.server.globals.outbox s.server.nextConn ++ [message]))
    (hrec : srv.records = s.server.records) (j : ℕ) :
    ({ s with server := srv }.setPage i
      ((s.pages i).setSocket w (.opened s.server.nextConn))).PageInStep j := by
  obtain ⟨p, hp⟩ : ∃ p, p = (s.pages i).setSocket w (.opened s.server.nextConn) := ⟨_, rfl⟩
  rw [← hp]
  -- a page that keeps its flag and its connection
  have hold : (Function.update s.pages i p j).isRecord = (s.pages j).isRecord →
      (Function.update s.pages i p j).socket = (s.pages j).socket →
        ({ s with server := srv }.setPage i p).PageInStep j := by
    intro hflag hsocket
    refine (h.page j).of_eq hflag hsocket fun d hd ↦ ⟨rfl, ?_, ?_⟩
    · have hlt := h.socket_lt j _ d (socket_eq_some_iff.mp hd)
      show List.count _ (srv.globals.outbox d) = _
      rw [hout, Function.update_of_ne (Nat.ne_of_lt hlt), refusals]
    · show srv.records d = _
      rw [hrec]
  by_cases hj : j = i
  swap
  · exact hold (by rw [Function.update_of_ne hj]) (by rw [Function.update_of_ne hj])
  subst hj
  by_cases hcurrent : w = (s.pages j).websocketConnection
  · have hnone : (s.pages j).socket = none :=
      socket_eq_none_of (fun _ ↦ PageSocket.noConfusion) (hcurrent ▸ hw)
    have hoff : (s.pages j).isRecord = false := by
      have hpage := h.page j
      rwa [PageInStep, hnone] at hpage
    have hnow : (Function.update s.pages j p j).socket = some s.server.nextConn := by
      rw [Function.update_self, socket_eq_some_iff, hp, hcurrent]
      exact setSocket_self _ _ _
    have hnotMem : s.server.nextConn ∉ s.server.table := fun hin ↦
      lt_irrefl _ (h.wired.fresh _ hin)
    refine (pageInStep_of_socket (s := { s with server := srv }.setPage j p) hnow).mpr ?_
    refine (Mirror.inStep_of_nil (h.gone _ hnotMem)).mpr ⟨fun hlive ↦ ?_, fun _ _ ↦ ?_⟩
    · change srv.records s.server.nextConn = true at hlive
      rw [hrec, records_of_notMem hnotMem] at hlive
      contradiction
    · show (Function.update s.pages j p j).isRecord = false
      rw [Function.update_self, hp]
      exact hoff
  · refine hold (by rw [Function.update_self, hp]; rfl) ?_
    rw [Function.update_self, hp, socket_setSocket_of_ne hcurrent]

theorem Synced.socketOpened (h : Synced env s) (i w : ℕ) (hashId : UInt64) (launched : Bool) :
    Synced env (s.socketOpened env i w hashId launched) := by
  rw [RecordSystem.socketOpened]
  cases hw : (s.pages i).sockets w with
  | opened c => exact h
  | closed => exact h
  | connecting =>
    have hwired := h.wired.step (.connect hashId launched)
    obtain ⟨srv, hsrv, halive, hmem, hnext, hout, hrec⟩ :=
      step_connect h.wired h.alive hashId launched
    rw [hsrv] at hwired
    simp only [hsrv]
    refine ⟨hwired, halive, ?_, ?_, ?_, ?_, h.pageInStep_opened hw hout hrec⟩
    · intro j k v u c hj hk
      rcases h.opened_cases hj with ⟨rfl, rfl, rfl⟩ | ⟨hj, hlt⟩
      · rcases h.opened_cases hk with ⟨rfl, rfl, -⟩ | ⟨-, hlt⟩
        · exact ⟨rfl, rfl⟩
        · exact absurd hlt (lt_irrefl _)
      · rcases h.opened_cases hk with ⟨rfl, rfl, rfl⟩ | ⟨hk, -⟩
        · exact absurd hlt (lt_irrefl _)
        · exact h.socket_inj j k v u c hj hk
    · intro j v c hj
      show c < srv.nextConn
      rw [hnext]
      rcases h.opened_cases hj with ⟨-, -, rfl⟩ | ⟨-, hlt⟩
      · exact Nat.lt_succ_self _
      · exact Nat.lt_succ_of_lt hlt
    · intro d hd
      change srv.nextConn ≤ d at hd
      rw [hnext] at hd
      show srv.globals.outbox d = []
      rw [hout, Function.update_of_ne (Nat.ne_of_gt hd), h.outbox_new d (Nat.le_of_succ_le hd)]
    · intro d hd
      exact h.gone d fun hin ↦ hd ((hmem d).mpr (.inr hin))

/-- **One step.** A careful event keeps every page in step with its connection. -/
theorem Synced.step (h : Synced env s) {e : Event} (hC : s.Careful e) :
    Synced env (s.step env e) := by
  cases e with
  | track i => exact h.setPage_of_eq (fun _ _ ↦ id) rfl rfl
  | click i => exact h.click hC
  | serverRecv c launched => exact h.serverRecv hC
  | pageRecv i w => exact h.onServerMessage hC
  | serverClose c => exact h.serverClose hC
  | pageClose i w => exact h.pageClose hC
  | playStream i => exact h.playStream hC
  | socketOpened i w hashId launched => exact h.socketOpened i w hashId launched

/-- **The record button.** In a run of careful events, every page nothing is under way for shows
whether the server has a recording pipeline for its connection. -/
theorem always_agrees (env : Env) {es : List Event} (h : Run.Meets (step env) Careful init es) :
    Run.Always (step env) Agrees init es := by
  have hsynced : Run.Always (step env) (Synced env) init es :=
    h.always (synced_init env) fun s e hs hC ↦ hs.step hC
  exact hsynced.mono fun s hs ↦ hs.agrees

/-- One page starts a recording, stops it again, and connects anew. -/
theorem always_agrees_start_stop :
    Run.Always (step (Env.plain .udpsrc)) Agrees init [.playStream 0, .socketOpened 0 1 1 true,
      .track 0, .pageRecv 0 1, .click 0, .serverRecv 0 true, .click 0, .serverRecv 0 true,
      .playStream 0, .socketOpened 0 2 2 true] := by
  refine always_agrees (Env.plain .udpsrc)
    ⟨rfl, trivial, trivial, ?_, ?_, ?_, ?_, ?_, rfl, trivial, trivial⟩
  · intro d hd hhead
    obtain rfl := PageSocket.opened.inj hd
    exact absurd hhead (by decide +kernel)
  · exact fun _ ↦ ⟨0, rfl, by decide +kernel⟩
  · exact fun _ _ ↦ .inl rfl
  · exact fun _ ↦ ⟨0, rfl, by decide +kernel⟩
  · exact fun _ _ ↦ .inl rfl

/-- The connection is lost while it records. -/
theorem exists_not_agrees :
    ∃ s ∈ Run.reachable (step (Env.plain .udpsrc)) init, ¬ Agrees s := by
  refine ⟨_, ⟨[.playStream 0, .socketOpened 0 1 1 true, .track 0, .pageRecv 0 1, .click 0,
    .serverRecv 0 true, .serverClose 0], rfl⟩, fun h ↦ ?_⟩
  exact absurd (h 0 ⟨by decide +kernel, by decide +kernel⟩) (by decide +kernel)

end RecordSystem

end GstWebrtcCamera

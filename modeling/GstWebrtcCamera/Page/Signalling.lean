import GstWebrtcCamera.Server.Wired

/-!
# Two sessions on one websocket

A page and the server share one websocket for two peer connections: the *camera* session between the
server's `sendbin` and the page's `webrtcPeerConnection`, and the *talk* sessions, each between a
`localpc` of the page and the `recvbin` made for its offer. Descriptions name their session by being
offers or answers. Candidates do not name it at all: both sides guess it from what they have at
the moment, the server from `recvbin` and the page from `localpc` and a button.

The server side is `perform` on one connection's item, the page side is translated from `webrtc.js`;
between them are two queues. Endpoints in messages and promises are those that made them. The code
does not have them, and every application of a description or a candidate is recorded with them, so
that one can say where it should have gone.
-/

namespace GstWebrtcCamera

open Lifecycle

/-- A peer connection of the page. -/
inductive PageEnd
  /-- `webrtcPeerConnection`. -/
  | camera
  /-- The `localpc` of talk `k`. -/
  | talk (k : ℕ)
  deriving DecidableEq, Repr

/-- A `webrtcbin` of the server. -/
inductive ServerEnd
  | sendbin
  /-- The `recvbin` of pipeline `n`, made for an offer of talk `k`. -/
  | recvbin (n k : ℕ)
  deriving DecidableEq, Repr

/-- The two ends of one session. -/
def Paired : PageEnd → ServerEnd → Prop
  | .camera, .sendbin => True
  | .talk j, .recvbin _ k => j = k
  | _, _ => False

/-- A description or a candidate that is given to an endpoint, or to none. -/
inductive Application
  /-- What the page made, on the server. -/
  | onServer (source : PageEnd) (target : Option ServerEnd) (tornDown : Bool)
  /-- What the server made, on the page. -/
  | onPage (source : ServerEnd) (target : Option PageEnd) (tornDown : Bool)
  /-- A local description, on the server. -/
  | ownServer (source : ServerEnd) (target : Option ServerEnd) (tornDown : Bool)
  /-- A local description, on the page. -/
  | ownPage (source : PageEnd) (target : Option PageEnd) (tornDown : Bool)
  deriving DecidableEq

/-- To the other end of the session, or as a local description to the same end, and in time. -/
def Application.Right : Application → Prop
  | .onServer p (some e) tornDown => Paired p e ∧ tornDown = false
  | .onPage e (some p) tornDown => Paired p e ∧ tornDown = false
  | .ownServer e (some e') tornDown => e' = e ∧ tornDown = false
  | .ownPage p (some p') tornDown => p' = p ∧ tornDown = false
  | _ => False

/-- A message to the server, with the endpoint that made it. -/
inductive ToServer
  | talkStop
  | offer (k : ℕ) (sdp : CString)
  /-- The answer of `webrtcPeerConnection`. -/
  | answer (sdp : CString)
  | ice (source : PageEnd) (mlineIndex : UInt32) (candidate : CString)
  deriving DecidableEq

/-- What the server gets to see of a message. -/
def ToServer.command : ToServer → Command
  | talkStop => .talkStop
  | offer _ sdp => .sdpOffer (some sdp)
  | answer sdp => .sdpAnswer (some sdp)
  | ice _ mlineIndex candidate => .ice mlineIndex (some candidate)

/-- A message to the page, with the endpoint that made it. -/
inductive ToPage
  /-- The offer of `sendbin`. -/
  | offer
  | answer (n k : ℕ)
  | ice (source : ServerEnd)
  deriving DecidableEq

/-- The page. -/
structure TalkPage where
  /-- `localpc`, which is never set back. -/
  localpc : Option ℕ := none
  nextTalk : ℕ := 0
  /-- Talks whose transceivers have been stopped. -/
  stopped : List ℕ := []
  /-- `startRecord.disabled == false`. -/
  recordEnabled : Bool := false
  /-- `getUserMedia` calls that have not resolved. -/
  media : ℕ := 0
  /-- `createOffer` calls that have not resolved, by talk. -/
  offers : List ℕ := []
  /-- `createAnswer` calls that have not resolved. -/
  answers : ℕ := 0

/-- A page, a connection of the server, and what is under way between them. -/
structure Signalling where
  globals : Globals
  item : WebrtcItem
  page : TalkPage := {}
  toServer : List ToServer := []
  toPage : List ToPage := []
  /-- The talk a receive pipeline was made for. -/
  talkOf : ℕ → ℕ := fun _ ↦ 0
  /-- Receive pipelines whose `on_answer_created` has not run. -/
  created : List ℕ := []
  applied : List Application := []
  /-- How the server died, if it did. -/
  aborted : Option Abort := none

namespace Signalling

/-- The endpoint behind a `webrtcbin` pointer. -/
def serverEnd (s : Signalling) (p : ℕ) : ServerEnd :=
  if s.item.sendbin = some p then .sendbin else .recvbin p (s.talkOf p)

/-- `stop_recv_webrtc` has run on the pipeline. -/
def Released (s : Signalling) (n : ℕ) : Prop := .release n ∈ s.globals.recvLog s.item.connection

instance (s : Signalling) (n : ℕ) : Decidable (s.Released n) :=
  inferInstanceAs (Decidable (_ ∈ _))

def serverTornDown (s : Signalling) : Option ServerEnd → Bool
  | some (.recvbin n _) => decide (s.Released n)
  | _ => false

def pageTornDown (s : Signalling) : Option PageEnd → Bool
  | some (.talk k) => decide (k ∈ s.page.stopped)
  | _ => false

def apply (s : Signalling) (a : Application) : Signalling := { s with applied := s.applied ++ [a] }

def applyOnServer (s : Signalling) (source : PageEnd) (p : Option ℕ) : Signalling :=
  let target := p.map s.serverEnd
  s.apply (.onServer source target (s.serverTornDown target))

def applyOnPage (s : Signalling) (source : ServerEnd) (target : Option PageEnd) : Signalling :=
  s.apply (.onPage source target (s.pageTornDown target))

/-! ## The server -/

/-- `on_offer_created_cb`. The local description goes to the `sendbin` that made it. -/
def onOfferCreatedCb (s : Signalling) : Signalling := { s with toPage := s.toPage ++ [.offer] }

/-- A `webrtcbin` that can find candidates. -/
def Gathers (s : Signalling) : ServerEnd → Prop
  | .sendbin => True
  | .recvbin n k =>
    .acquire n ∈ s.globals.recvLog s.item.connection ∧ ¬ s.Released n ∧ s.talkOf n = k

instance (s : Signalling) (e : ServerEnd) : Decidable (s.Gathers e) := by
  cases e
  · exact inferInstanceAs (Decidable True)
  · exact inferInstanceAs (Decidable (_ ∧ _ ∧ _))

/-- `on_ice_candidate_cb`. -/
def onIceCandidateCb (s : Signalling) (e : ServerEnd) : Signalling :=
  if s.Gathers e then { s with toPage := s.toPage ++ [.ice e] } else s

/-- `on_answer_created`: the answer of pipeline `n` becomes the local description of whatever
`recvbin` is now, and goes out. -/
def onAnswerCreated (s : Signalling) (n : ℕ) : Signalling :=
  if n ∈ s.created then
    let target := s.item.recv.recvbin.map s.serverEnd
    let s := s.apply (.ownServer (.recvbin n (s.talkOf n)) target (s.serverTornDown target))
    let pending := Server.pendingAfter s.globals (.answerCreated s.item.connection) false
    { s with
      globals := { s.globals with pending := pending }
      created := s.created.erase n
      toPage := s.toPage ++ [.answer n (s.talkOf n)] }
  else s

/-- What a message applies, when `perform` has run. -/
def applyMessage (env : Env) (s : Signalling) : ToServer → Signalling
  | .talkStop => s
  | .offer k _ =>
    match s.item.recv.recvbin with
    | none => s
    | some n =>
      { s with
        talkOf := Function.update s.talkOf n k
        created := s.created ++ [n] }.applyOnServer (.talk k) (some n)
  | .answer sdp => s.applyOnServer .camera (answerTarget env s.item sdp)
  | .ice source _ _ => s.applyOnServer source (iceTarget s.item)

/-- `soup_websocket_message_cb` on the next message. -/
def serverRecv (env : Env) (s : Signalling) : Signalling :=
  match s.toServer with
  | [] => s
  | m :: rest =>
    match perform env s.globals s.item true m.command with
    | .error a => { s with aborted := some a }
    | .ok r => { s with globals := r.1, item := r.2, toServer := rest }.applyMessage env m

/-! ## The page -/

/-- `stopLocalMedia`: the transceivers of `localpc` are stopped, and it stays what it is. -/
def stopLocalMedia (s : Signalling) : Signalling :=
  { s with
    toServer := s.toServer ++ [.talkStop]
    page := { s.page with stopped := s.page.localpc.toList ++ s.page.stopped } }

/-- `startSendMedia`. -/
def startSendMedia (s : Signalling) : Signalling :=
  { s with page := { s.page with media := s.page.media + 1 } }

/-- `selectVideoSize`. -/
def selectVideoSize (s : Signalling) (stop : Bool) : Signalling :=
  if stop then s.stopLocalMedia else s.stopLocalMedia.startSendMedia

/-- `createSender`, when `getUserMedia` resolves. -/
def createSender (s : Signalling) : Signalling :=
  if s.page.media = 0 then s
  else
    { s with
      page := {
        s.page with
        localpc := some s.page.nextTalk
        nextTalk := s.page.nextTalk + 1
        media := s.page.media - 1
        offers := s.page.offers ++ [s.page.nextTalk] } }

/-- `createOffer` of talk `k` resolves: the offer becomes the local description of whatever
`localpc` is now, and goes out. -/
def offerCreated (s : Signalling) (k : ℕ) (sdp : CString) : Signalling :=
  if k ∈ s.page.offers then
    let target := s.page.localpc.map .talk
    let s := s.apply (.ownPage (.talk k) target (s.pageTornDown target))
    { s with
      toServer := s.toServer ++ [.offer k sdp]
      page := { s.page with offers := s.page.offers.erase k } }
  else s

/-- `onLocalDescription`, when `createAnswer` resolves. -/
def onLocalDescription (s : Signalling) (sdp : CString) : Signalling :=
  if s.page.answers = 0 then s
  else
    let s := s.apply (.ownPage .camera (some .camera) false)
    { s with
      toServer := s.toServer ++ [.answer sdp]
      page := { s.page with answers := s.page.answers - 1 } }

/-- `onIceCandidate`, for any peer connection there has been. -/
def onIceCandidate (s : Signalling) (p : PageEnd) (mlineIndex : UInt32) (candidate : CString) :
    Signalling :=
  match p with
  | .camera => { s with toServer := s.toServer ++ [.ice .camera mlineIndex candidate] }
  | .talk k =>
    if k < s.page.nextTalk then
      { s with toServer := s.toServer ++ [.ice (.talk k) mlineIndex candidate] }
    else s

/-- `onIncomingICE`. -/
def onIncomingIce (s : Signalling) (source : ServerEnd) : Signalling :=
  if s.page.recordEnabled ∧ s.page.localpc.isSome then
    s.applyOnPage source (s.page.localpc.map .talk)
  else s.applyOnPage source (some .camera)

/-- `onServerMessage` on the next message, with `onIncomingSDP`. -/
def onServerMessage (s : Signalling) : Signalling :=
  match s.toPage with
  | [] => s
  | .offer :: rest =>
    let s := { s with toPage := rest }.applyOnPage .sendbin (some .camera)
    { s with page := { s.page with answers := s.page.answers + 1 } }
  | .answer n k :: rest =>
    { s with toPage := rest }.applyOnPage (.recvbin n k) (s.page.localpc.map .talk)
  | .ice source :: rest => { s with toPage := rest }.onIncomingIce source

/-! ## The system -/

inductive Event
  /-- `sendbin` has made an offer. -/
  | serverOffer
  | serverIce (e : ServerEnd)
  | serverRecv
  /-- The answer of pipeline `n` is there. -/
  | answerCreated (n : ℕ)
  | selectVideoSize (stop : Bool)
  /-- `localpc` is disconnected. -/
  | disconnected
  | createSender
  | offerCreated (k : ℕ) (sdp : CString)
  | localDescription (sdp : CString)
  | pageIce (p : PageEnd) (mlineIndex : UInt32) (candidate : CString)
  | pageRecv
  /-- The camera's stream arrives. -/
  | track

/-- What happens on the server. -/
def Event.isServer : Event → Bool
  | serverOffer | serverIce _ | serverRecv | answerCreated _ => true
  | _ => false

def act (env : Env) (s : Signalling) : Event → Signalling
  | .serverOffer => s.onOfferCreatedCb
  | .serverIce e => s.onIceCandidateCb e
  | .serverRecv => s.serverRecv env
  | .answerCreated n => s.onAnswerCreated n
  | .selectVideoSize stop => s.selectVideoSize stop
  | .disconnected => s.stopLocalMedia
  | .createSender => s.createSender
  | .offerCreated k sdp => s.offerCreated k sdp
  | .localDescription sdp => s.onLocalDescription sdp
  | .pageIce p mlineIndex candidate => s.onIceCandidate p mlineIndex candidate
  | .pageRecv => s.onServerMessage
  | .track => { s with page := { s.page with recordEnabled := true } }

/-- Nothing happens on a server that has died. -/
def step (env : Env) (s : Signalling) (e : Event) : Signalling :=
  if s.aborted.isSome ∧ e.isServer then s else s.act env e

/-- A connection has just been opened and its pipeline runs. -/
def init (env : Env) : Signalling :=
  let (g, it) := env.backend.startWebrtcbin env {} { connection := 0, hashId := 0 } true
  { globals := g, item := it }

/-! ## Where things go -/

/-- Everything that has arrived has been applied, and where it should. -/
structure Routed (s : Signalling) : Prop where
  /-- No message was the end of the server instead. -/
  alive : s.aborted = none
  right : ∀ a ∈ s.applied, a.Right

/-- `localpc` is that of talk `k`, and it has not been stopped. -/
def OnTalk (s : Signalling) (k : ℕ) : Prop := s.page.localpc = some k ∧ k ∉ s.page.stopped

/-- `recvbin` is that of pipeline `n`, and it has not been stopped. -/
def OnPipe (s : Signalling) (n : ℕ) : Prop := s.item.recv.recvbin = some n ∧ ¬ s.Released n

/-- When a message may reach the server. -/
def GoodToServer (env : Env) (s : Signalling) : ToServer → Prop
  | .offer _ sdp => Acceptable env (some sdp)
  | .answer sdp => env.sdpParses sdp = true
  -- no offer has arrived yet: `recvbin` is never cleared
  | .ice .camera _ _ => s.item.recv.recvbin = none
  | .ice (.talk k) _ _ => ∃ n, s.OnPipe n ∧ s.talkOf n = k
  | _ => True

/-- When a message may reach the page. -/
def GoodToPage (s : Signalling) : ToPage → Prop
  | .offer => True
  | .answer _ k => s.OnTalk k
  | .ice .sendbin => s.page.recordEnabled = true → s.page.localpc = none
  | .ice (.recvbin _ k) => s.page.recordEnabled = true ∧ s.OnTalk k

/-- Every offer can be accepted and every answer parses, every candidate arrives while the
receiver's guess is its session, and every promise resolves, and every answer arrives, while its own
endpoint is the current one and not stopped. -/
def Orderly (env : Env) (s : Signalling) : Event → Prop
  | .serverRecv => ∀ m ∈ s.toServer.head?, s.GoodToServer env m
  | .pageRecv => ∀ m ∈ s.toPage.head?, s.GoodToPage m
  | .answerCreated n => n ∈ s.created → s.OnPipe n
  | .offerCreated k _ => k ∈ s.page.offers → s.OnTalk k
  | _ => True

/-- What connects the pointers: `sendbin` is the first pipeline, and every `recvbin` a later one. -/
structure Linked (env : Env) (s : Signalling) : Prop where
  wired : Wired env 0 s.item
  sendbin : s.item.sendbin = some 0
  recvbin_pos : ∀ n, s.item.recv.recvbin = some n → 0 < n
  recvpipe_lt : ∀ n, s.item.recv.recvpipe = some n → n < s.globals.nextPipe
  released_lt : ∀ n, .release n ∈ s.globals.recvLog 0 → n < s.globals.nextPipe
  nextPipe_pos : 0 < s.globals.nextPipe

variable {env : Env} {s s' : Signalling}

theorem linked_init (env : Env) : Linked env (init env) := by
  have hfresh := fresh_startWebrtcbin env {} 0 0 true
  have hglobals : (init env).item.sendbin = some 0 ∧ (init env).globals.recvLog 0 = [] ∧
      (init env).globals.nextPipe = 1 := by
    unfold init Backend.startWebrtcbin
    cases env.backend <;> exact ⟨rfl, rfl, rfl⟩
  obtain ⟨hsendbin, hlog, hnext⟩ := hglobals
  constructor
  · exact hfresh.toWired
  · exact hsendbin
  · intro n hn
    rw [show (init env).item.recv.recvbin = none from hfresh.recvbin] at hn
    contradiction
  · intro n hn
    rw [show (init env).item.recv.recvpipe = none from hfresh.recvpipe] at hn
    contradiction
  · intro n hn
    exact absurd (hlog ▸ hn) List.not_mem_nil
  · exact hnext ▸ Nat.one_pos

theorem Linked.of_eq (h : Linked env s) (hitem : s'.item = s.item)
    (hnext : s'.globals.nextPipe = s.globals.nextPipe)
    (hlog : s'.globals.recvLog = s.globals.recvLog) : Linked env s' where
  wired := by rw [hitem]; exact h.wired
  sendbin := by rw [hitem]; exact h.sendbin
  recvbin_pos := by rw [hitem]; exact h.recvbin_pos
  recvpipe_lt := by rw [hitem, hnext]; exact h.recvpipe_lt
  released_lt := by rw [hlog, hnext]; exact h.released_lt
  nextPipe_pos := by rw [hnext]; exact h.nextPipe_pos

theorem serverEnd_recvbin (h : Linked env s) {n : ℕ} (hn : 0 < n) :
    s.serverEnd n = .recvbin n (s.talkOf n) := by
  rw [serverEnd, h.sendbin, if_neg]
  intro heq
  exact hn.ne (Option.some.inj heq)

theorem serverEnd_sendbin (h : Linked env s) : s.serverEnd 0 = .sendbin := by
  rw [serverEnd, h.sendbin, if_pos rfl]

theorem Routed.of_eq (h : Routed s) (halive : s'.aborted = s.aborted)
    (happlied : s'.applied = s.applied) : Routed s' :=
  ⟨halive.trans h.alive, happlied ▸ h.right⟩

theorem routed_iff_of_append (h : Routed s) {a : Application}
    (happlied : s'.applied = s.applied ++ [a]) (halive : s'.aborted = s.aborted) :
    Routed s' ↔ a.Right := by
  constructor
  · intro h'
    exact h'.right a (happlied ▸ List.mem_append_right _ (List.mem_singleton_self a))
  · refine fun ha ↦ ⟨halive.trans h.alive, fun b hb ↦ ?_⟩
    rw [happlied] at hb
    rcases List.mem_append.mp hb with hb | hb
    · exact h.right b hb
    · exact List.mem_singleton.mp hb ▸ ha

/-! ## One application -/

/-- What a receive pipeline made goes to its talk exactly if the talk is the current one. -/
theorem right_onPage_recvbin_iff (s : Signalling) (n k : ℕ) :
    (Application.onPage (.recvbin n k) (s.page.localpc.map .talk)
      (s.pageTornDown (s.page.localpc.map .talk))).Right ↔ s.OnTalk k := by
  rw [OnTalk]
  cases s.page.localpc with
  | none => exact iff_of_false id nofun
  | some j =>
    simp only [Option.map_some, Application.Right, Paired, pageTornDown, decide_eq_false_iff_not,
      Option.some_inj]
    exact and_congr_right fun hj ↦ by rw [hj]

theorem not_right_onPage_sendbin (pc : Option ℕ) (tornDown : Bool) :
    ¬ (Application.onPage .sendbin (pc.map .talk) tornDown).Right := by
  cases pc with
  | none => exact id
  | some j => exact fun h ↦ h.1

theorem right_ownPage_iff (s : Signalling) (k : ℕ) :
    (Application.ownPage (.talk k) (s.page.localpc.map .talk)
      (s.pageTornDown (s.page.localpc.map .talk))).Right ↔ s.OnTalk k := by
  rw [OnTalk]
  cases s.page.localpc with
  | none => exact iff_of_false id nofun
  | some j =>
    simp only [Option.map_some, Application.Right, pageTornDown, decide_eq_false_iff_not,
      Option.some_inj, PageEnd.talk.injEq]
    exact and_congr_right fun hj ↦ by rw [hj]

theorem right_ownServer_iff (h : Linked env s) (n : ℕ) :
    (Application.ownServer (.recvbin n (s.talkOf n)) (s.item.recv.recvbin.map s.serverEnd)
      (s.serverTornDown (s.item.recv.recvbin.map s.serverEnd))).Right ↔ s.OnPipe n := by
  rw [OnPipe]
  cases hbin : s.item.recv.recvbin with
  | none => exact iff_of_false id nofun
  | some m =>
    simp only [Option.map_some, serverEnd_recvbin h (h.recvbin_pos m hbin), Application.Right,
      serverTornDown, decide_eq_false_iff_not, Option.some_inj, ServerEnd.recvbin.injEq]
    constructor
    · rintro ⟨⟨rfl, -⟩, hrel⟩
      exact ⟨rfl, hrel⟩
    · rintro ⟨rfl, hrel⟩
      exact ⟨⟨rfl, rfl⟩, hrel⟩

/-- An answer goes to `sendbin`, and is dropped if it does not parse. -/
theorem right_answer_iff (h : Linked env s) (sdp : CString) :
    (Application.onServer .camera ((answerTarget env s.item sdp).map s.serverEnd)
      (s.serverTornDown ((answerTarget env s.item sdp).map s.serverEnd))).Right
      ↔ s.GoodToServer env (.answer sdp) := by
  rw [answerTarget]
  by_cases hparses : env.sdpParses sdp = true
  · rw [if_pos hparses, h.sendbin, Option.map_some, serverEnd_sendbin h]
    exact iff_of_true ⟨trivial, rfl⟩ hparses
  · rw [if_neg hparses]
    exact iff_of_false id hparses

theorem right_ice_iff (h : Linked env s) (source : PageEnd) (mlineIndex : UInt32)
    (candidate : CString) :
    (Application.onServer source ((iceTarget s.item).map s.serverEnd)
      (s.serverTornDown ((iceTarget s.item).map s.serverEnd))).Right
      ↔ s.GoodToServer env (.ice source mlineIndex candidate) := by
  rw [iceTarget]
  cases hbin : s.item.recv.recvbin with
  | none =>
    simp only [Option.isSome_none, Bool.false_eq_true, if_false, h.sendbin, Option.map_some,
      serverEnd_sendbin h]
    cases source with
    | camera => exact iff_of_true ⟨trivial, rfl⟩ hbin
    | talk k =>
      refine iff_of_false (fun hr ↦ hr.1) ?_
      rintro ⟨n, ⟨hn, -⟩, -⟩
      exact absurd (hbin.symm.trans hn) nofun
  | some m =>
    simp only [Option.isSome_some, if_true, Option.map_some,
      serverEnd_recvbin h (h.recvbin_pos m hbin)]
    cases source with
    | camera => exact iff_of_false (fun hr ↦ hr.1) fun hg ↦ nomatch hbin.symm.trans hg
    | talk k =>
      simp only [Application.Right, Paired, serverTornDown, decide_eq_false_iff_not]
      constructor
      · rintro ⟨hk, hrel⟩
        exact ⟨m, ⟨hbin, hrel⟩, hk.symm⟩
      · rintro ⟨n, ⟨hn, hrel⟩, hk⟩
        obtain rfl : m = n := Option.some.inj (hbin.symm.trans hn)
        exact ⟨hk.symm, hrel⟩

/-! ## One message at the server -/

/-- What a message makes of the server. -/
def served (g : Globals) (it : WebrtcItem) : ToServer → Globals × WebrtcItem
  | .talkStop => (closeRecv g 0 it.recv.recvpipe, { it with recv := it.recv.stopped })
  | .offer _ _ => startReceiving g it
  | _ => (g, it)

theorem perform_eq {g : Globals} {it : WebrtcItem} (h : Wired env 0 it) {m : ToServer}
    (hm : ∀ k sdp, m = .offer k sdp → Acceptable env (some sdp)) :
    perform env g it true m.command = .ok (served g it m) := by
  cases m with
  | talkStop => exact congrArg Except.ok (talkStop_eq h)
  | offer k sdp => exact sdpOffer_eq h (hm k sdp rfl)
  | answer sdp => rfl
  | ice source mlineIndex candidate => rfl

theorem serverRecv_cons (h : Linked env s) {m : ToServer} {rest : List ToServer}
    (hq : s.toServer = m :: rest) (hm : ∀ k sdp, m = .offer k sdp → Acceptable env (some sdp)) :
    s.serverRecv env = { s with
      globals := (served s.globals s.item m).1
      item := (served s.globals s.item m).2
      toServer := rest }.applyMessage env m := by
  rw [serverRecv, hq]
  simp only [perform_eq h.wired hm]

/-- An offer that cannot be accepted is the last message. -/
theorem serverRecv_offer (h : Linked env s) {k : ℕ} {sdp : CString} {rest : List ToServer}
    (hq : s.toServer = .offer k sdp :: rest) (hsdp : ¬ Acceptable env (some sdp)) :
    ∃ a, s.serverRecv env = { s with aborted := some a } := by
  obtain ⟨a, ha⟩ := sdpOffer_error (g := s.globals) h.wired hsdp
  refine ⟨a, ?_⟩
  rw [serverRecv, hq]
  simp only [ToServer.command, perform, ha]

theorem Linked.served (h : Linked env s) (m : ToServer) :
    Linked env { s with
      globals := (served s.globals s.item m).1
      item := (served s.globals s.item m).2 } := by
  have hw := h.wired
  cases m with
  | talkStop =>
    refine ⟨?_, h.sendbin, h.recvbin_pos, nofun, ?_, h.nextPipe_pos⟩
    · exact ⟨hw.connection, hw.getRecState, hw.start, hw.stop, hw.stopWebrtc, hw.addremote, rfl⟩
    · intro n hn
      change Op.release n ∈ (closeRecv s.globals 0 s.item.recv.recvpipe).recvLog 0 at hn
      rw [closeRecv_recvLog] at hn
      cases hpipe : s.item.recv.recvpipe with
      | none =>
        rw [hpipe] at hn
        exact h.released_lt n hn
      | some i =>
        rw [hpipe] at hn
        rcases List.mem_append.mp hn with hn | hn
        · exact h.released_lt n hn
        · obtain rfl : n = i := by simpa using hn
          exact h.recvpipe_lt n hpipe
  | offer k sdp =>
    refine ⟨?_, h.sendbin, ?_, ?_, ?_, Nat.succ_pos _⟩
    · exact ⟨hw.connection, hw.getRecState, hw.start, hw.stop, hw.stopWebrtc, hw.addremote, rfl⟩
    · rintro n hn
      obtain rfl : s.globals.nextPipe = n := Option.some.inj hn
      exact h.nextPipe_pos
    · rintro n hn
      obtain rfl : s.globals.nextPipe = n := Option.some.inj hn
      exact Nat.lt_succ_self _
    · intro n hn
      change Op.release n ∈ (startReceiving s.globals s.item).1.recvLog 0 at hn
      rw [startReceiving_recvLog _ hw.connection] at hn
      have hold : Op.release n ∈ s.globals.recvLog 0 := by simpa using hn
      exact (h.released_lt n hold).trans (Nat.lt_succ_self _)
  | answer sdp => exact h
  | ice source mlineIndex candidate => exact h

theorem applied_offer (h : Linked env s) {n : ℕ} (hbin : s.item.recv.recvbin = some n)
    (hnew : ¬ s.Released n) (k : ℕ) (sdp : CString) :
    (s.applyMessage env (.offer k sdp)).applied
      = s.applied ++ [.onServer (.talk k) (some (.recvbin n k)) false] := by
  obtain ⟨s', hs'⟩ : ∃ s', s' = { s with
    talkOf := Function.update s.talkOf n k
    created := s.created ++ [n] } := ⟨_, rfl⟩
  have hl : Linked env s' := h.of_eq (by rw [hs']) (by rw [hs']) (by rw [hs'])
  have htalk : s'.talkOf n = k := by
    rw [hs']
    exact Function.update_self n k s.talkOf
  have hend : s'.serverEnd n = .recvbin n k := by
    rw [serverEnd_recvbin hl (h.recvbin_pos n hbin), htalk]
  have htorn : s'.serverTornDown (some (.recvbin n k)) = false := by
    rw [serverTornDown, hs']
    exact decide_eq_false hnew
  rw [applyMessage, hbin]
  simp only [← hs', applyOnServer, Option.map_some, hend, htorn]
  rw [hs', apply]

/-- A message that is served goes where it should exactly if it arrives in time. -/
theorem routed_served_iff (h : Linked env s) (hr : Routed s) {m : ToServer}
    (hm : ∀ k sdp, m = .offer k sdp → Acceptable env (some sdp)) (rest : List ToServer) :
    Routed ({ s with
      globals := (served s.globals s.item m).1
      item := (served s.globals s.item m).2
      toServer := rest }.applyMessage env m) ↔ s.GoodToServer env m := by
  obtain ⟨s', hs'⟩ : ∃ s', s' = { s with
    globals := (served s.globals s.item m).1
    item := (served s.globals s.item m).2
    toServer := rest } := ⟨_, rfl⟩
  have hl : Linked env s' := (h.served m).of_eq (by rw [hs']) (by rw [hs']) (by rw [hs'])
  have hr' : Routed s' := hr.of_eq (by rw [hs']) (by rw [hs'])
  rw [← hs']
  cases m with
  | talkStop => exact iff_of_true hr' trivial
  | offer k sdp =>
    -- the pipeline is new, so it is the one of this offer and has not been stopped
    have hbin : s'.item.recv.recvbin = some s.globals.nextPipe := by rw [hs']; rfl
    have hnew : ¬ s'.Released s.globals.nextPipe := by
      rw [Released, hl.wired.connection, hs']
      change Op.release _ ∉ (startReceiving s.globals s.item).1.recvLog 0
      rw [startReceiving_recvLog _ h.wired.connection]
      intro hmem
      have hold : Op.release s.globals.nextPipe ∈ s.globals.recvLog 0 := by simpa using hmem
      exact lt_irrefl _ (h.released_lt _ hold)
    have happ := applied_offer hl hbin hnew k sdp
    have halive : (s'.applyMessage env (.offer k sdp)).aborted = s'.aborted := by
      rw [applyMessage, hbin]
      rfl
    exact iff_of_true ((routed_iff_of_append hr' happ halive).mpr ⟨rfl, rfl⟩) (hm k sdp rfl)
  | answer sdp =>
    have happ : Routed (s'.applyMessage env (.answer sdp)) ↔ _ :=
      routed_iff_of_append hr' rfl (by rfl)
    exact happ.trans (right_answer_iff hl sdp)
  | ice source mlineIndex candidate =>
    have hgood : s'.GoodToServer env (.ice source mlineIndex candidate)
        ↔ s.GoodToServer env (.ice source mlineIndex candidate) := by
      rw [hs']
      rfl
    rw [← hgood, ← right_ice_iff hl]
    exact routed_iff_of_append hr' rfl (by rfl)

theorem routed_serverRecv_iff (h : Linked env s) (hr : Routed s) :
    Routed (s.serverRecv env) ↔ ∀ m ∈ s.toServer.head?, s.GoodToServer env m := by
  cases hq : s.toServer with
  | nil =>
    rw [serverRecv, hq]
    exact iff_of_true hr (by simp)
  | cons m rest =>
    simp only [List.head?_cons, Option.mem_some_iff, forall_eq']
    by_cases hm : ∀ k sdp, m = .offer k sdp → Acceptable env (some sdp)
    · rw [serverRecv_cons h hq hm]
      exact routed_served_iff h hr hm rest
    · push Not at hm
      obtain ⟨k, sdp, rfl, hsdp⟩ := hm
      obtain ⟨a, ha⟩ := serverRecv_offer h hq hsdp
      refine iff_of_false (fun hr' ↦ ?_) hsdp
      rw [ha] at hr'
      exact Option.some_ne_none a hr'.alive

theorem Linked.applyMessage (h : Linked env s) (m : ToServer) :
    Linked env (s.applyMessage env m) := by
  cases m with
  | talkStop => exact h
  | offer k sdp =>
    rw [Signalling.applyMessage]
    split
    · exact h
    · exact h.of_eq rfl rfl rfl
  | answer sdp => exact h.of_eq rfl rfl rfl
  | ice source mlineIndex candidate => exact h.of_eq rfl rfl rfl

theorem Linked.serverRecv (h : Linked env s) :
    Linked env (s.serverRecv env) := by
  cases hq : s.toServer with
  | nil =>
    rw [Signalling.serverRecv, hq]
    exact h
  | cons m rest =>
    by_cases hm : ∀ k sdp, m = .offer k sdp → Acceptable env (some sdp)
    · rw [serverRecv_cons h hq hm]
      refine Linked.applyMessage ?_ m
      exact (h.served m).of_eq rfl rfl rfl
    · push Not at hm
      obtain ⟨k, sdp, rfl, hsdp⟩ := hm
      obtain ⟨a, ha⟩ := serverRecv_offer h hq hsdp
      rw [ha]
      exact h.of_eq rfl rfl rfl

/-! ## One message at the page -/

theorem routed_onIncomingIce_iff (hr : Routed s) (source : ServerEnd) :
    Routed (s.onIncomingIce source) ↔ s.GoodToPage (.ice source) := by
  rw [onIncomingIce]
  by_cases htalk : s.page.recordEnabled = true ∧ s.page.localpc.isSome = true
  · rw [if_pos htalk]
    refine (routed_iff_of_append hr rfl (by rfl)).trans ?_
    cases source with
    | sendbin =>
      refine iff_of_false (not_right_onPage_sendbin _ _) fun hg ↦ ?_
      exact absurd (hg htalk.1) (Option.isSome_iff_ne_none.mp htalk.2)
    | recvbin n k => exact (right_onPage_recvbin_iff s n k).trans (by simp [GoodToPage, htalk.1])
  · rw [if_neg htalk]
    refine (routed_iff_of_append hr rfl (by rfl)).trans ?_
    cases source with
    | sendbin =>
      refine iff_of_true (show _ ∧ _ from ⟨trivial, rfl⟩) fun henabled ↦ ?_
      by_contra hpc
      exact htalk ⟨henabled, Option.isSome_iff_ne_none.mpr hpc⟩
    | recvbin n k =>
      refine iff_of_false (fun hright ↦ hright.1) fun hg ↦ htalk ⟨hg.1, ?_⟩
      rw [hg.2.1]
      rfl

theorem routed_onServerMessage_iff (hr : Routed s) :
    Routed s.onServerMessage ↔ ∀ m ∈ s.toPage.head?, s.GoodToPage m := by
  rw [onServerMessage]
  cases hq : s.toPage with
  | nil => exact iff_of_true hr (by simp)
  | cons m rest =>
    simp only [List.head?_cons, Option.mem_some_iff, forall_eq']
    cases m with
    | offer =>
      have hright : (Application.onPage .sendbin (some .camera) false).Right := ⟨trivial, rfl⟩
      exact iff_of_true ((routed_iff_of_append hr rfl (by rfl)).mpr hright) trivial
    | answer n k =>
      exact (routed_iff_of_append hr rfl (by rfl)).trans (right_onPage_recvbin_iff s n k)
    | ice source =>
      have hr' : Routed { s with toPage := rest } := hr.of_eq rfl rfl
      exact routed_onIncomingIce_iff hr' source

/-! ## One step -/

theorem routed_act_iff (h : Linked env s) (hr : Routed s) (e : Event) :
    Routed (s.act env e) ↔ s.Orderly env e := by
  cases e with
  | serverRecv => exact routed_serverRecv_iff h hr
  | pageRecv => exact routed_onServerMessage_iff hr
  | answerCreated n =>
    rw [act, onAnswerCreated]
    by_cases hn : n ∈ s.created
    · rw [if_pos hn]
      refine (routed_iff_of_append hr rfl (by rfl)).trans ((right_ownServer_iff h n).trans ?_)
      exact ⟨fun hp _ ↦ hp, fun hp ↦ hp hn⟩
    · rw [if_neg hn]
      exact iff_of_true hr fun hmem ↦ absurd hmem hn
  | offerCreated k sdp =>
    rw [act, offerCreated]
    by_cases hk : k ∈ s.page.offers
    · rw [if_pos hk]
      refine (routed_iff_of_append hr rfl (by rfl)).trans ((right_ownPage_iff s k).trans ?_)
      exact ⟨fun hp _ ↦ hp, fun hp ↦ hp hk⟩
    · rw [if_neg hk]
      exact iff_of_true hr fun hmem ↦ absurd hmem hk
  | localDescription sdp =>
    refine iff_of_true ?_ trivial
    rw [act, onLocalDescription]
    have hright : (Application.ownPage .camera (some .camera) false).Right := ⟨rfl, rfl⟩
    split_ifs
    · exact hr
    · exact (routed_iff_of_append hr rfl (by rfl)).mpr hright
  | serverIce e =>
    refine iff_of_true ?_ trivial
    rw [act, onIceCandidateCb]
    split_ifs <;> exact hr.of_eq rfl rfl
  | selectVideoSize stop =>
    refine iff_of_true ?_ trivial
    rw [act, selectVideoSize]
    split_ifs <;> exact hr.of_eq rfl rfl
  | createSender =>
    refine iff_of_true ?_ trivial
    rw [act, createSender]
    split_ifs <;> exact hr.of_eq rfl rfl
  | pageIce p mlineIndex candidate =>
    refine iff_of_true ?_ trivial
    rw [act]
    cases p with
    | camera => exact hr.of_eq rfl rfl
    | talk k =>
      rw [onIceCandidate]
      split_ifs <;> exact hr.of_eq rfl rfl
  | serverOffer => exact iff_of_true (hr.of_eq rfl rfl) trivial
  | disconnected => exact iff_of_true (hr.of_eq rfl rfl) trivial
  | track => exact iff_of_true (hr.of_eq rfl rfl) trivial

theorem Linked.act (h : Linked env s) (e : Event) : Linked env (s.act env e) := by
  cases e with
  | serverRecv => exact h.serverRecv
  | pageRecv =>
    rw [Signalling.act, onServerMessage]
    split
    · exact h
    · exact h.of_eq rfl rfl rfl
    · exact h.of_eq rfl rfl rfl
    · rw [onIncomingIce]
      split_ifs <;> exact h.of_eq rfl rfl rfl
  | answerCreated n =>
    rw [Signalling.act, onAnswerCreated]
    split_ifs
    · exact h.of_eq rfl rfl rfl
    · exact h
  | offerCreated k sdp =>
    rw [Signalling.act, Signalling.offerCreated]
    split_ifs
    · exact h.of_eq rfl rfl rfl
    · exact h
  | localDescription sdp =>
    rw [Signalling.act, onLocalDescription]
    split_ifs
    · exact h
    · exact h.of_eq rfl rfl rfl
  | serverIce e =>
    rw [Signalling.act, onIceCandidateCb]
    split_ifs
    · exact h.of_eq rfl rfl rfl
    · exact h
  | selectVideoSize stop =>
    rw [Signalling.act, Signalling.selectVideoSize]
    split_ifs <;> exact h.of_eq rfl rfl rfl
  | createSender =>
    rw [Signalling.act, Signalling.createSender]
    split_ifs
    · exact h
    · exact h.of_eq rfl rfl rfl
  | pageIce p mlineIndex candidate =>
    rw [Signalling.act]
    cases p with
    | camera => exact h.of_eq rfl rfl rfl
    | talk k =>
      rw [onIceCandidate]
      split_ifs
      · exact h.of_eq rfl rfl rfl
      · exact h
  | serverOffer => exact h.of_eq rfl rfl rfl
  | disconnected => exact h.of_eq rfl rfl rfl
  | track => exact h.of_eq rfl rfl rfl

theorem step_of_alive (h : s.aborted = none) (e : Event) : s.step env e = s.act env e := by
  rw [step, if_neg]
  rw [h]
  exact fun hdead ↦ nomatch hdead.1

/-- **One step.** Everything goes on having gone where it should exactly if the event is orderly. -/
theorem routed_step_iff (h : Linked env s) (hr : Routed s) (e : Event) :
    Routed (s.step env e) ↔ s.Orderly env e := by
  rw [step_of_alive hr.alive]
  exact routed_act_iff h hr e

theorem Linked.step (h : Linked env s) (e : Event) : Linked env (s.step env e) := by
  rw [Signalling.step]
  split_ifs
  · exact h
  · exact h.act e

theorem routed_init (env : Env) : Routed (init env) := ⟨rfl, fun _ ha ↦ absurd ha List.not_mem_nil⟩

theorem routed_step (h : Linked env s ∧ Routed s) {e : Event} (hC : s.Orderly env e) :
    Linked env (s.step env e) ∧ Routed (s.step env e) :=
  ⟨h.1.step e, (routed_step_iff h.1 h.2 e).mpr hC⟩

/-- **Routing.** In a run everything goes where it should throughout exactly when every event of the
run is orderly. -/
theorem always_routed_iff (env : Env) (es : List Event) :
    Run.Always (step env) Routed (init env) es
      ↔ Run.Meets (step env) (Orderly env) (init env) es := by
  refine Run.always_iff_meets (I := fun s ↦ Linked env s ∧ Routed s)
    ⟨linked_init _, routed_init _⟩ (fun s hs ↦ hs.2) (fun s e hs hC ↦ routed_step hs hC) ?_
  rintro s e ⟨h, hr⟩ hP
  exact (routed_step_iff h hr e).mp hP

/-- A talk has begun, and the camera session finds another candidate. -/
theorem exists_not_routed :
    ∃ s ∈ Run.reachable (step (Env.plain .udpsrc)) (init (Env.plain .udpsrc)), ¬ Routed s := by
  refine ⟨_, ⟨[.selectVideoSize false, .createSender, .offerCreated 0 (CString.ofString "v=0"),
    .serverRecv, .serverRecv, .pageIce .camera 0 (CString.ofString ""), .serverRecv], rfl⟩, ?_⟩
  intro h
  exact (h.right (.onServer .camera (some (.recvbin 1 0)) false) (by decide)).1

/-! ## As long as nobody talks -/

/-- What the page of a user who only watches sends: its answers parse. -/
def SentWatching (env : Env) (m : ToServer) : Prop :=
  m = .talkStop ∨ (∃ sdp, m = .answer sdp ∧ env.sdpParses sdp = true) ∨
    ∃ i candidate, m = .ice .camera i candidate

/-- Nothing on either side belongs to a talk. -/
structure Silent (env : Env) (s : Signalling) : Prop where
  localpc : s.page.localpc = none
  nextTalk : s.page.nextTalk = 0
  media : s.page.media = 0
  offers : s.page.offers = []
  recvpipe : s.item.recv.recvpipe = none
  recvbin : s.item.recv.recvbin = none
  acquired : ∀ n, .acquire n ∉ s.globals.recvLog 0
  created : s.created = []
  toServer : ∀ m ∈ s.toServer, SentWatching env m
  toPage : ∀ m ∈ s.toPage, m = .offer ∨ m = .ice .sendbin

theorem silent_init (env : Env) : Silent env (init env) := by
  unfold init Backend.startWebrtcbin
  cases env.backend <;> exact ⟨rfl, rfl, rfl, rfl, rfl, rfl, nofun, rfl, nofun, nofun⟩

theorem Silent.send (h : Silent env s) {m : ToServer} (hm : SentWatching env m) :
    Silent env { s with toServer := s.toServer ++ [m] } := by
  refine { h with toServer := fun m' hm' ↦ ?_ }
  rcases List.mem_append.mp hm' with hm' | hm'
  · exact h.toServer m' hm'
  · exact List.mem_singleton.mp hm' ▸ hm

theorem Silent.tell (h : Silent env s) {m : ToPage} (hm : m = .offer ∨ m = .ice .sendbin) :
    Silent env { s with toPage := s.toPage ++ [m] } := by
  refine { h with toPage := fun m' hm' ↦ ?_ }
  rcases List.mem_append.mp hm' with hm' | hm'
  · exact h.toPage m' hm'
  · exact List.mem_singleton.mp hm' ▸ hm

theorem Silent.serverRecv (hl : Linked env s) (h : Silent env s) :
    Silent env (s.serverRecv env) := by
  cases hq : s.toServer with
  | nil =>
    rw [Signalling.serverRecv, hq]
    exact h
  | cons m rest =>
    have hm := h.toServer m (hq ▸ List.mem_cons_self)
    have hoffer : ∀ k sdp, m = .offer k sdp → Acceptable env (some sdp) := by
      rintro k sdp rfl
      simp [SentWatching] at hm
    rw [serverRecv_cons hl hq hoffer]
    have hrest : ∀ m' ∈ rest, m' ∈ s.toServer := fun m' hm' ↦ hq ▸ List.mem_cons_of_mem m hm'
    rcases hm with rfl | ⟨sdp, rfl, -⟩ | ⟨i, candidate, rfl⟩
    · refine { h with
        recvpipe := rfl
        acquired := ?_
        toServer := fun m' hm' ↦ h.toServer m' (hrest m' hm') }
      intro n
      show Op.acquire n ∉ (closeRecv s.globals 0 s.item.recv.recvpipe).recvLog 0
      rw [h.recvpipe, closeRecv_none]
      exact h.acquired n
    · exact { h with toServer := fun m' hm' ↦ h.toServer m' (hrest m' hm') }
    · exact { h with toServer := fun m' hm' ↦ h.toServer m' (hrest m' hm') }

theorem Silent.onServerMessage (h : Silent env s) : Silent env s.onServerMessage := by
  rw [Signalling.onServerMessage]
  cases hq : s.toPage with
  | nil => exact h
  | cons m rest =>
    have hrest : ∀ m' ∈ rest, m' = .offer ∨ m' = .ice .sendbin := fun m' hm' ↦
      h.toPage m' (hq ▸ List.mem_cons_of_mem m hm')
    rcases h.toPage m (hq ▸ List.mem_cons_self) with rfl | rfl
    · exact { h with toPage := hrest }
    · simp only [onIncomingIce]
      split_ifs
      · exact { h with toPage := hrest }
      · exact { h with toPage := hrest }

/-- An event of a page that only watches. -/
def Watches (env : Env) : Event → Prop
  | .selectVideoSize stop => stop = true
  | .localDescription sdp => env.sdpParses sdp = true
  | _ => True

theorem Silent.act (hl : Linked env s) (h : Silent env s) {e : Event} (he : Watches env e) :
    Silent env (s.act env e) := by
  have hstop : Silent env s.stopLocalMedia := { h.send (.inl rfl) with }
  cases e with
  | serverOffer => exact h.tell (.inl rfl)
  | serverIce e =>
    rw [Signalling.act, onIceCandidateCb]
    split_ifs with hg
    · cases e with
      | sendbin => exact h.tell (.inr rfl)
      | recvbin n k =>
        refine absurd hg.1 ?_
        rw [hl.wired.connection]
        exact h.acquired n
    · exact h
  | serverRecv => exact h.serverRecv hl
  | answerCreated n =>
    rw [Signalling.act, onAnswerCreated, h.created, if_neg List.not_mem_nil]
    exact h
  | selectVideoSize stop =>
    obtain rfl : stop = true := he
    exact hstop
  | disconnected => exact hstop
  | createSender =>
    rw [Signalling.act, Signalling.createSender, if_pos h.media]
    exact h
  | offerCreated k sdp =>
    rw [Signalling.act, Signalling.offerCreated, h.offers, if_neg List.not_mem_nil]
    exact h
  | localDescription sdp =>
    rw [Signalling.act, onLocalDescription]
    split_ifs
    · exact h
    · exact { h.send (.inr (.inl ⟨sdp, rfl, he⟩)) with }
  | pageIce p mlineIndex candidate =>
    rw [Signalling.act]
    cases p with
    | camera => exact h.send (.inr (.inr ⟨mlineIndex, candidate, rfl⟩))
    | talk k =>
      rw [onIceCandidate, h.nextTalk]
      exact h
  | pageRecv => exact h.onServerMessage
  | track => exact { h with }

theorem Silent.step (hl : Linked env s) (h : Silent env s) {e : Event} (he : Watches env e) :
    Silent env (s.step env e) := by
  rw [Signalling.step]
  split_ifs
  · exact h
  · exact h.act hl he

theorem Silent.orderly (h : Silent env s) (e : Event) : s.Orderly env e := by
  cases e with
  | serverRecv =>
    intro m hm
    rcases h.toServer m (List.mem_of_mem_head? hm) with
      rfl | ⟨sdp, rfl, hsdp⟩ | ⟨i, candidate, rfl⟩
    · trivial
    · exact hsdp
    · exact h.recvbin
  | pageRecv =>
    intro m hm
    rcases h.toPage m (List.mem_of_mem_head? hm) with rfl | rfl
    · trivial
    · exact fun _ ↦ h.localpc
  | answerCreated n =>
    intro hn
    rw [h.created] at hn
    exact absurd hn List.not_mem_nil
  | offerCreated k sdp =>
    intro hk
    rw [h.offers] at hk
    exact absurd hk List.not_mem_nil
  | _ => trivial

/-- **The camera session alone.** As long as the page begins no talk and its answers parse,
everything goes where it should. -/
theorem always_routed_of_silent (env : Env) {es : List Event} (hes : ∀ e ∈ es, Watches env e) :
    Run.Always (step env) Routed (init env) es := by
  have hmeets : Run.Meets (step env) (Orderly env) (init env) es := by
    refine Run.meets_of_forall (I := fun s ↦ Linked env s ∧ Silent env s)
      ⟨linked_init _, silent_init _⟩ ?_ ?_ hes
    · rintro s e ⟨hl, h⟩ he
      exact ⟨hl.step e, h.step hl he⟩
    · rintro s e ⟨-, h⟩ -
      exact h.orderly e
  have hrouted := hmeets.always ⟨linked_init _, routed_init _⟩ fun s e hs hC ↦ routed_step hs hC
  exact hrouted.mono fun s hs ↦ hs.2

end Signalling

end GstWebrtcCamera

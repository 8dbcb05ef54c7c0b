import GstWebrtcCamera.Core.Table
import GstWebrtcCamera.Server.Wired

/-!
# What one event does

`Stepped` lists, for a state whose items are wired, every way an event can change it. It is proved
once, by unfolding the machine (`Server.Wired.stepped`); each invariant of the machine is then a
case analysis on it.
-/

namespace GstWebrtcCamera

/-- Every item in the table is wired, and numbers of connections are not used twice. -/
structure Server.Wired (env : Env) (s : Server) : Prop where
  items : ∀ c it, s.table.lookup c = some it → GstWebrtcCamera.Wired env c it
  fresh : ∀ c ∈ s.table, c < s.nextConn

/-- The event can happen: the process is alive, the connection open, the callback registered. -/
def Server.Enabled (s : Server) (e : Event) : Prop :=
  s.aborted = none ∧
    match e with
    | .http _ _ | .connect _ _ | .delivered _ | .inotify => True
    | .message c _ _ | .dcString c _ _ | .dcData c _ | .negotiationNeeded c | .close c =>
      c ∈ s.table
    | .fire cb _ => cb ∈ s.globals.pending
    | .motionLaunch r => r ∈ s.globals.spawned
    | .motionAppend r => r ∈ s.globals.toAppend
    | .motionTimer r => r ∈ s.globals.armed

/-- The state after a handler has run on the item of `c`. -/
def Server.withItem (s : Server) (c : ℕ) (g : Globals) (it : WebrtcItem) : Server :=
  { s with globals := g, table := s.table.insert c it }

/-- The state after a handler has changed the globals only. -/
def Server.withGlobals (s : Server) (g : Globals) : Server := { s with globals := g }

/-- Every way an event can change a wired state. -/
inductive Stepped (env : Env) (s : Server) : Event → Server → Prop
  | stuck {e : Event} (he : ¬ s.Enabled e) : Stepped env s e s
  | http (msg : Request) (path : List Char) : Stepped env s (.http msg path) s
  | opened {hashId : UInt64} {launched : Bool} {it : WebrtcItem} (hlive : s.aborted = none)
      (hit : Fresh env s.nextConn it) :
      Stepped env s (.connect hashId launched) {
        s with
        globals := openedGlobals env s.globals s.nextConn launched
        table := s.table.insert s.nextConn it
        nextConn := s.nextConn + 1 }
  | performed {c : ℕ} {msg : WsMessage} {launched : Bool} {it : WebrtcItem}
      {r : Globals × WebrtcItem} (hlive : s.aborted = none) (hit : s.table.lookup c = some it)
      (hr : Performed env s.globals it launched (commandOf msg) r)
      (hcmd : ¬ Aborting env (commandOf msg)) :
      Stepped env s (.message c msg launched) (s.withItem c r.1 r.2)
  | aborted {c : ℕ} {msg : WsMessage} {launched : Bool} {it : WebrtcItem} {a : Abort}
      (hlive : s.aborted = none) (hit : s.table.lookup c = some it)
      (hcmd : Aborting env (commandOf msg)) :
      Stepped env s (.message c msg launched) (s.abort a)
  | untyped {c : ℕ} {root : Option Json} {fd : ℤ} {it : WebrtcItem} (hlive : s.aborted = none)
      (hit : s.table.lookup c = some it) (hcmd : dcCommandOf root = .untyped) :
      Stepped env s (.dcString c root fd) (s.abort .gError)
  | headed {c : ℕ} {root : Option Json} {fd size : ℤ} {name : Option CString} {it : WebrtcItem}
      (hlive : s.aborted = none) (hit : s.table.lookup c = some it)
      (hcmd : dcCommandOf root = .sendfile name size) :
      Stepped env s (.dcString c root fd)
        (s.withItem c s.globals { it with dcfile := (sendfile it.dcfile name size fd).1 })
  | controlled {c : ℕ} {root : Option Json} {fd : ℤ} {it : WebrtcItem} (hlive : s.aborted = none)
      (hit : s.table.lookup c = some it)
      (hcmd : dcCommandOf root ≠ .untyped ∧ ∀ name size, dcCommandOf root ≠ .sendfile name size)
      (log : List CtrlCall) :
      Stepped env s (.dcString c root fd) (s.withItem c { s.globals with ctrlLog := log } it)
  | received {c size : ℕ} {it : WebrtcItem} (hlive : s.aborted = none)
      (hit : s.table.lookup c = some it) {pos : ℤ} {jobs : List Callback}
      (hjobs : jobs = [] ∨ jobs = [.playVoice c it.dcfile.transfer]) :
      Stepped env s (.dcData c size)
        (s.withItem c { s.globals with pending := s.globals.pending ++ jobs }
          { it with dcfile := { it.dcfile with pos := pos } })
  | negotiated {c : ℕ} {it : WebrtcItem} (hlive : s.aborted = none)
      (hit : s.table.lookup c = some it) :
      Stepped env s (.negotiationNeeded c)
        (s.withItem c (s.globals.register (.offerCreated c)) it)
  | fired {cb : Callback} {again : Bool} (hlive : s.aborted = none)
      (hcb : cb ∈ s.globals.pending) :
      Stepped env s (.fire cb again) (s.fire cb again)
  | closed {c : ℕ} {it : WebrtcItem} (hlive : s.aborted = none)
      (hit : s.table.lookup c = some it) :
      Stepped env s (.close c)
        { s with globals := closedGlobals env s.globals it, table := s.table.erase c }
  | delivered {c : ℕ} (hlive : s.aborted = none) :
      Stepped env s (.delivered c) (s.withGlobals {
        s.globals with outbox := Function.update s.globals.outbox c (s.globals.outbox c).tail })
  | watched (hlive : s.aborted = none) (hb : env.backend = .appsrc) :
      Stepped env s .inotify (s.withGlobals (inotifyEvent s.globals))
  | unwatched (hlive : s.aborted = none) (hb : env.backend = .udpsrc) : Stepped env s .inotify s
  | motionLaunched {r : ℕ} (hlive : s.aborted = none) (hr : r ∈ s.globals.spawned) :
      Stepped env s (.motionLaunch r) (s.withGlobals (startAppsrcRecord s.globals r))
  | motionAppended {r : ℕ} (hlive : s.aborted = none) (hr : r ∈ s.globals.toAppend) :
      Stepped env s (.motionAppend r) (s.withGlobals (appendAppsrcRecord s.globals r))
  | motionStopped {r : ℕ} (hlive : s.aborted = none) (hr : r ∈ s.globals.armed) :
      Stepped env s (.motionTimer r) (s.withGlobals (stopAppsrcRec s.globals r))

variable {env : Env} {s : Server}

namespace Server

theorem step_of_live (hlive : s.aborted = none) (e : Event) : s.step env e = s.act env e := by
  rw [step, hlive]
  rfl

theorem onItem_of_none {c : ℕ} (hit : s.table.lookup c = none)
    (f : Globals → WebrtcItem → Except Abort (Globals × WebrtcItem)) : s.onItem c f = s := by
  rw [onItem, hit]

theorem onItem_of_ok {c : ℕ} {it : WebrtcItem} (hit : s.table.lookup c = some it)
    {f : Globals → WebrtcItem → Except Abort (Globals × WebrtcItem)} {r : Globals × WebrtcItem}
    (hr : f s.globals it = .ok r) : s.onItem c f = s.withItem c r.1 r.2 := by
  simp only [onItem, hit, hr]
  rfl

theorem onItem_of_error {c : ℕ} {it : WebrtcItem} (hit : s.table.lookup c = some it)
    {f : Globals → WebrtcItem → Except Abort (Globals × WebrtcItem)} {a : Abort}
    (hr : f s.globals it = .error a) : s.onItem c f = s.abort a := by
  simp only [onItem, hit, hr]

theorem not_enabled_of_lookup {c : ℕ} (hit : s.table.lookup c = none) {e : Event}
    (he : s.Enabled e → c ∈ s.table) : ¬ s.Enabled e :=
  fun h ↦ AList.lookup_eq_none.mp hit (he h)

end Server

/-! ## Every step is one of these -/

open Server

private theorem stepped_message (hs : s.Wired env) (hlive : s.aborted = none) (c : ℕ)
    (msg : WsMessage) (launched : Bool) :
    Stepped env s (.message c msg launched) (s.act env (.message c msg launched)) := by
  cases hit : s.table.lookup c with
  | none =>
    rw [act, onItem_of_none hit]
    exact .stuck (not_enabled_of_lookup hit And.right)
  | some it =>
    rcases perform_cases (g := s.globals) (hs.items c it hit) launched (commandOf msg) with
      ⟨r, hok, hr, hcmd⟩ | ⟨a, herr, hcmd⟩
    · rw [act, onItem_of_ok hit hok]
      exact .performed hlive hit hr hcmd
    · rw [act, onItem_of_error hit herr]
      exact .aborted hlive hit hcmd

private theorem stepped_dcString (hlive : s.aborted = none) (c : ℕ) (root : Option Json) (fd : ℤ) :
    Stepped env s (.dcString c root fd) (s.act env (.dcString c root fd)) := by
  cases hit : s.table.lookup c with
  | none =>
    rw [act, onItem_of_none hit]
    exact .stuck (not_enabled_of_lookup hit And.right)
  | some it =>
    rw [act]
    cases hcmd : dcCommandOf root with
    | untyped =>
      rw [onItem_of_error hit (by rw [dataChannelOnMessageString, hcmd]; rfl)]
      exact .untyped hlive hit hcmd
    | sendfile name size =>
      rw [onItem_of_ok hit (by rw [dataChannelOnMessageString, hcmd]; rfl)]
      exact .headed hlive hit hcmd
    | unknown =>
      rw [onItem_of_ok hit (by rw [dataChannelOnMessageString, hcmd]; rfl)]
      exact .controlled hlive hit (by simp [hcmd]) s.globals.ctrlLog
    | ignored =>
      rw [onItem_of_ok hit (by rw [dataChannelOnMessageString, hcmd]; rfl)]
      exact .controlled hlive hit (by simp [hcmd]) s.globals.ctrlLog
    | resetUserCtrls =>
      rw [onItem_of_ok hit (by rw [dataChannelOnMessageString, hcmd]; rfl)]
      exact .controlled hlive hit (by simp [hcmd]) _
    | setCtrlValue id value =>
      rw [onItem_of_ok hit (by rw [dataChannelOnMessageString, hcmd]; rfl)]
      exact .controlled hlive hit (by simp [hcmd]) _

theorem dataChannelOnMessageData_eq (g : Globals) (it : WebrtcItem) (size : ℕ) :
    ∃ pos jobs ops, (jobs = [] ∨ jobs = [.playVoice it.connection it.dcfile.transfer]) ∧
      dataChannelOnMessageData g it size
        = ({ g with pending := g.pending ++ jobs },
          { it with dcfile := { it.dcfile with pos := pos } }, ops) := by
  unfold dataChannelOnMessageData
  by_cases hopen : 0 < it.dcfile.fd ∧ it.dcfile.pos ≠ it.dcfile.fsize
  · by_cases hfull : it.dcfile.pos + size = it.dcfile.fsize
    · refine ⟨it.dcfile.pos + size, [.playVoice it.connection it.dcfile.transfer],
        [.write it.dcfile.fd size, .close it.dcfile.fd], .inr rfl, ?_⟩
      simp only [if_pos hopen, if_pos hfull]
      rfl
    · refine ⟨it.dcfile.pos + size, [], [.write it.dcfile.fd size], .inl rfl, ?_⟩
      simp only [if_pos hopen, if_neg hfull, List.append_nil]
  · refine ⟨it.dcfile.pos, [], [], .inl rfl, ?_⟩
    simp only [if_neg hopen, List.append_nil]

private theorem stepped_dcData (hs : s.Wired env) (hlive : s.aborted = none) (c size : ℕ) :
    Stepped env s (.dcData c size) (s.act env (.dcData c size)) := by
  cases hit : s.table.lookup c with
  | none =>
    rw [act, onItem_of_none hit]
    exact .stuck (not_enabled_of_lookup hit And.right)
  | some it =>
    obtain ⟨pos, jobs, ops, hjobs, heq⟩ := dataChannelOnMessageData_eq s.globals it size
    rw [(hs.items c it hit).connection] at hjobs
    rw [act, onItem_of_ok hit (by rw [heq])]
    exact .received hlive hit hjobs

private theorem stepped_close (hs : s.Wired env) (hlive : s.aborted = none) (c : ℕ) :
    Stepped env s (.close c) (s.act env (.close c)) := by
  rw [act, soupWebsocketClosedCb]
  cases hit : s.table.lookup c with
  | none => exact .stuck (not_enabled_of_lookup hit And.right)
  | some it =>
    simp only [destroyWebrtcTable_eq (hs.items c it hit)]
    exact .closed hlive hit

private theorem stepped_fire (hlive : s.aborted = none) (cb : Callback) (again : Bool) :
    Stepped env s (.fire cb again) (s.act env (.fire cb again)) := by
  by_cases hcb : cb ∈ s.globals.pending
  · exact .fired hlive hcb
  · rw [act, Server.fire, if_neg hcb]
    exact .stuck fun h ↦ hcb h.2

private theorem stepped_motion (hlive : s.aborted = none) (r : ℕ) :
    Stepped env s (.motionLaunch r) (s.act env (.motionLaunch r)) ∧
    Stepped env s (.motionAppend r) (s.act env (.motionAppend r)) ∧
    Stepped env s (.motionTimer r) (s.act env (.motionTimer r)) := by
  refine ⟨?_, ?_, ?_⟩
  · by_cases hr : r ∈ s.globals.spawned
    · exact .motionLaunched hlive hr
    · rw [act, startAppsrcRecord, if_neg hr]
      exact .stuck fun h ↦ hr h.2
  · by_cases hr : r ∈ s.globals.toAppend
    · exact .motionAppended hlive hr
    · rw [act, appendAppsrcRecord, if_neg hr]
      exact .stuck fun h ↦ hr h.2
  · by_cases hr : r ∈ s.globals.armed
    · exact .motionStopped hlive hr
    · rw [act, stopAppsrcRec, if_neg hr]
      exact .stuck fun h ↦ hr h.2

/-- **The step relation is complete.** -/
theorem Server.Wired.stepped (hs : s.Wired env) (e : Event) : Stepped env s e (s.step env e) := by
  by_cases hlive : s.aborted = none
  · rw [step_of_live hlive]
    cases e with
    | http msg path => exact .http msg path
    | connect hashId launched =>
      obtain ⟨it, hit, heq⟩ := soupWebsocketHandler_eq env s hashId launched
      rw [act, heq]
      exact .opened hlive hit
    | message c msg launched => exact stepped_message hs hlive c msg launched
    | dcString c root fd => exact stepped_dcString hlive c root fd
    | dcData c size => exact stepped_dcData hs hlive c size
    | negotiationNeeded c =>
      cases hit : s.table.lookup c with
      | none =>
        rw [act, onItem_of_none hit]
        exact .stuck (not_enabled_of_lookup hit And.right)
      | some it =>
        rw [act, onItem_of_ok hit rfl]
        exact .negotiated hlive hit
    | fire cb again => exact stepped_fire hlive cb again
    | close c => exact stepped_close hs hlive c
    | delivered c => exact .delivered hlive
    | inotify =>
      cases hb : env.backend with
      | appsrc => rw [act, hb]; exact .watched hlive hb
      | udpsrc => rw [act, hb]; exact .unwatched hlive hb
    | motionLaunch r => exact (stepped_motion hlive r).1
    | motionAppend r => exact (stepped_motion hlive r).2.1
    | motionTimer r => exact (stepped_motion hlive r).2.2
  · have hdead : s.aborted.isSome = true := Option.isSome_iff_ne_none.mpr hlive
    rw [step, if_pos hdead]
    exact .stuck fun h ↦ hlive h.1

/-! ## Items stay wired -/

theorem Server.Wired.withItem (hs : s.Wired env) {c : ℕ} {it it' : WebrtcItem} {g : Globals}
    (hit : s.table.lookup c = some it) (hit' : GstWebrtcCamera.Wired env c it') :
    (s.withItem c g it').Wired env where
  items := AList.forall_lookup_insert hs.items hit'
  fresh i hi := by
    rw [Server.withItem, AList.mem_insert] at hi
    rcases hi with rfl | hi
    · exact hs.fresh i (AList.lookup_isSome.mp (by rw [hit]; rfl))
    · exact hs.fresh i hi

theorem Server.wired_init (env : Env) : init.Wired env where
  items c it h := absurd h (by rw [init, AList.lookup_empty]; exact nofun)
  fresh c h := absurd h (AList.notMem_empty c)

theorem Server.Wired.withGlobals (hs : s.Wired env) (g : Globals) :
    (s.withGlobals g).Wired env := ⟨hs.items, hs.fresh⟩

theorem Server.Wired.step (hs : s.Wired env) (e : Event) : (s.step env e).Wired env := by
  have hstep := hs.stepped e
  obtain ⟨s', hs'⟩ : ∃ s', s' = s.step env e := ⟨_, rfl⟩
  rw [← hs'] at hstep ⊢
  cases hstep with
  | stuck he => exact hs
  | http msg path => exact hs
  | opened hlive hit =>
    constructor
    · exact AList.forall_lookup_insert hs.items hit.toWired
    · intro i hi
      rcases (AList.mem_insert _).mp hi with rfl | hi
      · exact Nat.lt_succ_self _
      · exact Nat.lt_succ_of_lt (hs.fresh i hi)
  | performed hlive hit hr hcmd => exact hs.withItem hit (hr.wired (hs.items _ _ hit))
  | aborted hlive hit hcmd => exact ⟨hs.items, hs.fresh⟩
  | untyped hlive hit hcmd => exact ⟨hs.items, hs.fresh⟩
  | headed hlive hit hcmd =>
    have h := hs.items _ _ hit
    exact hs.withItem hit ⟨h.connection, h.getRecState, h.start, h.stop, h.stopWebrtc, h.addremote,
      h.stopRecv⟩
  | controlled hlive hit hcmd log => exact hs.withItem hit (hs.items _ _ hit)
  | received hlive hit hjobs =>
    have h := hs.items _ _ hit
    exact hs.withItem hit ⟨h.connection, h.getRecState, h.start, h.stop, h.stopWebrtc, h.addremote,
      h.stopRecv⟩
  | negotiated hlive hit => exact hs.withItem hit (hs.items _ _ hit)
  | fired hlive hcb =>
    rw [Server.fire, if_pos hcb]
    exact ⟨hs.items, hs.fresh⟩
  | @closed c it hlive hit =>
    constructor
    · exact AList.forall_lookup_erase hs.items
    · intro i hi
      exact hs.fresh i (AList.mem_erase.mp hi).2
  | delivered hlive => exact hs.withGlobals _
  | watched hlive hb => exact hs.withGlobals _
  | unwatched hlive hb => exact hs
  | motionLaunched hlive hr => exact hs.withGlobals _
  | motionAppended hlive hr => exact hs.withGlobals _
  | motionStopped hlive hr => exact hs.withGlobals _

theorem Server.Wired.nextConn_le (hs : s.Wired env) (e : Event) :
    s.nextConn ≤ (s.step env e).nextConn := by
  have hstep := hs.stepped e
  obtain ⟨s', hs'⟩ : ∃ s', s' = s.step env e := ⟨_, rfl⟩
  rw [← hs'] at hstep ⊢
  cases hstep with
  | opened hlive hit => exact Nat.le_succ _
  | fired hlive hcb =>
    rw [Server.fire, if_pos hcb]
  | _ => exact le_rfl

theorem Server.nextConn_connect (hlive : s.aborted = none) (hashId : UInt64) (launched : Bool) :
    (s.step env (.connect hashId launched)).nextConn = s.nextConn + 1 := by
  obtain ⟨it, -, heq⟩ := soupWebsocketHandler_eq env s hashId launched
  rw [step_of_live hlive, act, heq]

theorem Server.wired_of_reachable (h : s ∈ Run.reachable (Server.step env) init) : s.Wired env :=
  Run.mem_reachable_induction (wired_init env) (fun _ e hs ↦ hs.step e) h

end GstWebrtcCamera

import GstWebrtcCamera.Server.Step

/-!
# Receive pipelines

`recvpipe`, `recvbin` and `stop_recv` are set together and cleared piecemeal: a stop clears the
first and the last, and `recvbin` goes on pointing at what was released. The slot for the pipeline
is `recvpipe`, so in the words of the lifecycle library an offer acquires into it, whether it is
full or not, and a stop or the close releases what it holds.

Everything here is about one connection `c`; other connections do not touch its log or its item.
-/

namespace GstWebrtcCamera

open Lifecycle

namespace Server

variable {env : Env} {s : Server} {c : ℕ}

/-- The receive handles of a connection, all `NULL` if it is not open. -/
def recvOf (s : Server) (c : ℕ) : RecvItem :=
  match s.table.lookup c with
  | none => {}
  | some it => it.recv

/-- The log of a connection once it is closed. -/
def closedLog (s : Server) (c : ℕ) : List (Op ℕ) :=
  match s.table.lookup c with
  | none => s.globals.recvLog c
  | some it =>
    match destroyWebrtcTable s.globals it with
    | .ok g => g.recvLog c
    | .error _ => s.globals.recvLog c

/-- The handles are all `NULL`, or all refer to one live pipeline. -/
def Agree (log : List (Op ℕ)) (recv : RecvItem) : Prop :=
  (recv.recvpipe = none ∧ recv.recvbin = none ∧ recv.stopRecv = none) ∨
    ∃ n, recv.recvpipe = some n ∧ recv.recvbin = some n ∧ recv.stopRecv = some .stopRecvWebrtc ∧
      .acquire n ∈ log ∧ releases log n = 0

/-- The handles agree, and every pipeline made so far is released exactly once by the close. -/
def ReceivesWell (c : ℕ) (s : Server) : Prop :=
  Agree (s.globals.recvLog c) (s.recvOf c) ∧ Settled (s.closedLog c)

/-- No offer that gets through, and no `talk` stop, finds a pipeline running. -/
def ReceivesOnce (env : Env) (c : ℕ) (s : Server) : Event → Prop
  | .message i msg _ =>
    i = c → s.aborted = none → c ∈ s.table →
      match commandOf msg with
      | .sdpOffer sdp => Acceptable env sdp → (s.recvOf c).recvpipe = none
      | .talkStop => (s.recvOf c).stopRecv = none
      | _ => True
  | _ => True

/-- The invariant. -/
structure Receives (s : Server) (c : ℕ) : Prop where
  held : Holding (s.globals.recvLog c) (s.recvOf c).recvpipe
  agree : (s.recvOf c).recvbin = (s.recvOf c).recvpipe
  fresh : ∀ k, .acquire k ∈ s.globals.recvLog c → k < s.globals.nextPipe

/-! ## Reading the state -/

theorem recvOf_of_lookup {it : WebrtcItem} (hit : s.table.lookup c = some it) :
    s.recvOf c = it.recv := by
  rw [recvOf, hit]

theorem Wired.stopRecv_recvOf (hs : s.Wired env) (c : ℕ) :
    (s.recvOf c).stopRecv = (s.recvOf c).recvpipe.map fun _ ↦ .stopRecvWebrtc := by
  cases hit : s.table.lookup c with
  | none => rw [recvOf, hit]; rfl
  | some it =>
    rw [recvOf_of_lookup hit]
    exact (hs.items c it hit).stopRecv

theorem Wired.closedLog_eq (hs : s.Wired env) (c : ℕ) :
    s.closedLog c = closeLog (s.globals.recvLog c) (s.recvOf c).recvpipe := by
  cases hit : s.table.lookup c with
  | none => rw [closedLog, recvOf, hit]; rfl
  | some it =>
    have h := hs.items c it hit
    simp only [closedLog, recvOf_of_lookup hit, hit, destroyWebrtcTable_eq h, closedGlobals,
      closeRecv, h.connection, Function.update_self]

theorem Receives.receivesWell (hs : s.Wired env) (h : Receives s c) : ReceivesWell c s := by
  refine ⟨?_, ?_⟩
  · have hstop := hs.stopRecv_recvOf c
    cases hpipe : (s.recvOf c).recvpipe with
    | none =>
      rw [hpipe] at hstop
      exact .inl ⟨hpipe, h.agree.trans hpipe, hstop⟩
    | some n =>
      rw [hpipe] at hstop
      have hmem : Op.acquire n ∈ s.globals.recvLog c := h.held.acquired n hpipe
      have hzero := h.held.releases_eq n hmem
      rw [if_pos hpipe] at hzero
      exact .inr ⟨n, hpipe, h.agree.trans hpipe, hstop, hmem, hzero⟩
  · rw [hs.closedLog_eq]
    exact h.held.settled_closeLog

/-! ## What one event does to a connection -/

theorem Receives.of_eq (h : Receives s c) {s' : Server}
    (hlog : s'.globals.recvLog c = s.globals.recvLog c)
    (hnext : s.globals.nextPipe ≤ s'.globals.nextPipe)
    (hpipe : (s'.recvOf c).recvpipe = (s.recvOf c).recvpipe)
    (hbin : (s'.recvOf c).recvbin = (s.recvOf c).recvbin) : Receives s' c where
  held := by rw [hlog, hpipe]; exact h.held
  agree := by rw [hpipe, hbin]; exact h.agree
  fresh k hk := by
    rw [hlog] at hk
    exact (h.fresh k hk).trans_le hnext

theorem recvOf_withItem (s : Server) (i c : ℕ) (g : Globals) (it : WebrtcItem) :
    (s.withItem i g it).recvOf c = if c = i then it.recv else s.recvOf c := by
  by_cases hc : c = i
  · subst hc
    rw [if_pos rfl]
    exact recvOf_of_lookup (AList.lookup_insert _)
  · rw [if_neg hc, recvOf, withItem, AList.lookup_insert_ne hc, recvOf]

theorem Receives.withItem (h : Receives s c) {i : ℕ} {it it' : WebrtcItem} {g : Globals}
    (hit : s.table.lookup i = some it) (hrecv : it'.recv = it.recv)
    (hlog : g.recvLog c = s.globals.recvLog c) (hnext : s.globals.nextPipe ≤ g.nextPipe) :
    Receives (s.withItem i g it') c := by
  have heq : (s.withItem i g it').recvOf c = s.recvOf c := by
    rw [recvOf_withItem]
    split_ifs with hc
    · rw [hrecv, hc, recvOf_of_lookup hit]
    · rfl
  exact h.of_eq hlog hnext (by rw [heq]) (by rw [heq])

theorem Receives.withItem_of_ne (h : Receives s c) {i : ℕ} (hi : c ≠ i) {it : WebrtcItem}
    {g : Globals} (hlog : g.recvLog c = s.globals.recvLog c)
    (hnext : s.globals.nextPipe ≤ g.nextPipe) : Receives (s.withItem i g it) c := by
  have heq : (s.withItem i g it).recvOf c = s.recvOf c := by rw [recvOf_withItem, if_neg hi]
  exact h.of_eq hlog hnext (by rw [heq]) (by rw [heq])

theorem Receives.offer (h : Receives s c) {it : WebrtcItem} (hconn : it.connection = c)
    (hpipe : (s.recvOf c).recvpipe = none) :
    Receives (s.withItem c (startReceiving s.globals it).1 (startReceiving s.globals it).2) c := by
  obtain ⟨r, hr⟩ : ∃ r, r = startReceiving s.globals it := ⟨_, rfl⟩
  have hlog : r.1.recvLog c = s.globals.recvLog c ++ [.acquire s.globals.nextPipe] := by
    rw [hr, startReceiving_recvLog _ hconn]
  have hrecv : (s.withItem c r.1 r.2).recvOf c = r.2.recv := by rw [recvOf_withItem, if_pos rfl]
  have hslot : r.2.recv.recvpipe = some s.globals.nextPipe := by rw [hr]; rfl
  have hbin : r.2.recv.recvbin = some s.globals.nextPipe := by rw [hr]; rfl
  have hnext : r.1.nextPipe = s.globals.nextPipe + 1 := by rw [hr]; rfl
  have hnew : Op.acquire s.globals.nextPipe ∉ s.globals.recvLog c := fun hmem ↦
    lt_irrefl _ (h.fresh _ hmem)
  rw [← hr]
  constructor
  · rw [hrecv, hslot, Server.withItem, hlog]
    have hheld := h.held
    rw [hpipe] at hheld
    exact hheld.acquire hnew
  · rw [hrecv, hslot, hbin]
  · intro k hk
    rw [Server.withItem, hlog] at hk
    rw [Server.withItem, hnext]
    rcases List.mem_append.mp hk with hk | hk
    · exact (h.fresh k hk).trans (Nat.lt_succ_self _)
    · obtain rfl : k = s.globals.nextPipe := by simpa using hk
      exact Nat.lt_succ_self _

theorem Receives.performed (hs : s.Wired env) (h : Receives s c) {i : ℕ} {it : WebrtcItem}
    {msg : WsMessage} {launched : Bool} {r : Globals × WebrtcItem} (hlive : s.aborted = none)
    (hit : s.table.lookup i = some it)
    (hr : Performed env s.globals it launched (commandOf msg) r)
    (hC : ReceivesOnce env c s (.message i msg launched)) :
    Receives (s.withItem i r.1 r.2) c := by
  have hi : i ∈ s.table := AList.lookup_isSome.mp (by rw [hit]; rfl)
  have hconn := (hs.items i it hit).connection
  rw [ReceivesOnce] at hC
  generalize hcmd : commandOf msg = cmd at hr hC
  cases hr with
  | started hrec =>
    obtain ⟨pair, heq⟩ := startRecording_eq env s.globals it launched
    rw [heq]
    refine h.withItem hit rfl rfl ?_
    show s.globals.nextPipe ≤ if launched then s.globals.nextPipe + 1 else s.globals.nextPipe
    split_ifs
    · exact Nat.le_succ _
    · exact le_rfl
  | stopped =>
    rw [stopRecording_eq]
    exact h.withItem hit rfl rfl le_rfl
  | talkStopped =>
    rw [hconn]
    rcases eq_or_ne c i with rfl | hne
    · have hstop : it.recv.stopRecv = none := recvOf_of_lookup hit ▸ hC rfl hlive hi
      have hpipe : it.recv.recvpipe = none := by
        rw [(hs.items c it hit).stopRecv] at hstop
        exact Option.map_eq_none_iff.mp hstop
      rw [hpipe, closeRecv_none, (hs.items c it hit).stopped_of_none hpipe]
      exact h.withItem hit rfl rfl le_rfl
    · refine h.withItem_of_ne hne ?_ le_rfl
      exact Function.update_of_ne hne _ _
  | offered hsdp =>
    rcases eq_or_ne c i with rfl | hne
    · exact h.offer hconn (hC rfl hlive hi hsdp)
    · refine h.withItem_of_ne hne ?_ (Nat.le_succ _)
      rw [startReceiving, hconn]
      exact Function.update_of_ne hne _ _
  | _ => exact h.withItem hit rfl rfl le_rfl

theorem Receives.close (hs : s.Wired env) (h : Receives s c) {i : ℕ} {it : WebrtcItem}
    (hit : s.table.lookup i = some it) :
    Receives { s with globals := closedGlobals env s.globals it, table := s.table.erase i } c := by
  have hconn := (hs.items i it hit).connection
  rcases eq_or_ne c i with rfl | hne
  · have hrecv : ({ s with
        globals := closedGlobals env s.globals it
        table := s.table.erase c } : Server).recvOf c = {} := by
      rw [recvOf, AList.lookup_erase]
    have hlog : (closedGlobals env s.globals it).recvLog c
        = closeLog (s.globals.recvLog c) (s.recvOf c).recvpipe := by
      rw [closedGlobals, hconn, closeRecv_recvLog, recvOf_of_lookup hit]
    have hclosed : Holding (closeLog (s.globals.recvLog c) (s.recvOf c).recvpipe) none := by
      have hheld := h.held
      generalize (s.recvOf c).recvpipe = slot at hheld
      cases slot with
      | none => exact hheld
      | some n => exact hheld.release
    constructor
    · rw [hrecv, hlog]
      exact hclosed
    · rw [hrecv]
    · intro k hk
      rw [hlog] at hk
      refine h.fresh k ?_
      cases hpipe : (s.recvOf c).recvpipe with
      | none => rwa [hpipe] at hk
      | some n =>
        rw [hpipe] at hk
        simpa [closeLog] using hk
  · have hrecv : ({ s with
        globals := closedGlobals env s.globals it
        table := s.table.erase i } : Server).recvOf c = s.recvOf c := by
      rw [recvOf, AList.lookup_erase_ne hne, recvOf]
    refine h.of_eq ?_ le_rfl (by rw [hrecv]) (by rw [hrecv])
    rw [closedGlobals, hconn]
    exact Function.update_of_ne hne _ _

/-- **One step.** An event that meets the condition keeps the invariant. -/
theorem Receives.step (hs : s.Wired env) (h : Receives s c) {e : Event}
    (hC : ReceivesOnce env c s e) : Receives (s.step env e) c := by
  have hstep := hs.stepped e
  obtain ⟨s', hs'⟩ : ∃ s', s' = s.step env e := ⟨_, rfl⟩
  rw [← hs'] at hstep ⊢
  cases hstep with
  | @opened hashId launched it hlive hit =>
    have hnext : s.globals.nextPipe
        ≤ (openedGlobals env s.globals s.nextConn launched).nextPipe := by
      rw [openedGlobals]
      split_ifs
      · exact Nat.le_succ _
      · exact le_rfl
    rcases eq_or_ne c s.nextConn with rfl | hne
    · have hold : s.recvOf s.nextConn = {} := by
        rw [recvOf, AList.lookup_eq_none.mpr fun hmem ↦ lt_irrefl _ (hs.fresh _ hmem)]
      have hrecv := recvOf_of_lookup (s := { s with
        globals := openedGlobals env s.globals s.nextConn launched
        table := s.table.insert s.nextConn it
        nextConn := s.nextConn + 1 }) (AList.lookup_insert _)
      refine h.of_eq rfl hnext ?_ ?_
      · rw [hrecv, hold, hit.recvpipe]
      · rw [hrecv, hold, hit.recvbin]
    · have hrecv : ({ s with
          globals := openedGlobals env s.globals s.nextConn launched
          table := s.table.insert s.nextConn it
          nextConn := s.nextConn + 1 } : Server).recvOf c = s.recvOf c := by
        rw [recvOf, AList.lookup_insert_ne hne, recvOf]
      exact h.of_eq rfl hnext (by rw [hrecv]) (by rw [hrecv])
  | performed hlive hit hr hcmd => exact h.performed hs hlive hit hr hC
  | headed hlive hit hcmd => exact h.withItem hit rfl rfl le_rfl
  | controlled hlive hit hcmd log => exact h.withItem hit rfl rfl le_rfl
  | received hlive hit hjobs => exact h.withItem hit rfl rfl le_rfl
  | negotiated hlive hit => exact h.withItem hit rfl rfl le_rfl
  | fired hlive hcb =>
    rw [Server.fire, if_pos hcb]
    exact h.of_eq rfl le_rfl rfl rfl
  | closed hlive hit => exact h.close hs hit
  | watched hlive hb =>
    rw [withGlobals, inotifyEvent]
    split_ifs
    · exact h
    · exact h.of_eq rfl le_rfl rfl rfl
  | motionLaunched hlive hr =>
    rw [withGlobals, startAppsrcRecord, if_pos hr]
    exact h.of_eq rfl le_rfl rfl rfl
  | motionAppended hlive hr =>
    rw [withGlobals, appendAppsrcRecord, if_pos hr]
    exact h.of_eq rfl le_rfl rfl rfl
  | motionStopped hlive hr =>
    rw [withGlobals, stopAppsrcRec, if_pos hr]
    exact h.of_eq rfl le_rfl rfl rfl
  | _ => exact h.of_eq rfl le_rfl rfl rfl

/-! ## When the handles agree -/

/-- An offer into the full slot: the pipeline that was in it is not released any more. -/
theorem not_receivesWell_of_offer (hs : s.Wired env) (h : Receives s c) {it : WebrtcItem} {n : ℕ}
    (hit : s.table.lookup c = some it) (hpipe : it.recv.recvpipe = some n) {sdp : Option CString}
    (hsdp : Acceptable env sdp) :
    ¬ ReceivesWell c
      (s.withItem c (startReceiving s.globals it).1 (startReceiving s.globals it).2) := by
  rintro ⟨-, hset⟩
  have hwired := hs.items c it hit
  have hoffer : Performed env s.globals it true (.sdpOffer sdp) _ := .offered hsdp
  have hs' := hs.withItem (g := (startReceiving s.globals it).1) hit (hoffer.wired hwired)
  rw [hs'.closedLog_eq, recvOf_withItem, if_pos rfl, Server.withItem,
    startReceiving_recvLog _ hwired.connection] at hset
  have hheld := h.held
  rw [recvOf_of_lookup hit, hpipe] at hheld
  exact not_settled_of_overwrite hheld (fun hmem ↦ lt_irrefl _ (h.fresh _ hmem)) hset

/-- A stop of a running pipeline leaves `recvbin` behind. -/
theorem not_receivesWell_of_stop (h : Receives s c) {it : WebrtcItem} {n : ℕ} {g : Globals}
    (hit : s.table.lookup c = some it) (hpipe : it.recv.recvpipe = some n) :
    ¬ ReceivesWell c (s.withItem c g { it with recv := it.recv.stopped }) := by
  rintro ⟨hagree, -⟩
  have hbin : it.recv.recvbin = some n := by
    have hbin := h.agree
    rwa [recvOf_of_lookup hit, hpipe] at hbin
  rw [recvOf_withItem, if_pos rfl] at hagree
  rcases hagree with ⟨-, hnone, -⟩ | ⟨m, hsome, -⟩
  · exact absurd (hbin.symm.trans hnone) (Option.some_ne_none n)
  · exact absurd hsome (Option.some_ne_none m).symm

theorem Receives.receivesOnce (hs : s.Wired env) (h : Receives s c) {e : Event}
    (hP : ReceivesWell c (s.step env e)) : ReceivesOnce env c s e := by
  cases e with
  | message i msg launched =>
    rintro rfl hlive hi
    obtain ⟨it, hit⟩ := Option.isSome_iff_exists.mp (AList.lookup_isSome.mpr hi)
    have hwired := hs.items i it hit
    rw [step_of_live hlive, act] at hP
    generalize hcmd : commandOf msg = cmd
    rcases perform_cases (g := s.globals) hwired launched cmd with ⟨r, hok, hr, -⟩ | ⟨a, -, hcmd'⟩
    · rw [onItem_of_ok hit (by rw [soupWebsocketMessageCb, hcmd]; exact hok)] at hP
      cases hr with
      | offered hsdp =>
        intro _
        by_contra hfull
        obtain ⟨n, hpipe⟩ := Option.ne_none_iff_exists'.mp hfull
        rw [recvOf_of_lookup hit] at hpipe
        exact not_receivesWell_of_offer hs h hit hpipe hsdp hP
      | talkStopped =>
        show (s.recvOf i).stopRecv = none
        rw [hs.stopRecv_recvOf, Option.map_eq_none_iff]
        by_contra hfull
        obtain ⟨n, hpipe⟩ := Option.ne_none_iff_exists'.mp hfull
        rw [recvOf_of_lookup hit] at hpipe
        exact not_receivesWell_of_stop h hit hpipe hP
      | _ => trivial
    · cases cmd with
      | sdpOffer sdp => exact fun hsdp ↦ absurd hsdp hcmd'
      | sdpAnswer sdp => trivial
      | _ => exact hcmd'.elim
  | _ => trivial

theorem receives_init (c : ℕ) : Receives init c := ⟨holding_nil, rfl, fun k hk ↦ by cases hk⟩

/-- **Receive pipelines.** In a run the handles of a connection agree throughout, and every pipeline
is released exactly once by its close, exactly when no offer that gets through and no `talk` stop
of the connection finds a pipeline running. -/
theorem always_receivesWell_iff (env : Env) (c : ℕ) (es : List Event) :
    Run.Always (step env) (ReceivesWell c) init es
      ↔ Run.Meets (step env) (ReceivesOnce env c) init es := by
  refine Run.always_iff_meets (I := fun s ↦ s.Wired env ∧ Receives s c)
    ⟨wired_init env, receives_init c⟩ ?_ ?_ ?_
  · rintro s ⟨hs, h⟩
    exact h.receivesWell hs
  · rintro s e ⟨hs, h⟩ hC
    exact ⟨hs.step e, h.step hs hC⟩
  · rintro s e ⟨hs, h⟩ hP
    exact h.receivesOnce hs hP

/-- One offer and one stop: `recvbin` still points at the pipeline that was released. -/
theorem exists_not_receivesWell :
    ∃ s ∈ Run.reachable (step (Env.plain .udpsrc)) init, ¬ ReceivesWell 0 s := by
  refine ⟨_, ⟨[.connect 1 true, .message 0 (pageSdp "offer" "v=0") true,
    .message 0 (pageCommand "talk" "stop") true], rfl⟩, ?_⟩
  rintro ⟨⟨-, hbin, -⟩ | ⟨n, hpipe, -⟩, -⟩
  · revert hbin
    decide +kernel
  · exact Option.some_ne_none n (hpipe.symm.trans (by decide +kernel))

end Server

end GstWebrtcCamera

import GstWebrtcCamera.Core.Table
import GstWebrtcCamera.Receiver.Rtspsrc

/-!
# Whose pipelines are released

An entry is released by the close of its connection if the table has it, and it gets into the table
if both steps of opening reached the camera. If only the first did, the entry exists, its pipeline
plays and its message handler works, but the close does not find it. That is the only way to lose
one: an answer stops what it replaces, and a later failure to fetch leaves the entry registered.
-/

namespace GstWebrtcCamera

open Lifecycle

variable {sdpParses : CString → Bool}

/-! ## Who owns which pipelines -/

/-- Sending and fetching pipelines are those of the owners. -/
structure Relay.Holds (g : Relay) (sends fetches : ℕ → Option ℕ) : Prop where
  webrtc : Parties g.nextPipe g.webrtcLog sends
  fetch : Parties g.nextPipe g.fetchLog fetches

namespace Rtspsrc

variable {g : Relay} {sends fetches : ℕ → Option ℕ} {c : ℕ}

theorem holds_stopFetch (h : g.Holds sends fetches) (c : ℕ) :
    (g.stopFetch c (fetches c)).Holds sends (Function.update fetches c none) := by
  rw [Relay.stopFetch]
  cases hc : fetches c with
  | none =>
    have hlog : g.logFetch c [] = g := by
      rw [Relay.logFetch, List.append_nil, Function.update_eq_self]
    have hfetches : Function.update fetches c none = fetches := by
      rw [← hc, Function.update_eq_self]
    rw [hfetches]
    exact hlog.symm ▸ h
  | some p => exact ⟨h.webrtc, h.fetch.release hc⟩

theorem startToFetchRtspsrc_eq_ok {cam : Camera} {r : Relay × Option ℕ}
    (hr : startToFetchRtspsrc g c cam = .ok r) :
    cam.connects = false ∧ r = (g, none) ∨
      cam.connects = true ∧
        r = (g.parseLaunch.2.logFetch c [.acquire g.nextPipe], some g.nextPipe) := by
  obtain ⟨connects, logsIn, tellsUrl, plays, obeys⟩ := cam
  cases connects with
  | false => exact .inl ⟨rfl, (Except.ok.inj hr).symm⟩
  | true =>
    refine .inr ⟨rfl, ?_⟩
    cases logsIn <;> cases tellsUrl <;> cases plays <;>
      simp [startToFetchRtspsrc, loginCamera, getRtspUrl, bind, Except.bind, pure, Except.pure,
        throw, throwThe, MonadExceptOf.throw] at hr
    exact hr.symm

theorem createReceiverEntry_eq_ok {cam : Camera} {r : Relay × Option ReceiverEntry}
    (hr : createReceiverEntry g c cam = .ok r) :
    cam.connects = false ∧ r = (g, none) ∨
      (cam.connects = true ∧ cam.logsIn = true ∧ cam.tellsUrl = true) ∧
        r = (g.parseLaunch.2.logWebrtc c [.acquire g.nextPipe],
          some { connection := c, pipeline := g.nextPipe }) := by
  obtain ⟨connects, logsIn, tellsUrl, plays, obeys⟩ := cam
  cases connects with
  | false => exact .inl ⟨rfl, (Except.ok.inj hr).symm⟩
  | true =>
    cases logsIn <;> cases tellsUrl <;>
      simp [createReceiverEntry, loginCamera, getRtspUrl, bind, Except.bind, pure,
        Except.pure] at hr
    exact .inr ⟨⟨rfl, rfl, rfl⟩, hr.symm⟩

/-- **The fetch step**, when it comes back. -/
theorem holds_startToFetchRtspsrc (h : g.Holds sends fetches) (hc : fetches c = none)
    {cam : Camera} {r : Relay × Option ℕ} (hr : startToFetchRtspsrc g c cam = .ok r) :
    r.1.Holds sends (Function.update fetches c r.2) := by
  rcases startToFetchRtspsrc_eq_ok hr with ⟨-, rfl⟩ | ⟨-, rfl⟩
  · rw [← hc, Function.update_eq_self]
    exact h
  · exact ⟨h.webrtc.succ, h.fetch.acquire hc⟩

theorem holds_destroyReceiverEntry (h : g.Holds sends fetches) {e : ReceiverEntry}
    (hsends : sends e.connection = some e.pipeline)
    (hfetches : fetches e.connection = e.rtspsrcpipe) :
    (destroyReceiverEntry g e).Holds (Function.update sends e.connection none)
      (Function.update fetches e.connection none) := by
  have hstop := holds_stopFetch h e.connection
  rw [hfetches] at hstop
  exact ⟨hstop.webrtc.release hsends, hstop.fetch⟩

/-- **An answer**, when its handler comes back. -/
theorem holds_refetch (h : g.Holds sends fetches) {e : ReceiverEntry}
    (hfetches : fetches e.connection = e.rtspsrcpipe) {cam : Camera} {r : Relay × ReceiverEntry}
    (hr : refetch g e cam = .ok r) :
    ∃ p, r.2 = { e with rtspsrcpipe := p } ∧
      r.1.Holds sends (Function.update fetches e.connection p) := by
  have hstop := holds_stopFetch h e.connection
  rw [hfetches] at hstop
  rw [refetch] at hr
  cases hfetch : startToFetchRtspsrc (g.stopFetch e.connection e.rtspsrcpipe) e.connection cam with
  | error a =>
    rw [hfetch] at hr
    contradiction
  | ok q =>
    rw [hfetch] at hr
    obtain rfl := Except.ok.inj hr
    have hholds := holds_startToFetchRtspsrc hstop (Function.update_self _ _ _) hfetch
    rw [Function.update_idem] at hholds
    exact ⟨q.2, rfl, hholds⟩

/-- **A message**, when its handler comes back. -/
theorem holds_soupWebsocketMessageCb (h : g.Holds sends fetches) {e : ReceiverEntry}
    (hfetches : fetches e.connection = e.rtspsrcpipe) {cam : Camera} {msg : WsMessage}
    {r : Relay × ReceiverEntry} (hr : soupWebsocketMessageCb sdpParses g e cam msg = .ok r) :
    ∃ p, r.2 = { e with rtspsrcpipe := p } ∧
      r.1.Holds sends (Function.update fetches e.connection p) := by
  have hkeep : ∃ p, e = { e with rtspsrcpipe := p } ∧
      g.Holds sends (Function.update fetches e.connection p) :=
    ⟨e.rtspsrcpipe, rfl, by rw [← hfetches, Function.update_eq_self]; exact h⟩
  rw [soupWebsocketMessageCb] at hr
  cases hcmd : commandOf msg with
  | fatal => rw [hcmd] at hr; contradiction
  | ice i candidate =>
    rw [hcmd] at hr
    exact Except.ok.inj hr ▸ hkeep
  | sdpAnswer sdp =>
    rw [hcmd, perform] at hr
    cases hanswer : remoteAnswer sdpParses sdp with
    | error a => rw [hanswer] at hr; contradiction
    | ok u =>
      rw [hanswer] at hr
      exact holds_refetch h hfetches hr
  | own command =>
    rw [hcmd, perform] at hr
    cases hcontrol : control cam command with
    | error a => rw [hcontrol] at hr; contradiction
    | ok u =>
      rw [hcontrol] at hr
      exact Except.ok.inj hr ▸ hkeep

end Rtspsrc

/-! ## The table -/

namespace RelayServer

variable {s : RelayServer} {c : ℕ} {e : ReceiverEntry}

/-- The sending pipeline of each entry. -/
def sends (s : RelayServer) (c : ℕ) : Option ℕ := (s.entries.lookup c).map (·.pipeline)

/-- The fetching pipeline of each entry. -/
def fetches (s : RelayServer) (c : ℕ) : Option ℕ := (s.entries.lookup c).bind (·.rtspsrcpipe)

/-- The sending pipeline of a connection has been started and not been released. -/
def Playing (s : RelayServer) (c p : ℕ) : Prop :=
  .acquire p ∈ s.relay.webrtcLog c ∧ releases (s.relay.webrtcLog c) p = 0

/-- Entries that play are in the table, and a connection that is closed has released every pipeline
it ever had exactly once. -/
structure Accounted (s : RelayServer) : Prop where
  registered : ∀ c e, s.entries.lookup c = some e → s.Playing c e.pipeline → c ∈ s.table
  settled : ∀ c < s.nextConn, c ∉ s.connected →
    Settled (s.relay.webrtcLog c) ∧ Settled (s.relay.fetchLog c)

/-- Whenever the first step of opening a connection gets through, the second reaches the camera. -/
def Enters (s : RelayServer) : RelayEvent → Prop
  | .connect create fetch => s.aborted = none →
    create.connects = true ∧ create.logsIn = true ∧ create.tellsUrl = true → fetch.connects = true
  | _ => True

/-- Every entry is in the table, belongs to an open connection and owns what the logs say. -/
structure Kept (s : RelayServer) : Prop where
  table_iff : ∀ c, c ∈ s.table ↔ c ∈ s.entries
  connected : ∀ c ∈ s.entries, c ∈ s.connected
  fresh : ∀ c ∈ s.connected, c < s.nextConn
  connection : ∀ c e, s.entries.lookup c = some e → e.connection = c
  holds : s.relay.Holds s.sends s.fetches

theorem sends_insert (s : RelayServer) (c : ℕ) (e : ReceiverEntry) (g : Relay) (t : Finset ℕ) :
    ({ s with relay := g, entries := s.entries.insert c e, table := t } : RelayServer).sends
      = Function.update s.sends c (some e.pipeline) :=
  AList.comp_lookup_insert s.entries c e (Option.map (·.pipeline))

theorem fetches_insert (s : RelayServer) (c : ℕ) (e : ReceiverEntry) (g : Relay) (t : Finset ℕ) :
    ({ s with relay := g, entries := s.entries.insert c e, table := t } : RelayServer).fetches
      = Function.update s.fetches c e.rtspsrcpipe :=
  AList.comp_lookup_insert s.entries c e (Option.bind · (·.rtspsrcpipe))

theorem sends_erase (s : RelayServer) (c : ℕ) (g : Relay) (t d : Finset ℕ) :
    ({ s with relay := g, entries := s.entries.erase c, table := t, connected := d } :
      RelayServer).sends = Function.update s.sends c none :=
  AList.comp_lookup_erase s.entries c (Option.map (·.pipeline))

theorem fetches_erase (s : RelayServer) (c : ℕ) (g : Relay) (t d : Finset ℕ) :
    ({ s with relay := g, entries := s.entries.erase c, table := t, connected := d } :
      RelayServer).fetches = Function.update s.fetches c none :=
  AList.comp_lookup_erase s.entries c (Option.bind · (·.rtspsrcpipe))

theorem Kept.lookup_nextConn (hs : s.Kept) : s.entries.lookup s.nextConn = none :=
  AList.lookup_eq_none.mpr fun h ↦ absurd (hs.fresh _ (hs.connected _ h)) (lt_irrefl _)

theorem Kept.accounted (hs : s.Kept) : s.Accounted where
  registered c e hc _ := (hs.table_iff c).mpr (AList.lookup_isSome.mp (by rw [hc]; rfl))
  settled c _ hc := by
    have hnone : s.entries.lookup c = none :=
      AList.lookup_eq_none.mpr fun h ↦ hc (hs.connected c h)
    have hsends : s.sends c = none := by rw [sends, hnone, Option.map_none]
    have hfetches : s.fetches c = none := by rw [fetches, hnone, Option.bind_none]
    exact ⟨(hsends ▸ hs.holds.webrtc.holding c).settled_closeLog,
      (hfetches ▸ hs.holds.fetch.holding c).settled_closeLog⟩

theorem Kept.connect (hs : s.Kept) (a : Option Abort) : Kept {
    s with
    connected := insert s.nextConn s.connected
    nextConn := s.nextConn + 1
    aborted := a } where
  table_iff := hs.table_iff
  connected c hc := Finset.mem_insert_of_mem (hs.connected c hc)
  fresh c hc := by
    rcases Finset.mem_insert.mp hc with rfl | hc
    · exact Nat.lt_succ_self _
    · exact Nat.lt_succ_of_lt (hs.fresh c hc)
  connection := hs.connection
  holds := hs.holds

theorem Kept.register (hs : s.Kept) (hc : c ∈ s.connected) (hnone : s.entries.lookup c = none)
    {g : Relay} (hconn : e.connection = c) (hsome : e.rtspsrcpipe.isSome = true)
    (hholds : g.Holds (Function.update s.sends c (some e.pipeline))
      (Function.update s.fetches c e.rtspsrcpipe)) : Kept ({ s with relay := g }.register e) := by
  subst hconn
  rw [RelayServer.register, if_pos hsome]
  constructor
  · intro d
    rw [Finset.mem_insert, AList.mem_insert, hs.table_iff d]
  · intro d hd
    rcases (AList.mem_insert _).mp hd with rfl | hd
    · exact hc
    · exact hs.connected d hd
  · exact hs.fresh
  · exact AList.forall_lookup_insert hs.connection rfl
  · rw [sends_insert, fetches_insert]
    exact hholds

theorem Kept.soupWebsocketHandler (hs : s.Kept) {create fetch : Camera}
    (henters : create.connects = true ∧ create.logsIn = true ∧ create.tellsUrl = true →
      fetch.connects = true) : (s.soupWebsocketHandler create fetch).Kept := by
  have hnone := hs.lookup_nextConn
  have hsends : s.sends s.nextConn = none := by rw [sends, hnone, Option.map_none]
  have hfetches : s.fetches s.nextConn = none := by rw [fetches, hnone, Option.bind_none]
  rw [RelayServer.soupWebsocketHandler]
  cases hcreate : Rtspsrc.createReceiverEntry s.relay s.nextConn create with
  | error a => exact hs.connect (some a)
  | ok r =>
    rcases Rtspsrc.createReceiverEntry_eq_ok hcreate with ⟨-, rfl⟩ | ⟨hreached, rfl⟩
    · exact hs.connect s.aborted
    · have hcreated : (s.relay.parseLaunch.2.logWebrtc s.nextConn
          [.acquire s.relay.nextPipe]).Holds
          (Function.update s.sends s.nextConn (some s.relay.nextPipe)) s.fetches :=
        ⟨hs.holds.webrtc.acquire hsends, hs.holds.fetch.succ⟩
      simp only
      cases hfetch : Rtspsrc.startToFetchRtspsrc
          (s.relay.parseLaunch.2.logWebrtc s.nextConn [.acquire s.relay.nextPipe]) s.nextConn
          fetch with
      | error a => exact hs.connect (some a)
      | ok q =>
        have hholds := Rtspsrc.holds_startToFetchRtspsrc hcreated hfetches hfetch
        -- it is registered, since the camera was reached a second time
        refine (hs.connect s.aborted).register (Finset.mem_insert_self _ _) hnone rfl ?_ hholds
        rcases Rtspsrc.startToFetchRtspsrc_eq_ok hfetch with ⟨hconnects, -⟩ | ⟨-, rfl⟩
        · exact absurd (hconnects.symm.trans (henters hreached)) Bool.false_ne_true
        · rfl

theorem Kept.onMessage (hs : s.Kept) (c : ℕ) (msg : WsMessage) (cam : Camera) :
    (s.onMessage sdpParses c msg cam).Kept := by
  rw [RelayServer.onMessage]
  cases hc : s.entries.lookup c with
  | none => exact hs
  | some e =>
    obtain rfl : e.connection = c := hs.connection c e hc
    have hmem : e.connection ∈ s.entries := AList.lookup_isSome.mp (by rw [hc]; rfl)
    have hfetches : s.fetches e.connection = e.rtspsrcpipe := by
      rw [fetches, hc, Option.bind_some]
    have hsends : s.sends e.connection = some e.pipeline := by rw [sends, hc, Option.map_some]
    cases hr : Rtspsrc.soupWebsocketMessageCb sdpParses s.relay e cam msg with
    | error a =>
      simp only [hr]
      exact ⟨hs.table_iff, hs.connected, hs.fresh, hs.connection, hs.holds⟩
    | ok r =>
      obtain ⟨p, heq, hholds⟩ := Rtspsrc.holds_soupWebsocketMessageCb hs.holds hfetches hr
      simp only [hr]
      constructor
      · intro d
        rw [hs.table_iff d, AList.mem_insert]
        exact ⟨.inr, fun h ↦ h.elim (fun hd ↦ hd ▸ hmem) id⟩
      · intro d hd
        rcases (AList.mem_insert _).mp hd with rfl | hd
        · exact hs.connected _ hmem
        · exact hs.connected d hd
      · exact hs.fresh
      · exact AList.forall_lookup_insert hs.connection (by rw [heq])
      · rw [sends_insert, fetches_insert, heq, ← hsends, Function.update_eq_self]
        exact hholds

theorem Kept.soupWebsocketClosedCb (hs : s.Kept) (c : ℕ) : (s.soupWebsocketClosedCb c).Kept := by
  rw [RelayServer.soupWebsocketClosedCb]
  by_cases hc : c ∈ s.table
  · obtain ⟨e, he⟩ := Option.isSome_iff_exists.mp
      (AList.lookup_isSome.mpr ((hs.table_iff c).mp hc))
    obtain rfl : e.connection = c := hs.connection c e he
    have hfetches : s.fetches e.connection = e.rtspsrcpipe := by
      rw [fetches, he, Option.bind_some]
    have hsends : s.sends e.connection = some e.pipeline := by rw [sends, he, Option.map_some]
    have hholds := Rtspsrc.holds_destroyReceiverEntry hs.holds hsends hfetches
    simp only [if_pos hc, he]
    constructor
    · intro d
      rw [Finset.mem_erase, AList.mem_erase, hs.table_iff d]
    · intro d hd
      obtain ⟨hdc, hd⟩ := AList.mem_erase.mp hd
      exact Finset.mem_erase.mpr ⟨hdc, hs.connected d hd⟩
    · exact fun d hd ↦ hs.fresh d (Finset.mem_of_mem_erase hd)
    · exact AList.forall_lookup_erase hs.connection
    · rw [sends_erase, fetches_erase]
      exact hholds
  · simp only [if_neg hc]
    refine ⟨hs.table_iff, fun d hd ↦ ?_, fun d hd ↦ ?_, hs.connection, hs.holds⟩
    · have hdc : d ≠ c := fun h ↦ hc ((hs.table_iff c).mpr (h ▸ hd))
      exact Finset.mem_erase.mpr ⟨hdc, hs.connected d hd⟩
    · exact hs.fresh d (Finset.mem_of_mem_erase hd)

theorem Kept.step (hs : s.Kept) {e : RelayEvent} (he : s.Enters e) :
    (s.step sdpParses e).Kept := by
  rw [RelayServer.step]
  split_ifs with hdead
  · exact hs
  · have hlive : s.aborted = none := by simpa using hdead
    cases e with
    | connect create fetch => exact hs.soupWebsocketHandler (he hlive)
    | message c msg cam =>
      rw [act]
      split_ifs
      · exact hs.onMessage c msg cam
      · exact hs
    | close c =>
      rw [act]
      split_ifs
      · exact hs.soupWebsocketClosedCb c
      · exact hs

theorem Kept.enters_of_accounted (hs : s.Kept) {e : RelayEvent}
    (h : (s.step sdpParses e).Accounted) : s.Enters e := by
  cases e with
  | connect create fetch =>
    rintro hlive ⟨hconnects, hlogsIn, htellsUrl⟩
    by_contra hfetch
    rw [Bool.not_eq_true] at hfetch
    -- the number is new, so the table does not have it yet, and it is not put there
    have hnot : s.nextConn ∉ s.table := fun hmem ↦
      AList.lookup_eq_none.mp hs.lookup_nextConn ((hs.table_iff _).mp hmem)
    have hcreate : Rtspsrc.createReceiverEntry s.relay s.nextConn create
        = .ok (s.relay.parseLaunch.2.logWebrtc s.nextConn [.acquire s.relay.nextPipe],
          some { connection := s.nextConn, pipeline := s.relay.nextPipe }) := by
      simp [Rtspsrc.createReceiverEntry, Rtspsrc.loginCamera, Rtspsrc.getRtspUrl, hconnects,
        hlogsIn, htellsUrl, bind, Except.bind]
      rfl
    have hstart : ∀ g, Rtspsrc.startToFetchRtspsrc g s.nextConn fetch = .ok (g, none) := by
      intro g
      simp [Rtspsrc.startToFetchRtspsrc, Rtspsrc.loginCamera, hfetch, bind, Except.bind]
      rfl
    have hstep : s.step sdpParses (.connect create fetch) = RelayServer.register {
        s with
        connected := insert s.nextConn s.connected
        nextConn := s.nextConn + 1
        relay := s.relay.parseLaunch.2.logWebrtc s.nextConn [.acquire s.relay.nextPipe] }
        { connection := s.nextConn, pipeline := s.relay.nextPipe } := by
      rw [RelayServer.step, if_neg (by simp [hlive]), act, RelayServer.soupWebsocketHandler]
      simp only [hcreate, hstart]
    have hlog : (s.relay.parseLaunch.2.logWebrtc s.nextConn
        [.acquire s.relay.nextPipe]).webrtcLog s.nextConn
        = s.relay.webrtcLog s.nextConn ++ [.acquire s.relay.nextPipe] := Function.update_self _ _ _
    have hunreleased : releases (s.relay.webrtcLog s.nextConn) s.relay.nextPipe = 0 :=
      releases_eq_zero_iff.mpr fun hrel ↦ absurd
        (hs.holds.webrtc.lt _ _ ((hs.holds.webrtc.holding _).released _ hrel)) (lt_irrefl _)
    -- but the entry plays
    rw [hstep] at h
    refine hnot (h.registered s.nextConn _ (AList.lookup_insert _) ⟨?_, ?_⟩)
    · exact hlog ▸ List.mem_append_right _ List.mem_cons_self
    · refine (congrArg (releases · s.relay.nextPipe) hlog).trans ?_
      rw [releases_append_acquire, hunreleased]
  | _ => trivial

/-- **Entries.** Every entry is accounted for throughout a run exactly if no connection is opened
while the camera goes away between the two steps. -/
theorem always_accounted_iff (sdpParses : CString → Bool) (es : List RelayEvent) :
    Run.Always (step sdpParses) Accounted init es ↔ Run.Meets (step sdpParses) Enters init es := by
  refine Run.always_iff_meets (I := Kept) ?_ (fun _ hs ↦ hs.accounted) (fun _ _ hs he ↦ hs.step he)
    fun _ _ hs h ↦ hs.enters_of_accounted h
  exact ⟨fun c ↦ iff_of_false (Finset.notMem_empty c) (AList.notMem_empty c),
    fun c hc ↦ absurd hc (AList.notMem_empty c), fun c hc ↦ absurd hc (Finset.notMem_empty c),
    nofun, ⟨.nil, .nil⟩⟩

/-- The camera goes away after the first login. -/
theorem exists_not_accounted :
    ∃ s ∈ Run.reachable (step fun _ ↦ true) init, ¬ s.Accounted := by
  refine ⟨_, ⟨[.connect {} { connects := false }], rfl⟩, fun h ↦ ?_⟩
  exact absurd (h.registered 0 { connection := 0, pipeline := 0 } (by decide) (by
    unfold Playing
    decide)) (by decide)

end RelayServer

end GstWebrtcCamera

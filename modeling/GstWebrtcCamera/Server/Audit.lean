import GstWebrtcCamera.Server.Step
import GstWebrtcCamera.Sql.Database

/-!
# The server and its log of sessions

The server machine with the table its statements go to. An event brings the time with it, and the
table of users may be replaced at any time, by a script the server knows nothing about. What each
connection has reported is kept beside, to have something to compare the table with.

A new connection never has the address of an open one. It may well have the address of one that is
closed.

`Audited` lists what an event can change here, as `Stepped` does for the server.
-/

namespace GstWebrtcCamera

open CString

/-! ## Addresses -/

namespace Server

/-- `get_table_list`. -/
def getTableList (s : Server) : List UInt64 := s.table.entries.map (·.2.hashId)

/-- The address of an open connection. -/
def address (s : Server) (c : ℕ) : Option UInt64 := (s.table.lookup c).map (·.hashId)

variable {env : Env} {s : Server} {c : ℕ} {it : WebrtcItem} {h : UInt64}

theorem address_of_lookup (hit : s.table.lookup c = some it) : s.address c = some it.hashId := by
  rw [address, hit, Option.map_some]

theorem address_eq_some : s.address c = some h ↔ ∃ it, s.table.lookup c = some it ∧ it.hashId = h :=
  Option.map_eq_some_iff

theorem mem_getTableList : h ∈ s.getTableList ↔ ∃ c, s.address c = some h := by
  simp only [address_eq_some, getTableList, List.mem_map, Sigma.exists]
  refine exists_congr fun c ↦ exists_congr fun it ↦ and_congr_left fun _ ↦ ?_
  exact AList.mem_lookup_iff.symm

theorem mem_table_of_address (hc : s.address c = some h) : c ∈ s.table := by
  obtain ⟨it, hit, -⟩ := address_eq_some.mp hc
  exact AList.lookup_isSome.mp (by rw [hit]; rfl)

theorem exists_address_of_mem (hc : c ∈ s.table) : ∃ h, s.address c = some h := by
  obtain ⟨it, hit⟩ := Option.isSome_iff_exists.mp (AList.lookup_isSome.mpr hc)
  exact ⟨it.hashId, address_of_lookup hit⟩

theorem Wired.lt_of_address (hs : s.Wired env) (hc : s.address c = some h) : c < s.nextConn :=
  hs.fresh c (mem_table_of_address hc)

theorem address_withItem (hit : s.table.lookup c = some it) (g : Globals) {it' : WebrtcItem}
    (hid : it'.hashId = it.hashId) : (s.withItem c g it').address = s.address := by
  have hinsert := AList.comp_lookup_insert s.table c it' (Option.map (·.hashId))
  rw [Option.map_some, hid, ← Option.map_some, ← hit] at hinsert
  exact hinsert.trans (Function.update_eq_self _ _)

theorem address_insert (c : ℕ) (g : Globals) (n : ℕ) (it : WebrtcItem) :
    ({ s with globals := g, table := s.table.insert c it, nextConn := n } : Server).address
      = Function.update s.address c (some it.hashId) :=
  AList.comp_lookup_insert s.table c it (Option.map (·.hashId))

theorem address_erase (c : ℕ) (g : Globals) :
    ({ s with globals := g, table := s.table.erase c } : Server).address
      = Function.update s.address c none :=
  AList.comp_lookup_erase s.table c (Option.map (·.hashId))

theorem eq_some_of_update_none {f : ℕ → Option UInt64} {d : ℕ}
    (hd : Function.update f c none d = some h) : f d = some h := by
  rw [Function.update_apply] at hd
  split_ifs at hd
  exact hd

theorem startWebrtcbin_hashId (b : Backend) (env : Env) (g : Globals) (it : WebrtcItem)
    (launched : Bool) : (b.startWebrtcbin env g it launched).2.hashId = it.hashId := by
  cases b <;> rfl

theorem startWebrtcbin_sqlLog (b : Backend) (env : Env) (g : Globals) (it : WebrtcItem)
    (launched : Bool) : (b.startWebrtcbin env g it launched).1.sqlLog = g.sqlLog := by
  cases b <;> cases launched <;> rfl

end Server

/-! ## What the server logs -/

/-- An event that logs nothing and leaves the connections alone. -/
def Event.Unlogged : Event → Prop
  | .connect _ _ | .close _ => False
  | .message _ msg _ =>
    ∀ ip origin path username useragent, commandOf msg ≠ .client ip origin path username useragent
  | _ => True

/-- What an event does to addresses and to the statements. -/
inductive Logged (s : Server) : Event → Server → Prop
  | quiet {e : Event} {s' : Server} (he : s.Enabled e → e.Unlogged)
      (hsql : s'.globals.sqlLog = s.globals.sqlLog) (haddr : s'.address = s.address)
      (hnext : s'.nextConn = s.nextConn) : Logged s e s'
  | opened {hashId : UInt64} {launched : Bool} {s' : Server} (hlive : s.aborted = none)
      (hsql : s'.globals.sqlLog = s.globals.sqlLog)
      (haddr : s'.address = Function.update s.address s.nextConn (some hashId))
      (hnext : s'.nextConn = s.nextConn + 1) : Logged s (.connect hashId launched) s'
  | reported {c : ℕ} {msg : WsMessage} {launched : Bool} {s' : Server} {h : UInt64}
      {ip origin path username useragent : Option CString} (hlive : s.aborted = none)
      (hc : s.address c = some h)
      (hcmd : commandOf msg = .client ip origin path username useragent)
      (hsql : s'.globals.sqlLog
        = s.globals.sqlLog ++ [.webrtcLog h ip origin path username useragent])
      (haddr : s'.address = s.address) (hnext : s'.nextConn = s.nextConn) :
      Logged s (.message c msg launched) s'
  | closed {c : ℕ} {s' : Server} {h : UInt64} (hlive : s.aborted = none)
      (hc : s.address c = some h)
      (hsql : s'.globals.sqlLog = s.globals.sqlLog ++ [.webrtcOut h])
      (haddr : s'.address = Function.update s.address c none) (hnext : s'.nextConn = s.nextConn) :
      Logged s (.close c) s'

variable {env : Env} {s : Server}

theorem Performed.logged {g : Globals} {it : WebrtcItem} {launched : Bool} {cmd : Command}
    {r : Globals × WebrtcItem} (hr : Performed env g it launched cmd r) :
    (∃ ip origin path username useragent, cmd = .client ip origin path username useragent ∧
        r = (g.addWebrtcAccessLog (.webrtcLog it.hashId ip origin path username useragent), it)) ∨
      (∀ ip origin path username useragent, cmd ≠ .client ip origin path username useragent) ∧
        r.1.sqlLog = g.sqlLog ∧ r.2.hashId = it.hashId := by
  cases hr with
  | client ip origin path username useragent =>
    exact .inl ⟨ip, origin, path, username, useragent, rfl, rfl⟩
  | started hrec =>
    obtain ⟨pair, heq⟩ := startRecording_eq env g it launched
    rw [heq]
    exact .inr ⟨by simp, rfl, rfl⟩
  | stopped =>
    rw [stopRecording_eq]
    exact .inr ⟨by simp, rfl, rfl⟩
  | _ => exact .inr ⟨by simp, rfl, rfl⟩

theorem Server.logged_connect (hlive : s.aborted = none) (hashId : UInt64) (launched : Bool) :
    Logged s (.connect hashId launched) (s.step env (.connect hashId launched)) := by
  rw [step_of_live hlive, act, soupWebsocketHandler]
  refine .opened hlive ?_ ?_ rfl
  · exact startWebrtcbin_sqlLog _ _ _ _ _
  · rw [address_insert, startWebrtcbin_hashId]

/-- **What is logged.** -/
theorem Server.Wired.logged (hs : s.Wired env) (e : Event) : Logged s e (s.step env e) := by
  have hstep := hs.stepped e
  obtain ⟨s', hs'⟩ : ∃ s', s' = s.step env e := ⟨_, rfl⟩
  rw [← hs'] at hstep ⊢
  cases hstep with
  | stuck he => exact .quiet (fun h ↦ absurd h he) rfl rfl rfl
  | opened hlive hit => exact hs' ▸ logged_connect hlive _ _
  | performed hlive hit hr hcmd =>
    rcases hr.logged with ⟨ip, origin, path, username, useragent, hclient, heq⟩ |
      ⟨hother, hsql, hid⟩
    · rw [heq]
      exact .reported hlive (address_of_lookup hit) hclient rfl (address_withItem hit _ rfl) rfl
    · exact .quiet (fun _ ↦ hother) hsql (address_withItem hit _ hid) rfl
  | aborted hlive hit hcmd =>
    refine .quiet (fun _ ip origin path username useragent hclient ↦ ?_) rfl rfl rfl
    rw [hclient] at hcmd
    exact hcmd
  | untyped hlive hit hcmd => exact .quiet (fun _ ↦ trivial) rfl rfl rfl
  | headed hlive hit hcmd =>
    exact .quiet (fun _ ↦ trivial) rfl (address_withItem hit _ rfl) rfl
  | controlled hlive hit hcmd log =>
    exact .quiet (fun _ ↦ trivial) rfl (address_withItem hit _ rfl) rfl
  | received hlive hit hjobs =>
    exact .quiet (fun _ ↦ trivial) rfl (address_withItem hit _ rfl) rfl
  | negotiated hlive hit => exact .quiet (fun _ ↦ trivial) rfl (address_withItem hit _ rfl) rfl
  | fired hlive hcb =>
    rw [Server.fire, if_pos hcb]
    exact .quiet (fun _ ↦ trivial) rfl rfl rfl
  | closed hlive hit =>
    exact .closed hlive (address_of_lookup hit) rfl (address_erase _ _) rfl
  | motionLaunched hlive hr =>
    rw [startAppsrcRecord, if_pos hr]
    exact .quiet (fun _ ↦ trivial) rfl rfl rfl
  | motionAppended hlive hr =>
    rw [appendAppsrcRecord, if_pos hr]
    exact .quiet (fun _ ↦ trivial) rfl rfl rfl
  | motionStopped hlive hr =>
    rw [stopAppsrcRec, if_pos hr]
    exact .quiet (fun _ ↦ trivial) rfl rfl rfl
  | watched hlive hb =>
    refine .quiet (fun _ ↦ trivial) ?_ rfl rfl
    rw [Server.withGlobals, inotifyEvent]
    split_ifs <;> rfl
  | _ => exact .quiet (fun _ ↦ trivial) rfl rfl rfl

/-! ## The machine -/

/-- The server, `webrtc_log` and `webrtc_user`, and what each connection has reported. -/
structure Audit where
  server : Server := .init
  log : List LogRow
  users : UserTable
  /-- The user names in the `client` messages of a connection. -/
  reports : ℕ → List (List Char) := fun _ ↦ []

inductive AuditEvent
  | server (now : ℕ) (e : Event)
  | users (t : UserTable)

/-- The connection an event is about. -/
def Event.connection? : Event → Option ℕ
  | .message c _ _ | .dcString c _ _ | .dcData c _ | .negotiationNeeded c | .close c
  | .delivered c => some c
  | _ => none

/-- The user name in a report, as it was printed. -/
def SqlCall.reported : SqlCall → List (List Char)
  | webrtcLog _ _ _ _ username _ => [percentS username]
  | _ => []

/-- An open connection has the address. -/
def Server.Taken (s : Server) : Event → Prop
  | .connect hashId _ => hashId ∈ s.getTableList
  | _ => False

instance (s : Server) (e : Event) : Decidable (s.Taken e) := by
  unfold Server.Taken
  split
  · exact inferInstanceAs (Decidable (_ ∈ _))
  · exact inferInstanceAs (Decidable False)

namespace Audit

/-- `other` is what SQLite makes of a text that is not its template. -/
def step (env : Env) (other : List Char → List LogRow → List LogRow) (s : Audit) :
    AuditEvent → Audit
  | .users t => { s with users := t }
  | .server now e =>
    if s.server.Taken e then s
    else
      let server := s.server.step env e
      let calls := server.globals.sqlLog.drop s.server.globals.sqlLog.length
      { s with
        server := server
        log := calls.foldl (addWebrtcAccessLog other now e.connection?) s.log
        reports :=
          match e.connection? with
          | none => s.reports
          | some c =>
            Function.update s.reports c (s.reports c ++ calls.flatMap SqlCall.reported) }

/-- The server before the first event, with what earlier processes have logged. -/
def init (log : List LogRow) (users : UserTable) : Audit := {
  log := log.map LogRow.left
  users := users }

end Audit

/-- Every way an event can change the log, the users and the connections. -/
inductive Audited (other : List Char → List LogRow → List LogRow) (s : Audit) :
    AuditEvent → Audit → Prop
  | users (t : UserTable) : Audited other s (.users t) { s with users := t }
  | quiet {now : ℕ} {e : Event} {server : Server}
      (he : s.server.Enabled e → s.server.Taken e ∨ e.Unlogged)
      (haddr : server.address = s.server.address) (hnext : server.nextConn = s.server.nextConn) :
      Audited other s (.server now e) { s with server := server }
  | opened {now : ℕ} {hashId : UInt64} {launched : Bool} {server : Server}
      (hlive : s.server.aborted = none) (hnew : hashId ∉ s.server.getTableList)
      (haddr : server.address
        = Function.update s.server.address s.server.nextConn (some hashId))
      (hnext : server.nextConn = s.server.nextConn + 1) :
      Audited other s (.server now (.connect hashId launched)) { s with server := server }
  | reported {now c : ℕ} {msg : WsMessage} {launched : Bool} {server : Server} {h : UInt64}
      {ip origin path username useragent : Option CString} (hlive : s.server.aborted = none)
      (hc : s.server.address c = some h)
      (hcmd : commandOf msg = .client ip origin path username useragent)
      (haddr : server.address = s.server.address) (hnext : server.nextConn = s.server.nextConn) :
      Audited other s (.server now (.message c msg launched)) {
        s with
        server := server
        log := addWebrtcAccessLog other now (some c) s.log
          (.webrtcLog h ip origin path username useragent)
        reports := Function.update s.reports c (s.reports c ++ [percentS username]) }
  | closed {now c : ℕ} {server : Server} {h : UInt64} (hlive : s.server.aborted = none)
      (hc : s.server.address c = some h)
      (haddr : server.address = Function.update s.server.address c none)
      (hnext : server.nextConn = s.server.nextConn) :
      Audited other s (.server now (.close c)) {
        s with
        server := server
        log := addWebrtcAccessLog other now (some c) s.log (.webrtcOut h) }

namespace Audit

variable {other : List Char → List LogRow → List LogRow} {s : Audit}

theorem wired_step (hs : s.server.Wired env) (e : AuditEvent) :
    (s.step env other e).server.Wired env := by
  cases e with
  | users t => exact hs
  | server now e =>
    rw [step]
    split_ifs
    · exact hs
    · exact hs.step e

/-- An event that logs nothing changes the server only. -/
theorem step_of_sqlLog_eq {now : ℕ} {e : Event} (he : ¬ s.server.Taken e)
    (hsql : (s.server.step env e).globals.sqlLog = s.server.globals.sqlLog) :
    s.step env other (.server now e) = { s with server := s.server.step env e } := by
  simp only [step, if_neg he, hsql, List.drop_length, List.foldl_nil, List.flatMap_nil,
    List.append_nil, Function.update_eq_self]
  cases e.connection? <;> rfl

theorem step_of_sqlLog_append {now c : ℕ} {e : Event} {q : SqlCall} (he : ¬ s.server.Taken e)
    (hc : e.connection? = some c)
    (hsql : (s.server.step env e).globals.sqlLog = s.server.globals.sqlLog ++ [q]) :
    s.step env other (.server now e) = {
      s with
      server := s.server.step env e
      log := addWebrtcAccessLog other now (some c) s.log q
      reports := Function.update s.reports c (s.reports c ++ q.reported) } := by
  simp only [step, if_neg he, hsql, hc, List.drop_left, List.foldl_cons, List.foldl_nil,
    List.flatMap_singleton]

/-- **The audit relation is complete.** -/
theorem audited (hs : s.server.Wired env) (e : AuditEvent) :
    Audited other s e (s.step env other e) := by
  cases e with
  | users t => exact .users t
  | server now e =>
    by_cases htaken : s.server.Taken e
    · rw [step, if_pos htaken]
      exact .quiet (fun _ ↦ .inl htaken) rfl rfl
    · have hlogged := hs.logged e
      obtain ⟨server, hserver⟩ : ∃ server, server = s.server.step env e := ⟨_, rfl⟩
      rw [← hserver] at hlogged
      cases hlogged with
      | quiet he hsql haddr hnext =>
        rw [step_of_sqlLog_eq htaken (hserver ▸ hsql), ← hserver]
        exact .quiet (fun h ↦ .inr (he h)) haddr hnext
      | opened hlive hsql haddr hnext =>
        rw [step_of_sqlLog_eq htaken (hserver ▸ hsql), ← hserver]
        exact .opened hlive htaken haddr hnext
      | reported hlive hc hcmd hsql haddr hnext =>
        rw [step_of_sqlLog_append htaken rfl (hserver ▸ hsql), ← hserver]
        exact .reported hlive hc hcmd haddr hnext
      | closed hlive hc hsql haddr hnext =>
        rw [step_of_sqlLog_append htaken rfl (hserver ▸ hsql), ← hserver]
        simp only [SqlCall.reported, List.append_nil, Function.update_eq_self]
        exact .closed hlive hc haddr hnext

end Audit

end GstWebrtcCamera

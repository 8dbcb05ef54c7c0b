import GstWebrtcCamera.Server.Audit

/-!
# Who is online

The list of online users is the log joined with the users by name, restricted to the addresses of
the open connections. It is meant to have one row for each of them that has said who it is. Two
things decide about that: an address must not select rows of another session, and the names a
session has reported must come to at most one user between them. `Unambiguous` says both of a state,
and `Telling` says which events keep it.
-/

namespace GstWebrtcCamera

open CString

variable {env : Env} {other : List Char → List LogRow → List LogRow} {s : Audit}

/-! ## Rows and sessions -/

/-- An event whose statement, if there is one, is its template. -/
def AuditEvent.Plain : AuditEvent → Prop
  | .server _ (.message _ msg _) =>
    ∀ h ip origin path username useragent,
      commandOf msg = .client ip origin path username useragent →
        (SqlCall.webrtcLog h ip origin path username useragent).LexesAsTemplate
  | _ => True

theorem filter_flatMap_filter {α β : Type*} {l : List α} {p q : α → Bool} {q' : β → Bool}
    {f : α → List β} (hp : ∀ a ∈ l, q a = true → p a = true)
    (hf : ∀ a ∈ l, ∀ b ∈ f a, q' b = q a) :
    ((l.filter p).flatMap f).filter q' = (l.filter q).flatMap f := by
  induction l with
  | nil => rfl
  | cons a l ih =>
    have ih := ih (fun b hb ↦ hp b (List.mem_cons_of_mem a hb))
      fun b hb ↦ hf b (List.mem_cons_of_mem a hb)
    have ha := hf a List.mem_cons_self
    cases hq : q a with
    | true =>
      rw [List.filter_cons_of_pos (hp a List.mem_cons_self hq), List.filter_cons_of_pos hq,
        List.flatMap_cons, List.flatMap_cons, List.filter_append, ih,
        List.filter_eq_self.mpr fun b hb ↦ (ha b hb).trans hq]
    | false =>
      have hnone : (f a).filter q' = [] :=
        List.filter_eq_nil_iff.mpr fun b hb ↦ by rw [ha b hb, hq]; exact Bool.false_ne_true
      have hskip : (a :: l).filter q = l.filter q := List.filter_cons_of_neg (by simp [hq])
      rw [hskip, ← ih, List.filter_cons]
      split_ifs
      · rw [List.flatMap_cons, List.filter_append, hnone, List.nil_append]
      · rfl

namespace Audit

/-- The rows of a session. -/
def rowsOf (s : Audit) (c : ℕ) : List LogRow := s.log.filter (·.session = some c)

/-- Rows are what the sessions have reported, and open connections have different addresses. -/
structure Tagged (env : Env) (s : Audit) : Prop where
  wired : s.server.Wired env
  distinct : ∀ c d h, s.server.address c = some h → s.server.address d = some h → c = d
  fresh : ∀ r ∈ s.log, ∀ c, r.session = some c → c < s.server.nextConn
  own : ∀ r ∈ s.log, ∀ c h, r.session = some c → s.server.address c = some h → r.hashid = h
  reports : ∀ c, (s.rowsOf c).map (·.username) = s.reports c

theorem tagged_init (env : Env) (log : List LogRow) (users : UserTable) :
    (init log users).Tagged env := by
  have hsession : ∀ r ∈ log.map LogRow.left, r.session = none := by
    rw [List.forall_mem_map]
    exact fun _ _ ↦ rfl
  constructor
  · exact Server.wired_init env
  · intro c d h hc
    exact absurd (Server.mem_table_of_address hc) (AList.notMem_empty c)
  · intro r hr c hc
    rw [hsession r hr] at hc
    contradiction
  · intro r hr c h hc
    rw [hsession r hr] at hc
    contradiction
  · intro c
    rw [rowsOf, List.filter_eq_nil_iff.mpr]
    · rfl
    · intro r hr
      simp [hsession r hr]

theorem Tagged.rowsOf_nextConn (hs : s.Tagged env) : s.rowsOf s.server.nextConn = [] := by
  refine List.filter_eq_nil_iff.mpr fun r hr ↦ ?_
  rw [decide_eq_true_iff]
  exact fun hc ↦ absurd (hs.fresh r hr _ hc) (lt_irrefl _)

theorem Tagged.opened (hs : s.Tagged env) {server : Server} {hashId : UInt64}
    (hwired : server.Wired env) (hnew : hashId ∉ s.server.getTableList)
    (haddr : server.address = Function.update s.server.address s.server.nextConn (some hashId))
    (hnext : server.nextConn = s.server.nextConn + 1) :
    Tagged env { s with server := server } := by
  have hfree : ∀ d, s.server.address d ≠ some hashId := fun d hd ↦
    hnew (Server.mem_getTableList.mpr ⟨d, hd⟩)
  refine ⟨hwired, ?_, ?_, ?_, hs.reports⟩
  · intro c d h hc hd
    simp only [haddr, Function.update_apply] at hc hd
    split_ifs at hc hd with hcn hdn
    · rw [hcn, hdn]
    · exact absurd (hd.trans hc.symm) (hfree d)
    · exact absurd (hc.trans hd.symm) (hfree c)
    · exact hs.distinct c d h hc hd
  · intro r hr c hc
    simp only [hnext]
    exact Nat.lt_succ_of_lt (hs.fresh r hr c hc)
  · intro r hr c h hc hcaddr
    simp only [haddr] at hcaddr
    rw [Function.update_of_ne (hs.fresh r hr c hc).ne] at hcaddr
    exact hs.own r hr c h hc hcaddr

theorem Tagged.reported (hs : s.Tagged env) {server : Server} {c : ℕ} {r : LogRow}
    (hwired : server.Wired env) (hc : s.server.address c = some r.hashid)
    (haddr : server.address = s.server.address) (hnext : server.nextConn = s.server.nextConn)
    (hsession : r.session = some c) :
    Tagged env {
      s with
      server := server
      log := s.log ++ [r]
      reports := Function.update s.reports c (s.reports c ++ [r.username]) } := by
  refine ⟨hwired, ?_, ?_, ?_, ?_⟩
  · simp only [haddr]
    exact hs.distinct
  · simp only [hnext, List.forall_mem_append, List.forall_mem_singleton]
    refine ⟨hs.fresh, fun d hd ↦ ?_⟩
    rw [hsession, Option.some_inj] at hd
    exact hd ▸ hs.wired.lt_of_address hc
  · simp only [haddr, List.forall_mem_append, List.forall_mem_singleton]
    refine ⟨hs.own, fun d h' hd hd' ↦ ?_⟩
    rw [hsession, Option.some_inj] at hd
    exact Option.some_inj.mp (hc.symm.trans (hd ▸ hd'))
  · intro d
    simp only [rowsOf, List.filter_append, List.map_append]
    by_cases hdc : d = c
    · subst hdc
      rw [Function.update_self, ← hs.reports d, rowsOf]
      simp [hsession]
    · rw [Function.update_of_ne hdc, ← hs.reports d, rowsOf]
      simp [hsession, Ne.symm hdc]

theorem Tagged.closed (hs : s.Tagged env) {server : Server} {c : ℕ} (hwired : server.Wired env)
    (haddr : server.address = Function.update s.server.address c none)
    (hnext : server.nextConn = s.server.nextConn) (h : UInt64) (now : ℕ) :
    Tagged env { s with server := server, log := s.log.map (·.out h now (some c)) } := by
  refine ⟨hwired, ?_, ?_, ?_, ?_⟩
  · intro a b h' ha hb
    simp only [haddr] at ha hb
    exact hs.distinct a b h' (Server.eq_some_of_update_none ha) (Server.eq_some_of_update_none hb)
  · simp only [hnext, List.forall_mem_map, LogRow.out_session]
    exact hs.fresh
  · simp only [List.forall_mem_map, LogRow.out_session, LogRow.out_hashid]
    intro r hr a h' ha ha'
    simp only [haddr] at ha'
    exact hs.own r hr a h' ha (Server.eq_some_of_update_none ha')
  · intro a
    rw [← hs.reports a]
    simp only [rowsOf, List.filter_map, List.map_map]
    rfl

theorem Tagged.step (hs : s.Tagged env) {e : AuditEvent} (he : e.Plain) :
    (s.step env other e).Tagged env := by
  have hstep : Audited other s e (s.step env other e) := audited hs.wired e
  have hwired : (s.step env other e).server.Wired env := wired_step hs.wired e
  obtain ⟨s', hs'⟩ : ∃ s', s' = s.step env other e := ⟨_, rfl⟩
  rw [← hs'] at hstep hwired ⊢
  cases hstep with
  | users t => exact ⟨hwired, hs.distinct, hs.fresh, hs.own, hs.reports⟩
  | quiet hquiet haddr hnext =>
    refine ⟨hwired, ?_, ?_, ?_, hs.reports⟩
    · simp only [haddr]
      exact hs.distinct
    · simp only [hnext]
      exact hs.fresh
    · simp only [haddr]
      exact hs.own
  | opened hlive hnew haddr hnext => exact hs.opened hwired hnew haddr hnext
  | @reported now c msg launched server h ip origin path username useragent hlive hc hcmd haddr
      hnext =>
    obtain ⟨r, hlog, hsession, rfl, husername, -⟩ :=
      addWebrtcAccessLog_webrtcLog other now (some c) s.log (he h _ _ _ _ _ hcmd)
    rw [hlog, ← husername]
    exact hs.reported hwired hc haddr hnext hsession
  | @closed now c server h hlive hc haddr hnext =>
    rw [addWebrtcAccessLog_webrtcOut]
    exact hs.closed hwired haddr hnext h now

/-! ## The list -/

/-- The answer to the page. -/
def onlineUsers (s : Audit) : List OnlineUser :=
  getOnlineUserList s.log s.users s.server.getTableList

/-- One row for every open connection that has reported the name of a user, with its own address and
name, and no other row. -/
structure ListsOnline (s : Audit) : Prop where
  live : ∀ u ∈ s.onlineUsers, ∃ c ∈ s.server.table, u.session = some c
  once : ∀ c h, s.server.address c = some h → (∃ name ∈ s.reports c, s.users.Registered name) →
    ∃ u, s.onlineUsers.filter (·.session = some c) = [u] ∧ u.hashid = h ∧ u.name ∈ s.reports c

/-- With these users, open connections select rows of their own only, and have each reported the
name of at most one user. -/
structure Unambiguous (s : Audit) (t : UserTable) : Prop where
  others : ∀ r ∈ s.log, ∀ c, s.server.address c = some r.hashid → r.session ≠ some c →
    ¬ t.Registered r.username
  own : ∀ c h, s.server.address c = some h → ((s.reports c).flatMap t.named).length ≤ 1

theorem mem_onlineUsers {u : OnlineUser} : u ∈ s.onlineUsers ↔
    ∃ r ∈ s.log, (∃ c, s.server.address c = some r.hashid) ∧
      ∃ v ∈ s.users.named r.username, r.online v = u := by
  simp only [onlineUsers, getOnlineUserList, List.mem_flatMap, List.mem_filter, List.mem_map,
    decide_eq_true_iff, Server.mem_getTableList, and_assoc]

theorem Tagged.filter_onlineUsers (hs : s.Tagged env) {c : ℕ} {h : UInt64}
    (hc : s.server.address c = some h) : s.onlineUsers.filter (·.session = some c)
      = (s.rowsOf c).flatMap fun r ↦ (s.users.named r.username).map r.online := by
  refine filter_flatMap_filter (fun r hr hsession ↦ ?_) fun r _ ↦ ?_
  · rw [hs.own r hr c h (of_decide_eq_true hsession) hc, decide_eq_true_iff]
    exact Server.mem_getTableList.mpr ⟨c, hc⟩
  · rw [List.forall_mem_map]
    exact fun _ _ ↦ rfl

theorem Tagged.length_filter_onlineUsers (hs : s.Tagged env) {c : ℕ} {h : UInt64}
    (hc : s.server.address c = some h) : (s.onlineUsers.filter (·.session = some c)).length
      = ((s.reports c).flatMap s.users.named).length := by
  rw [hs.filter_onlineUsers hc, ← hs.reports c]
  simp [List.length_flatMap, Function.comp_def]

/-- A connection that has reported the name of a user. -/
theorem registered_iff (t : UserTable) (names : List (List Char)) :
    (∃ name ∈ names, t.Registered name) ↔ names.flatMap t.named ≠ [] := by
  rw [Ne, List.flatMap_eq_nil_iff]
  simp [UserTable.Registered]

theorem length_concat_le_one_iff (t : UserTable) {names : List (List Char)} (name : List Char)
    (hnames : (names.flatMap t.named).length ≤ 1) :
    ((names ++ [name]).flatMap t.named).length ≤ 1 ↔ (t.named name).length = 0 ∨
      (t.named name).length = 1 ∧ ∀ n ∈ names, ¬ t.Registered n := by
  have hnone : (∀ n ∈ names, ¬ t.Registered n) ↔ (names.flatMap t.named).length = 0 := by
    rw [List.length_eq_zero_iff, ← not_iff_not, ← Ne, ← registered_iff]
    simp
  rw [hnone, List.flatMap_append, List.length_append, List.flatMap_singleton]
  omega

/-- **One row for each.** -/
theorem Tagged.listsOnline_iff (hs : s.Tagged env) : s.ListsOnline ↔ s.Unambiguous s.users := by
  constructor
  · rintro ⟨hlive, honce⟩
    constructor
    · intro r hr c hc hsession hreg
      obtain ⟨v, hv⟩ := List.exists_mem_of_ne_nil _ hreg
      obtain ⟨d, hd, hrd⟩ := hlive _ (mem_onlineUsers.mpr ⟨r, hr, ⟨c, hc⟩, v, hv, rfl⟩)
      obtain ⟨h, hd⟩ := Server.exists_address_of_mem hd
      -- the row is of an open session, which has another address
      have hown := hs.own r hr d h hrd hd
      exact hsession (hs.distinct c d _ hc (hown ▸ hd) ▸ hrd)
    · intro c h hc
      by_cases hreg : ∃ name ∈ s.reports c, s.users.Registered name
      · obtain ⟨u, hu, -⟩ := honce c h hc hreg
        rw [← hs.length_filter_onlineUsers hc, hu]
        exact le_rfl
      · rw [registered_iff, not_not] at hreg
        rw [hreg]
        exact Nat.zero_le _
  · rintro ⟨hothers, hown⟩
    constructor
    · intro u hu
      obtain ⟨r, hr, ⟨c, hc⟩, v, hv, rfl⟩ := mem_onlineUsers.mp hu
      refine ⟨c, Server.mem_table_of_address hc, ?_⟩
      by_contra hsession
      exact hothers r hr c hc hsession (List.ne_nil_of_mem hv)
    · intro c h hc hreg
      rw [registered_iff, ← List.length_pos_iff] at hreg
      have hone : (s.onlineUsers.filter (·.session = some c)).length = 1 := by
        rw [hs.length_filter_onlineUsers hc]
        exact le_antisymm (hown c h hc) hreg
      obtain ⟨u, hu⟩ := List.length_eq_one_iff.mp hone
      have hmem : u ∈ (s.rowsOf c).flatMap fun r ↦ (s.users.named r.username).map r.online := by
        rw [← hs.filter_onlineUsers hc, hu]
        exact List.mem_singleton_self u
      obtain ⟨r, hr, hu'⟩ := List.mem_flatMap.mp hmem
      obtain ⟨v, -, rfl⟩ := List.mem_map.mp hu'
      obtain ⟨hlog, hsession⟩ := List.mem_filter.mp hr
      refine ⟨_, hu, hs.own r hlog c h (of_decide_eq_true hsession) hc, ?_⟩
      rw [← hs.reports c]
      exact List.mem_map_of_mem hr

/-! ## Which events keep it -/

/-- The event brings no second row and no row of somebody else. -/
def Telling (s : Audit) : AuditEvent → Prop
  | .users t => s.Unambiguous t
  | .server _ e => s.server.Enabled e → match e with
    | .message c msg _ => ∀ ip origin path username useragent,
      commandOf msg = .client ip origin path username useragent →
        (s.users.named (percentS username)).length = 0 ∨
          (s.users.named (percentS username)).length = 1 ∧
            ∀ name ∈ s.reports c, ¬ s.users.Registered name
    | .connect hashId _ => hashId ∉ s.server.getTableList →
      ∀ r ∈ s.log, r.hashid = hashId → ¬ s.users.Registered r.username
    | _ => True

theorem telling_of_unlogged {now : ℕ} {e : Event}
    (he : s.server.Enabled e → s.server.Taken e ∨ e.Unlogged) : s.Telling (.server now e) := by
  intro henabled
  have he := he henabled
  cases e with
  | connect hashId launched =>
    intro hnew
    exact absurd (he.resolve_right id) hnew
  | message c msg launched =>
    intro ip origin path username useragent hcmd
    exact absurd hcmd (he.resolve_left id _ _ _ _ _)
  | _ => trivial

/-- A new connection is unambiguous unless an old row under its address would be listed for it. -/
theorem Tagged.unambiguous_opened_iff (hs : s.Tagged env) (hu : s.Unambiguous s.users)
    {server : Server} {hashId : UInt64}
    (haddr : server.address = Function.update s.server.address s.server.nextConn (some hashId)) :
    Unambiguous { s with server := server } s.users ↔
      ∀ r ∈ s.log, r.hashid = hashId → ¬ s.users.Registered r.username := by
  constructor
  · intro h r hr hrow
    refine h.others r hr s.server.nextConn ?_ fun hsession ↦ ?_
    · simp only [haddr, Function.update_self, hrow]
    · exact absurd (hs.fresh r hr _ hsession) (lt_irrefl _)
  · intro h
    constructor
    · intro r hr c hc hsession
      simp only [haddr, Function.update_apply] at hc
      split_ifs at hc with hcn
      · exact h r hr (Option.some_inj.mp hc).symm
      · exact hu.others r hr c hc hsession
    · intro c h' hc
      simp only [haddr, Function.update_apply] at hc
      split_ifs at hc with hcn
      · rw [hcn, ← hs.reports, hs.rowsOf_nextConn]
        exact Nat.zero_le _
      · exact hu.own c h' hc

theorem Tagged.unambiguous_reported_iff (hs : s.Tagged env) (hu : s.Unambiguous s.users)
    {server : Server} {c : ℕ} {r : LogRow} (hc : s.server.address c = some r.hashid)
    (haddr : server.address = s.server.address) (hsession : r.session = some c) :
    Unambiguous {
        s with
        server := server
        log := s.log ++ [r]
        reports := Function.update s.reports c (s.reports c ++ [r.username]) } s.users ↔
      ((s.reports c ++ [r.username]).flatMap s.users.named).length ≤ 1 := by
  have hother : ∀ d, s.server.address d = some r.hashid → r.session ≠ some d →
      ¬ s.users.Registered r.username := fun d hd hrd ↦
    absurd (hs.distinct c d _ hc hd ▸ hsession) hrd
  constructor
  · intro h'
    have hown := h'.own c r.hashid (by simp only [haddr, hc])
    simpa only [Function.update_self] using hown
  · intro hle
    constructor
    · simp only [haddr, List.forall_mem_append, List.forall_mem_singleton]
      exact ⟨hu.others, hother⟩
    · simp only [haddr]
      intro d h' hd
      by_cases hdc : d = c
      · subst hdc
        simpa only [Function.update_self] using hle
      · rw [Function.update_of_ne hdc]
        exact hu.own d h' hd

theorem Unambiguous.closed (hu : s.Unambiguous s.users) {server : Server} {c : ℕ}
    (haddr : server.address = Function.update s.server.address c none) (h : UInt64) (now : ℕ) :
    Unambiguous { s with server := server, log := s.log.map (·.out h now (some c)) } s.users := by
  constructor
  · simp only [haddr, List.forall_mem_map, LogRow.out_session, LogRow.out_hashid,
      LogRow.out_username]
    exact fun r hr d hd hrd ↦ hu.others r hr d (Server.eq_some_of_update_none hd) hrd
  · simp only [haddr]
    exact fun d h' hd ↦ hu.own d h' (Server.eq_some_of_update_none hd)

/-- **One event** keeps the answer unambiguous exactly if it is telling. -/
theorem Tagged.unambiguous_step_iff (hs : s.Tagged env) (hu : s.Unambiguous s.users)
    {e : AuditEvent} (he : e.Plain) :
    (s.step env other e).Unambiguous (s.step env other e).users ↔ s.Telling e := by
  have hstep : Audited other s e (s.step env other e) := audited hs.wired e
  obtain ⟨s', hs'⟩ : ∃ s', s' = s.step env other e := ⟨_, rfl⟩
  rw [← hs'] at hstep ⊢
  cases hstep with
  | users t => exact ⟨fun h ↦ ⟨h.others, h.own⟩, fun h ↦ ⟨h.others, h.own⟩⟩
  | @quiet now e server hquiet haddr hnext =>
    refine iff_of_true ⟨?_, ?_⟩ (telling_of_unlogged hquiet)
    · simp only [haddr]
      exact hu.others
    · simp only [haddr]
      exact hu.own
  | @opened now hashId launched server hlive hnew haddr hnext =>
    rw [hs.unambiguous_opened_iff hu haddr]
    exact ⟨fun h _ _ ↦ h, fun h ↦ h ⟨hlive, trivial⟩ hnew⟩
  | @reported now c msg launched server h ip origin path username useragent hlive hc hcmd haddr
      hnext =>
    obtain ⟨r, hlog, hsession, rfl, husername, -⟩ :=
      addWebrtcAccessLog_webrtcLog other now (some c) s.log (he h _ _ _ _ _ hcmd)
    rw [hlog, ← husername, hs.unambiguous_reported_iff hu hc haddr hsession,
      length_concat_le_one_iff _ _ (hu.own c _ hc), husername]
    constructor
    · rintro h - ip' origin' path' username' useragent' hcmd'
      obtain ⟨-, -, -, rfl, -⟩ := Command.client.inj (hcmd'.symm.trans hcmd)
      exact h
    · exact fun h ↦ h ⟨hlive, Server.mem_table_of_address hc⟩ _ _ _ _ _ hcmd
  | @closed now c server h hlive hc haddr hnext =>
    rw [addWebrtcAccessLog_webrtcOut]
    exact iff_of_true (hu.closed haddr h now) fun _ ↦ trivial

/-- **The list of online users.** In a run whose statements are their templates the list is right
throughout exactly if every event is telling. -/
theorem always_listsOnline_iff (env : Env) (other : List Char → List LogRow → List LogRow)
    (log : List LogRow) (users : UserTable) {es : List AuditEvent} (hes : ∀ e ∈ es, e.Plain) :
    Run.Always (step env other) ListsOnline (init log users) es
      ↔ Run.Meets (step env other) Telling (init log users) es := by
  refine Run.always_iff_meets_of_forall (I := fun s ↦ s.Tagged env ∧ s.Unambiguous s.users)
    ⟨tagged_init env log users, ?_⟩ (fun s hs ↦ hs.1.listsOnline_iff.mpr hs.2) ?_ ?_ hes
  · have hclosed : ∀ c h, (init log users).server.address c ≠ some h := fun c h hc ↦
      absurd (Server.mem_table_of_address hc) (AList.notMem_empty c)
    exact ⟨fun r _ c hc ↦ absurd hc (hclosed c _), fun c h hc ↦ absurd hc (hclosed c h)⟩
  · rintro s e ⟨hs, hu⟩ he htelling
    exact ⟨hs.step he, (hs.unambiguous_step_iff hu he).mpr htelling⟩
  · rintro s e ⟨hs, hu⟩ he hlists
    exact (hs.unambiguous_step_iff hu he).mp ((hs.step he).listsOnline_iff.mp hlists)

/-- A report of a name, from a page that says nothing else. -/
def clientReport (c : ℕ) (username : String) : AuditEvent :=
  .server 0 (.message c (.text (some (.object [(ofString "client", .object [
    (ofString "username", .string (ofString username))])]))) false)

/-- One user, in one realm. -/
def oneUser : UserTable where
  rows := [{
    id := 1
    username := (ofString "gst").chars
    realm := (ofString "lcy-gsteramer-camera").chars }]
  unique := by simp

theorem plain_clientReport : (clientReport 0 "gst").Plain := by
  intro h ip origin path username useragent hcmd
  have hclient : commandOf (.text (some (.object [(ofString "client", .object [
      (ofString "username", .string (ofString "gst"))])])))
      = .client none none none (some (ofString "gst")) none := by decide +kernel
  have hquote : ∀ f ∈ [none, none, none, some (ofString "gst"), none],
      '\'' ∉ percentS f := by decide +kernel
  rw [hclient] at hcmd
  obtain ⟨rfl, rfl, rfl, rfl, rfl⟩ := Command.client.inj hcmd
  exact (SqlCall.lexesAsTemplate_iff_percentS _).mpr hquote

theorem always_listsOnline_iff_report :
    Run.Always (step (Env.plain .udpsrc) fun _ log ↦ log) ListsOnline (init [] oneUser)
        [.server 0 (.connect 1 true), clientReport 0 "gst"]
      ↔ Run.Meets (step (Env.plain .udpsrc) fun _ log ↦ log) Telling (init [] oneUser)
        [.server 0 (.connect 1 true), clientReport 0 "gst"] :=
  always_listsOnline_iff _ _ [] oneUser fun e he ↦ by
    rcases List.mem_pair.mp he with rfl | rfl
    · trivial
    · exact plain_clientReport

/-- A page that says its name twice is listed twice. -/
theorem exists_not_listsOnline :
    ∃ s ∈ Run.reachable (step (Env.plain .udpsrc) fun _ log ↦ log) (init [] oneUser),
      ¬ s.ListsOnline := by
  refine ⟨_, ⟨[.server 0 (.connect 1 true), clientReport 0 "gst", clientReport 0 "gst"], rfl⟩, ?_⟩
  rintro ⟨-, honce⟩
  obtain ⟨u, hu, -⟩ := honce 0 1 (by decide +kernel) (by decide +kernel)
  have hone := congrArg List.length hu
  rw [List.length_singleton] at hone
  exact absurd hone (by decide +kernel)

end Audit

end GstWebrtcCamera

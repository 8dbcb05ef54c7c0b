import GstWebrtcCamera.Invariant.Online

/-!
# When a session ended

A close stamps every row with the address of the connection. `recorded` is what the stamp of a row
would be if only its own session had set it, and the two agree as long as no row of another session
has the address of a connection that is closed.
-/

namespace GstWebrtcCamera

open CString

variable {env : Env} {other : List Char → List LogRow → List LogRow} {s : Audit}

theorem LogRow.out_outdate_eq_recorded_iff {r : LogRow} (hr : r.outdate = r.recorded) (h : UInt64)
    (now : ℕ) (session : Option ℕ) (hown : r.session = session → r.hashid = h) :
    (r.out h now session).outdate = (r.out h now session).recorded
      ↔ (r.hashid = h → r.session ≠ session → r.outdate = now) := by
  simp only [LogRow.out]
  by_cases hsession : r.session = session
  · simp [hsession, hown hsession]
  · by_cases hhashid : r.hashid = h
    · simp [hsession, hhashid, ← hr, eq_comm]
    · simp [hsession, hhashid, hr]

namespace Audit

/-- Every row has the `outdate` its own session gave it. -/
def KeepsOutdates (s : Audit) : Prop := ∀ r ∈ s.log, r.outdate = r.recorded

/-- A close that finds no row of another session under its address, or none it would change. -/
def ClosesOwn (s : Audit) : AuditEvent → Prop
  | .server now (.close c) => s.server.aborted = none →
    ∀ r ∈ s.log, s.server.address c = some r.hashid → r.session ≠ some c → r.outdate = now
  | _ => True

/-- **One event** keeps what is recorded exactly if it closes nothing but its own. -/
theorem Tagged.keepsOutdates_step_iff (hs : s.Tagged env) (hk : s.KeepsOutdates) {e : AuditEvent}
    (he : e.Plain) : (s.step env other e).KeepsOutdates ↔ s.ClosesOwn e := by
  have hstep : Audited other s e (s.step env other e) := audited hs.wired e
  obtain ⟨s', hs'⟩ : ∃ s', s' = s.step env other e := ⟨_, rfl⟩
  rw [← hs'] at hstep ⊢
  cases hstep with
  | users t => exact iff_of_true hk trivial
  | @quiet now e server hquiet haddr hnext =>
    refine iff_of_true hk ?_
    cases e with
    | close c =>
      intro hlive r hr hc
      have hopen : s.server.Enabled (.close c) := ⟨hlive, Server.mem_table_of_address hc⟩
      exact absurd ((hquiet hopen).resolve_left id) id
    | _ => trivial
  | opened hlive hnew haddr hnext => exact iff_of_true hk trivial
  | @reported now c msg launched server h ip origin path username useragent hlive hc hcmd haddr
      hnext =>
    obtain ⟨r, hlog, -, -, -, hr⟩ :=
      addWebrtcAccessLog_webrtcLog other now (some c) s.log (he h _ _ _ _ _ hcmd)
    rw [KeepsOutdates, hlog]
    exact iff_of_true (List.forall_mem_append.mpr ⟨hk, List.forall_mem_singleton.mpr hr⟩) trivial
  | @closed now c server h hlive hc haddr hnext =>
    rw [KeepsOutdates, addWebrtcAccessLog_webrtcOut, List.forall_mem_map]
    have hrow : ∀ r ∈ s.log, (r.out h now (some c)).outdate = (r.out h now (some c)).recorded
        ↔ (r.hashid = h → r.session ≠ some c → r.outdate = now) := by
      intro r hr
      have hown : r.session = some c → r.hashid = h := fun hsession ↦ hs.own r hr c h hsession hc
      exact LogRow.out_outdate_eq_recorded_iff (hk r hr) h now _ hown
    refine (forall₂_congr hrow).trans ?_
    simp only [ClosesOwn, hlive, hc, Option.some_inj, eq_comm (a := h), true_imp_iff]

/-- **Ends of sessions.** In a run whose statements are their templates, every row keeps the
`outdate` of its own session throughout exactly if every close finds only rows of its own. -/
theorem always_keepsOutdates_iff (env : Env) (other : List Char → List LogRow → List LogRow)
    (log : List LogRow) (users : UserTable) {es : List AuditEvent} (hes : ∀ e ∈ es, e.Plain) :
    Run.Always (step env other) KeepsOutdates (init log users) es
      ↔ Run.Meets (step env other) ClosesOwn (init log users) es := by
  refine Run.always_iff_meets_of_forall (I := fun s ↦ s.Tagged env ∧ s.KeepsOutdates)
    ⟨tagged_init env log users, ?_⟩ (fun s hs ↦ hs.2) ?_ ?_ hes
  · exact List.forall_mem_map.mpr fun r _ ↦ rfl
  · rintro s e ⟨hs, hk⟩ he hcloses
    exact ⟨hs.step he, (hs.keepsOutdates_step_iff hk he).mpr hcloses⟩
  · rintro s e ⟨hs, hk⟩ he hkeeps
    exact (hs.keepsOutdates_step_iff hk he).mp hkeeps

theorem always_keepsOutdates_iff_report :
    Run.Always (step (Env.plain .udpsrc) fun _ log ↦ log) KeepsOutdates (init [] oneUser)
        [.server 0 (.connect 1 true), clientReport 0 "gst", .server 5 (.close 0)]
      ↔ Run.Meets (step (Env.plain .udpsrc) fun _ log ↦ log) ClosesOwn (init [] oneUser)
        [.server 0 (.connect 1 true), clientReport 0 "gst", .server 5 (.close 0)] :=
  always_keepsOutdates_iff _ _ [] oneUser fun e he ↦ by
    simp only [List.mem_cons, List.not_mem_nil, or_false] at he
    rcases he with rfl | rfl | rfl
    · trivial
    · exact plain_clientReport
    · trivial

/-- A session reports and ends, and a later one gets its address and ends too. -/
theorem exists_not_keepsOutdates :
    ∃ s ∈ Run.reachable (step (Env.plain .udpsrc) fun _ log ↦ log) (init [] oneUser),
      ¬ s.KeepsOutdates :=
  ⟨_, ⟨[.server 0 (.connect 1 true), clientReport 0 "gst", .server 5 (.close 0),
    .server 6 (.connect 1 true), .server 7 (.close 1)], rfl⟩, by
      unfold KeepsOutdates
      decide +kernel⟩

end Audit

end GstWebrtcCamera

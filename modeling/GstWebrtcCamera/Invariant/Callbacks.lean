import GstWebrtcCamera.Server.Step

/-!
# Callbacks and the sessions they were registered with

The state check timer, the promises and the `play_voice` jobs carry a raw pointer to their session
or to its `webrtcbin`, and nothing cancels them. A registered callback is therefore as good as run:
the state is safe if none has run too late and none that is registered would.

Two events can make a registered callback dangle, a close and the header of the next upload. So the
condition is on these two alone, and it is about what they find registered.
-/

namespace GstWebrtcCamera

namespace Server

variable {env : Env} {s s' : Server}

/-- No callback has run too late, and none that is registered would. -/
def Safe (s : Server) : Prop := s.globals.late = [] ∧ ∀ cb ∈ s.globals.pending, ¬ s.Dangling cb

/-- A close finds nothing of its connection registered, and an upload header no job of it. -/
def Quiescent (s : Server) : Event → Prop
  | .close c =>
    s.aborted = none → c ∈ s.table → ∀ cb ∈ s.globals.pending, cb.owner ≠ c
  | .dcString c root _ =>
    s.aborted = none → c ∈ s.table → ∀ name size, dcCommandOf root = .sendfile name size →
      ∀ transfer, .playVoice c transfer ∉ s.globals.pending
  | _ => True

/-- What is safe about a safe state: whatever callback runs next, none has run too late. -/
theorem safe_iff_fire : s.Safe ↔
    s.globals.late = [] ∧ ∀ cb again, (s.fire cb again).globals.late = [] := by
  refine and_congr_right fun hlate ↦ forall_congr' fun cb ↦ ?_
  by_cases hcb : cb ∈ s.globals.pending
  · by_cases hd : s.Dangling cb
    · simp [fire, hcb, hd]
    · simp [fire, hcb, hd, hlate]
  · simp [fire, hcb, hlate]

/-! ## When a callback dangles -/

theorem dangling_of_none {cb : Callback} (hit : s.table.lookup cb.owner = none) :
    s.Dangling cb := by
  rw [Dangling, hit]
  trivial

theorem dangling_playVoice_iff {c transfer : ℕ} {it : WebrtcItem}
    (hit : s.table.lookup c = some it) :
    s.Dangling (.playVoice c transfer) ↔ it.dcfile.transfer ≠ transfer := by
  simp only [Dangling, Callback.owner, hit]

theorem dangling_congr {cb : Callback}
    (h : (s'.table.lookup cb.owner).map (fun it ↦ it.dcfile.transfer)
      = (s.table.lookup cb.owner).map (fun it ↦ it.dcfile.transfer)) :
    s'.Dangling cb ↔ s.Dangling cb := by
  rw [Dangling, Dangling]
  cases hit' : s'.table.lookup cb.owner with
  | none =>
    rw [hit'] at h
    rw [Option.map_eq_none_iff.mp h.symm]
  | some it' =>
    rw [hit'] at h
    obtain ⟨it, hit, heq⟩ := Option.map_eq_some_iff.mp h.symm
    rw [hit]
    cases cb with
    | playVoice c transfer => exact not_congr (heq ▸ Iff.rfl)
    | _ => rfl

theorem dangling_withItem {c : ℕ} {it it' : WebrtcItem} (hit : s.table.lookup c = some it)
    (hdc : it'.dcfile.transfer = it.dcfile.transfer) (g : Globals) (cb : Callback) :
    (s.withItem c g it').Dangling cb ↔ s.Dangling cb := by
  refine dangling_congr ?_
  by_cases hc : cb.owner = c
  · rw [hc, hit, withItem, AList.lookup_insert, Option.map_some, Option.map_some, hdc]
  · rw [withItem, AList.lookup_insert_ne hc]

/-- A callback of an open connection, for its current transfer if it is about one. -/
theorem not_dangling_of_lookup {cb : Callback} {it : WebrtcItem}
    (hit : s.table.lookup cb.owner = some it)
    (hcb : ∀ c transfer, cb = .playVoice c transfer → it.dcfile.transfer = transfer) :
    ¬ s.Dangling cb := by
  rw [Dangling, hit]
  cases cb with
  | playVoice c transfer => exact not_not.mpr (hcb c transfer rfl)
  | _ => exact id

/-! ## One step -/

theorem Safe.of_eq (h : s.Safe) (hlate : s'.globals.late = s.globals.late)
    (hpending : s'.globals.pending = s.globals.pending)
    (hd : ∀ cb ∈ s.globals.pending, s'.Dangling cb → s.Dangling cb) : s'.Safe := by
  refine ⟨hlate.trans h.1, fun cb hcb hdang ↦ ?_⟩
  rw [hpending] at hcb
  exact h.2 cb hcb (hd cb hcb hdang)

theorem Safe.withItem (h : s.Safe) {c : ℕ} {it it' : WebrtcItem} {g : Globals}
    (cbs : List Callback) (hit : s.table.lookup c = some it)
    (hdc : it'.dcfile.transfer = it.dcfile.transfer) (hlate : g.late = s.globals.late)
    (hpending : g.pending = s.globals.pending ++ cbs)
    (hcbs : ∀ cb ∈ cbs, ¬ s.Dangling cb) : (s.withItem c g it').Safe := by
  refine ⟨hlate.trans h.1, fun cb hcb hdang ↦ ?_⟩
  rw [dangling_withItem hit hdc] at hdang
  rw [Server.withItem, hpending] at hcb
  rcases List.mem_append.mp hcb with hcb | hcb
  · exact h.2 cb hcb hdang
  · exact hcbs cb hcb hdang

theorem Safe.performed (h : s.Safe) (hs : s.Wired env) {c : ℕ} {it : WebrtcItem} {launched : Bool}
    {cmd : Command} {r : Globals × WebrtcItem} (hit : s.table.lookup c = some it)
    (hr : Performed env s.globals it launched cmd r) : (s.withItem c r.1 r.2).Safe := by
  have hconn := (hs.items c it hit).connection
  have hsame := (List.append_nil s.globals.pending).symm
  cases hr with
  | started hrec =>
    obtain ⟨pair, heq⟩ := startRecording_eq env s.globals it launched
    rw [heq]
    exact h.withItem [] hit rfl rfl hsame nofun
  | stopped =>
    rw [stopRecording_eq]
    exact h.withItem [] hit rfl rfl hsame nofun
  | offered hsdp =>
    refine h.withItem [.answerCreated c] hit rfl rfl (by rw [startReceiving, hconn]) ?_
    intro cb hcb
    obtain rfl := List.mem_singleton.mp hcb
    exact not_dangling_of_lookup hit nofun
  | _ => exact h.withItem [] hit rfl rfl hsame nofun

theorem pendingAfter_subset (g : Globals) (cb : Callback) (again : Bool) :
    pendingAfter g cb again ⊆ g.pending := by
  cases cb with
  | checkState c =>
    rw [pendingAfter]
    split_ifs
    · exact fun _ ↦ id
    · exact List.erase_subset
  | _ => exact List.erase_subset

theorem safe_closed_iff (h : s.Safe) {c : ℕ} {g : Globals} (hlate : g.late = s.globals.late)
    (hpending : g.pending = s.globals.pending) :
    ({ s with globals := g, table := s.table.erase c } : Server).Safe
      ↔ ∀ cb ∈ s.globals.pending, cb.owner ≠ c := by
  constructor
  · rintro ⟨-, h'⟩ cb hcb rfl
    refine h' cb (by rw [hpending]; exact hcb) (dangling_of_none ?_)
    exact AList.lookup_erase cb.owner s.table
  · intro hquiet
    refine h.of_eq hlate hpending fun cb hcb ↦ (dangling_congr ?_).mp
    rw [AList.lookup_erase_ne (hquiet cb hcb)]

theorem safe_headed_iff (h : s.Safe) {c : ℕ} {it : WebrtcItem} (hit : s.table.lookup c = some it)
    (name : Option CString) (size fd : ℤ) :
    (s.withItem c s.globals { it with dcfile := (sendfile it.dcfile name size fd).1 }).Safe
      ↔ ∀ transfer, .playVoice c transfer ∉ s.globals.pending := by
  obtain ⟨s', hs'⟩ : ∃ s', s' =
    s.withItem c s.globals { it with dcfile := (sendfile it.dcfile name size fd).1 } := ⟨_, rfl⟩
  have hit' : s'.table.lookup c
      = some { it with dcfile := (sendfile it.dcfile name size fd).1 } := by
    rw [hs']
    exact AList.lookup_insert _
  rw [← hs']
  constructor
  · rintro ⟨-, h'⟩ transfer hmem
    have htransfer : it.dcfile.transfer = transfer := by
      by_contra hne
      exact h.2 _ hmem ((dangling_playVoice_iff hit).mpr hne)
    refine h' (.playVoice c transfer) (hs' ▸ hmem) ((dangling_playVoice_iff hit').mpr ?_)
    rw [← htransfer]
    exact Nat.succ_ne_self _
  · intro hquiet
    refine h.of_eq (by rw [hs']; rfl) (by rw [hs']; rfl) fun cb hcb hd ↦ ?_
    by_cases hc : cb.owner = c
    · -- only a job of `c` depends on the transfer, and none is registered
      refine absurd hd (not_dangling_of_lookup (hc ▸ hit') fun i transfer heq ↦ ?_)
      subst heq
      obtain rfl : i = c := hc
      exact absurd hcb (hquiet transfer)
    · refine (dangling_congr ?_).mp hd
      rw [hs', Server.withItem, AList.lookup_insert_ne hc]

theorem mem_pending_openedGlobals (env : Env) (g : Globals) (c : ℕ) (launched : Bool) :
    ∀ cb ∈ (openedGlobals env g c launched).pending, cb ∈ g.pending ∨ cb = .checkState c := by
  intro cb hcb
  rw [openedGlobals] at hcb
  cases hb : env.backend with
  | appsrc =>
    rw [hb] at hcb
    exact (List.mem_append.mp hcb).imp_right List.mem_singleton.mp
  | udpsrc =>
    rw [hb] at hcb
    exact .inl hcb

theorem Safe.opened (h : s.Safe) (hs : s.Wired env) {g : Globals} {it : WebrtcItem} {n : ℕ}
    (hlate : g.late = s.globals.late)
    (hpending : ∀ cb ∈ g.pending, cb ∈ s.globals.pending ∨ cb = .checkState s.nextConn) :
    Safe { s with globals := g, table := s.table.insert s.nextConn it, nextConn := n } := by
  refine ⟨hlate.trans h.1, fun cb hcb hd ↦ ?_⟩
  rcases hpending cb hcb with hold | rfl
  · have hne : cb.owner ≠ s.nextConn := by
      intro heq
      refine h.2 cb hold (dangling_of_none (AList.lookup_eq_none.mpr fun hmem ↦ ?_))
      exact absurd (hs.fresh _ hmem) (heq ▸ lt_irrefl _)
    refine h.2 cb hold ((dangling_congr ?_).mp hd)
    rw [AList.lookup_insert_ne hne]
  · refine not_dangling_of_lookup (AList.lookup_insert _) ?_ hd
    exact nofun

theorem quiescent_of_not_enabled {e : Event} (he : ¬ s.Enabled e) : s.Quiescent e := by
  cases e with
  | close c => exact fun hlive hc ↦ absurd ⟨hlive, hc⟩ he
  | dcString c root fd => exact fun hlive hc ↦ absurd ⟨hlive, hc⟩ he
  | _ => trivial

/-- **One step.** A safe state stays safe exactly if the event is quiescent. -/
theorem safe_step_iff (hs : s.Wired env) (h : s.Safe) (e : Event) :
    (s.step env e).Safe ↔ s.Quiescent e := by
  have hsame := (List.append_nil s.globals.pending).symm
  have hstep := hs.stepped e
  obtain ⟨s', hs'⟩ : ∃ s', s' = s.step env e := ⟨_, rfl⟩
  rw [← hs'] at hstep ⊢
  cases hstep with
  | stuck he => exact iff_of_true h (quiescent_of_not_enabled he)
  | @opened hashId launched it hlive hit =>
    have hpending := mem_pending_openedGlobals env s.globals s.nextConn launched
    exact iff_of_true (h.opened hs rfl hpending) trivial
  | performed hlive hit hr hcmd => exact iff_of_true (h.performed hs hit hr) trivial
  | untyped hlive hit hcmd =>
    refine iff_of_true (h.of_eq rfl rfl fun _ _ ↦ id) fun _ _ name size heq ↦ ?_
    rw [hcmd] at heq
    contradiction
  | @headed c root fd size name it hlive hit hcmd =>
    have hc : c ∈ s.table := AList.lookup_isSome.mp (by rw [hit]; rfl)
    rw [safe_headed_iff h hit, Quiescent]
    simp only [hlive, hc, forall_const, hcmd]
    exact ⟨fun hquiet _ _ _ ↦ hquiet, fun hquiet ↦ hquiet _ _ rfl⟩
  | controlled hlive hit hcmd log =>
    exact iff_of_true (h.withItem [] hit rfl rfl hsame nofun) fun _ _ name size heq ↦
      absurd heq (hcmd.2 name size)
  | @received c size it hlive hit pos jobs hjobs =>
    refine iff_of_true (h.withItem jobs hit rfl rfl rfl fun cb hcb ↦ ?_) trivial
    rcases hjobs with rfl | rfl
    · exact absurd hcb List.not_mem_nil
    · obtain rfl := List.mem_singleton.mp hcb
      exact not_dangling_of_lookup hit fun i transfer heq ↦ (Callback.playVoice.inj heq).2
  | @negotiated c it hlive hit =>
    refine iff_of_true (h.withItem [.offerCreated c] hit rfl rfl rfl fun cb hcb ↦ ?_)
      trivial
    obtain rfl := List.mem_singleton.mp hcb
    exact not_dangling_of_lookup hit nofun
  | @fired cb again hlive hcb =>
    refine iff_of_true ⟨?_, fun cb' hcb' ↦ ?_⟩ trivial
    · exact (safe_iff_fire.mp h).2 cb again
    · rw [Server.fire, if_pos hcb] at hcb' ⊢
      exact h.2 cb' (pendingAfter_subset _ _ _ hcb')
  | @closed c it hlive hit =>
    have hc : c ∈ s.table := AList.lookup_isSome.mp (by rw [hit]; rfl)
    rw [Quiescent]
    simp only [hlive, hc, forall_const]
    exact safe_closed_iff h rfl rfl
  | watched hlive hb =>
    refine iff_of_true (h.of_eq ?_ ?_ fun _ _ ↦ id) trivial
    · rw [withGlobals, inotifyEvent]
      split_ifs <;> rfl
    · rw [withGlobals, inotifyEvent]
      split_ifs <;> rfl
  | motionLaunched hlive hr =>
    rw [withGlobals, startAppsrcRecord, if_pos hr]
    exact iff_of_true (h.of_eq rfl rfl fun _ _ ↦ id) trivial
  | motionAppended hlive hr =>
    rw [withGlobals, appendAppsrcRecord, if_pos hr]
    exact iff_of_true (h.of_eq rfl rfl fun _ _ ↦ id) trivial
  | motionStopped hlive hr =>
    rw [withGlobals, stopAppsrcRec, if_pos hr]
    exact iff_of_true (h.of_eq rfl rfl fun _ _ ↦ id) trivial
  | _ => exact iff_of_true (h.of_eq rfl rfl fun _ _ ↦ id) trivial

/-- **Callbacks.** In a run no callback runs too late, or is left registered to do so, exactly when
every close finds nothing of its connection registered and every upload header no job of it. -/
theorem always_safe_iff (env : Env) (es : List Event) :
    Run.Always (step env) Safe init es ↔ Run.Meets (step env) Quiescent init es := by
  refine Run.always_iff_meets (I := fun s ↦ s.Wired env ∧ s.Safe)
    ⟨wired_init env, rfl, nofun⟩ (fun s hs ↦ hs.2) ?_ ?_
  · rintro s e ⟨hs, h⟩ hC
    exact ⟨hs.step e, (safe_step_iff hs h e).mpr hC⟩
  · rintro s e ⟨hs, h⟩ hP
    exact (safe_step_iff hs h e).mp hP

/-- The state check runs three seconds after the opening, whether the connection is still open or
not. -/
theorem exists_late :
    ∃ s ∈ Run.reachable (step (Env.plain .appsrc)) init, s.globals.late ≠ [] :=
  ⟨_, ⟨[.connect 1 true, .close 0, .fire (.checkState 0) false], rfl⟩, by decide⟩

end Server

end GstWebrtcCamera

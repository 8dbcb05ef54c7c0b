import GstWebrtcCamera.Server.Step

/-!
# How many clients are connected

`client_limit` is compared with the size of the table where pages are requested, while the table
grows where websockets are opened. The number of entries is therefore bounded by the limit only as
long as every handshake happens to arrive below it.
-/

namespace GstWebrtcCamera

namespace Server

variable {env : Env} {s : Server}

/-- `g_hash_table_size(webrtc_connected_table)`. -/
def clients (s : Server) : ℕ := s.table.keys.length

/-- The table has no more entries than clients are allowed. -/
def WithinLimit (env : Env) (s : Server) : Prop := (s.clients : ℤ) ≤ env.clientLimit

instance (env : Env) (s : Server) : Decidable (s.WithinLimit env) :=
  inferInstanceAs (Decidable (_ ≤ _))

/-- A handshake that arrives below the limit, or any other event. -/
def BelowLimit (env : Env) (s : Server) : Event → Prop
  | .connect _ _ => s.aborted = none → (s.clients : ℤ) < env.clientLimit
  | _ => True

theorem clients_withItem {c : ℕ} {it : WebrtcItem} (hit : s.table.lookup c = some it) (g : Globals)
    (it' : WebrtcItem) : (s.withItem c g it').clients = s.clients := by
  have hc : c ∈ s.table.keys := AList.lookup_isSome.mp (by rw [hit]; rfl)
  have hpos : 0 < s.table.keys.length := List.length_pos_of_mem hc
  rw [clients, withItem, AList.keys_insert, List.length_cons, List.length_erase_of_mem hc, clients]
  omega

theorem clients_opened (hs : s.Wired env) (g : Globals) (it : WebrtcItem) (n : ℕ) :
    ({ s with globals := g, table := s.table.insert s.nextConn it, nextConn := n } : Server).clients
      = s.clients + 1 := by
  have hnew : s.nextConn ∉ s.table.keys := fun h ↦ absurd (hs.fresh _ h) (lt_irrefl _)
  rw [clients, AList.keys_insert, List.length_cons, List.erase_of_not_mem hnew, clients]

theorem clients_step (hs : s.Wired env) (e : Event) :
    (s.step env e).clients ≤ s.clients ∨
      (∃ hashId launched, e = .connect hashId launched) ∧ s.aborted = none ∧
        (s.step env e).clients = s.clients + 1 := by
  have hstep := hs.stepped e
  obtain ⟨s', hs'⟩ : ∃ s', s' = s.step env e := ⟨_, rfl⟩
  rw [← hs'] at hstep ⊢
  cases hstep with
  | @opened hashId launched it hlive hit =>
    exact .inr ⟨⟨hashId, launched, rfl⟩, hlive, clients_opened hs _ it _⟩
  | performed hlive hit hr hcmd => exact .inl (clients_withItem hit _ _).le
  | headed hlive hit hcmd => exact .inl (clients_withItem hit _ _).le
  | controlled hlive hit hcmd log => exact .inl (clients_withItem hit _ _).le
  | received hlive hit hjobs => exact .inl (clients_withItem hit _ _).le
  | negotiated hlive hit => exact .inl (clients_withItem hit _ _).le
  | fired hlive hcb =>
    rw [Server.fire, if_pos hcb]
    exact .inl le_rfl
  | closed hlive hit =>
    refine .inl ?_
    rw [clients, AList.keys_erase, clients]
    exact List.length_erase_le
  | _ => exact .inl le_rfl

theorem clients_connect (hs : s.Wired env) (hlive : s.aborted = none) (hashId : UInt64)
    (launched : Bool) : (s.step env (.connect hashId launched)).clients = s.clients + 1 := by
  obtain ⟨it, -, heq⟩ := soupWebsocketHandler_eq env s hashId launched
  rw [step_of_live hlive, act, heq]
  exact clients_opened hs _ it _

/-- **The client limit.** A run keeps the table within the limit exactly when the limit is not
negative and every handshake arrives below it. -/
theorem always_withinLimit_iff (env : Env) (es : List Event) :
    Run.Always (step env) (WithinLimit env) init es
      ↔ 0 ≤ env.clientLimit ∧ Run.Meets (step env) (BelowLimit env) init es := by
  have hinit : init.WithinLimit env ↔ 0 ≤ env.clientLimit := by
    rw [WithinLimit, show init.clients = 0 from rfl, Int.natCast_zero]
  have hiff : 0 ≤ env.clientLimit → (Run.Always (step env) (WithinLimit env) init es
      ↔ Run.Meets (step env) (BelowLimit env) init es) := by
    intro hlimit
    refine Run.always_iff_meets (I := fun s ↦ s.Wired env ∧ s.WithinLimit env)
      ⟨wired_init env, hinit.mpr hlimit⟩ (fun s hs ↦ hs.2) ?_ ?_
    · rintro s e ⟨hs, hle⟩ hC
      refine ⟨hs.step e, ?_⟩
      rw [WithinLimit] at hle ⊢
      rcases clients_step hs e with h | ⟨⟨hashId, launched, rfl⟩, hlive, h⟩
      · omega
      · have hlt := hC hlive
        omega
    · rintro s e ⟨hs, -⟩ hP
      cases e with
      | connect hashId launched =>
        intro hlive
        rw [WithinLimit, clients_connect hs hlive] at hP
        omega
      | _ => trivial
  constructor
  · intro h
    have hlimit := hinit.mp h.head
    exact ⟨hlimit, (hiff hlimit).mp h⟩
  · rintro ⟨hlimit, h⟩
    exact (hiff hlimit).mpr h

/-- One client is allowed and two get in. -/
theorem exists_beyond_limit :
    ∃ env : Env, ∃ s ∈ Run.reachable (step env) init, ¬ s.WithinLimit env :=
  ⟨{ Env.plain .udpsrc with clientLimit := 1 }, _, ⟨[.connect 1 true, .connect 2 true], rfl⟩,
    by decide⟩

end Server

end GstWebrtcCamera

import GstWebrtcCamera.Page.Connect

/-!
# Which ICE servers an answer uses

The server sends its ICE configuration when a websocket is open, and the peer connection is
constructed before the websocket is. So a peer connection is constructed with what an earlier
websocket has brought, or with nothing. That is right only if the server sends the same again, and
never for the first peer connection.
-/

namespace GstWebrtcCamera

namespace ConnectPage

variable {V : Type*} {served : ℕ → V} {s : ConnectPage V}

/-- What a peer connection was constructed with. -/
def config (s : ConnectPage V) (p : ℕ) : Option V := s.peers[p]?.bind (·.config)

/-- The websocket that brought the last `iceServers` message before it was. -/
def heardBy (s : ConnectPage V) (p : ℕ) : Option ℕ := s.peers[p]?.bind (·.heard)

/-- Every peer connection that has answered an offer was constructed with what the server sends over
the websocket of that offer. -/
def Configured (served : ℕ → V) (s : ConnectPage V) : Prop :=
  ∀ a ∈ s.answers, s.config a.1 = some (served a.2)

/-- If the event makes a peer connection answer, an earlier websocket has brought the same. -/
def Forestalled (served : ℕ → V) (s : ConnectPage V) : ConnectEvent → Prop
  | .described n ok => ∀ k p, s.awaiting[n]? = some (k, p) →
    ∀ a ∈ (s.setRemoteDescription n ok k p).createAnswer,
      ∃ j, s.heardBy a.1 = some j ∧ served j = served a.2
  | _ => True

/-- The page's variable, and what was made from it, is what the last websocket has brought. -/
structure Heard (served : ℕ → V) (s : ConnectPage V) : Prop where
  iceServers : s.iceServers = s.heard.map served
  config : ∀ p, s.config p = (s.heardBy p).map served

/-! ## What an event changes -/

/-- Everything an event can do to peer connections, answers and the ICE configuration. -/
inductive Configures (served : ℕ → V) (s : ConnectPage V) : ConnectEvent → ConnectPage V → Prop
  | quiet {e : ConnectEvent} {s' : ConnectPage V} (hpeers : s'.peers = s.peers)
      (hanswers : s'.answers = s.answers) (hice : s'.iceServers = s.iceServers)
      (hheard : s'.heard = s.heard) (he : s.Forestalled served e) : Configures served s e s'
  | constructed {e : ConnectEvent} {s' : ConnectPage V}
      (hpeers : s'.peers = s.peers ++ [{ config := s.iceServers, heard := s.heard }])
      (hanswers : s'.answers = s.answers) (hice : s'.iceServers = s.iceServers)
      (hheard : s'.heard = s.heard) (he : s.Forestalled served e) : Configures served s e s'
  | told (i : ℕ) : Configures served s (.iceServers i)
      { s with iceServers := some (served i), heard := some i }
  | described {n : ℕ} {ok : Bool} {k p : ℕ} (hn : s.awaiting[n]? = some (k, p)) :
      Configures served s (.described n ok) (s.setRemoteDescription n ok k p).onDescribed

theorem fulfilled_keeps (s : ConnectPage V) (o : Origin) :
    (s.fulfilled o).peers = s.peers ∧ (s.fulfilled o).answers = s.answers ∧
      (s.fulfilled o).iceServers = s.iceServers ∧ (s.fulfilled o).heard = s.heard := by
  cases o with
  | retry => exact ⟨rfl, rfl, rfl, rfl⟩
  | _ =>
    simp only [fulfilled, clearTimeout]
    split <;> exact ⟨rfl, rfl, rfl, rfl⟩

theorem configures (served : ℕ → V) (s : ConnectPage V) (e : ConnectEvent) :
    Configures served s e (s.step served e) := by
  cases e with
  | click =>
    simp only [step]
    split_ifs
    · exact .quiet rfl rfl rfl rfl trivial
    · exact .constructed rfl rfl rfl rfl trivial
  | opened i =>
    simp only [step]
    split
    · rename_i o hi
      obtain ⟨hpeers, hanswers, hice, hheard⟩ :=
        fulfilled_keeps (s.setReadyState i ⟨o, .connecting⟩ .opened) o
      exact .quiet hpeers hanswers hice hheard trivial
    · exact .quiet rfl rfl rfl rfl trivial
  | failed i =>
    simp only [step]
    split
    · rename_i o hi
      cases o <;> exact .quiet rfl rfl rfl rfl trivial
    · exact .quiet rfl rfl rfl rfl trivial
    · exact .quiet rfl rfl rfl rfl trivial
  | closed i =>
    simp only [step]
    split <;> exact .quiet rfl rfl rfl rfl trivial
  | fired t =>
    simp only [step]
    split
    · exact .constructed rfl rfl rfl rfl trivial
    · exact .quiet rfl rfl rfl rfl trivial
  | iceServers i =>
    simp only [step]
    split
    · exact .told i
    · exact .quiet rfl rfl rfl rfl trivial
  | offer i =>
    simp only [step]
    split <;> exact .quiet rfl rfl rfl rfl trivial
  | described n ok =>
    simp only [step]
    split
    · rename_i k p hn
      exact .described hn
    · rename_i hn
      exact .quiet rfl rfl rfl rfl fun k p hkp ↦ absurd (hn.symm.trans hkp) nofun

/-! ## Peer connections keep their configuration -/

theorem config_of_append {s' : ConnectPage V} {q : Peer V} (hpeers : s'.peers = s.peers ++ [q])
    {p : ℕ} {v : V} (hp : s.config p = some v) : s'.config p = some v := by
  obtain ⟨r, hr, hv⟩ := Option.bind_eq_some_iff.mp hp
  obtain ⟨hlt, -⟩ := List.getElem?_eq_some_iff.mp hr
  rw [config, hpeers, List.getElem?_append_left hlt]
  exact hp

theorem bind_setRemoteDescription {β : Type*} {f : Peer V → Option β}
    (hf : ∀ q remote, f { q with remote := remote } = f q) (s : ConnectPage V) (n : ℕ) (ok : Bool)
    (k p i : ℕ) : (s.setRemoteDescription n ok k p).peers[i]?.bind f = s.peers[i]?.bind f := by
  cases ok with
  | false => rfl
  | true =>
    have hmodify : (s.peers.modify p fun q ↦ { q with remote := some k })[i]?.bind f
        = s.peers[i]?.bind f := by
      rw [List.getElem?_modify]
      cases s.peers[i]? with
      | none => rfl
      | some q =>
        simp only [Option.map_eq_map, Option.map_some, Option.bind_some]
        split_ifs
        · exact hf q _
        · rfl
    exact hmodify

theorem config_onDescribed (s : ConnectPage V) (n : ℕ) (ok : Bool) (k p i : ℕ) :
    (s.setRemoteDescription n ok k p).onDescribed.config i = s.config i :=
  bind_setRemoteDescription (fun _ _ ↦ rfl) s n ok k p i

theorem heardBy_onDescribed (s : ConnectPage V) (n : ℕ) (ok : Bool) (k p i : ℕ) :
    (s.setRemoteDescription n ok k p).onDescribed.heardBy i = s.heardBy i :=
  bind_setRemoteDescription (fun _ _ ↦ rfl) s n ok k p i

theorem Heard.step (hs : s.Heard served) (e : ConnectEvent) : (s.step served e).Heard served := by
  have hstep := configures served s e
  obtain ⟨s', hs'⟩ : ∃ s', s' = s.step served e := ⟨_, rfl⟩
  rw [← hs'] at hstep ⊢
  cases hstep with
  | quiet hpeers hanswers hice hheard he =>
    refine ⟨by rw [hice, hheard, hs.iceServers], fun p ↦ ?_⟩
    rw [ConnectPage.config, heardBy, hpeers]
    exact hs.config p
  | constructed hpeers hanswers hice hheard he =>
    refine ⟨by rw [hice, hheard, hs.iceServers], fun p ↦ ?_⟩
    rw [ConnectPage.config, heardBy, hpeers, List.getElem?_append]
    split_ifs
    · exact hs.config p
    · -- the new one is constructed with what the variable holds
      rw [List.getElem?_singleton]
      split_ifs
      · exact hs.iceServers
      · rfl
  | told i => exact ⟨rfl, hs.config⟩
  | described hn =>
    refine ⟨hs.iceServers, fun p ↦ ?_⟩
    rw [config_onDescribed, heardBy_onDescribed]
    exact hs.config p

theorem Heard.config_eq_some_iff (hs : s.Heard served) {p : ℕ} {v : V} :
    s.config p = some v ↔ ∃ j, s.heardBy p = some j ∧ served j = v := by
  rw [hs.config, Option.map_eq_some_iff]

/-- **One event.** -/
theorem Heard.configured_step_iff (hs : s.Heard served) (hc : s.Configured served)
    (e : ConnectEvent) : (s.step served e).Configured served ↔ s.Forestalled served e := by
  have hstep := configures served s e
  obtain ⟨s', hs'⟩ : ∃ s', s' = s.step served e := ⟨_, rfl⟩
  rw [← hs'] at hstep ⊢
  cases hstep with
  | quiet hpeers hanswers hice hheard he =>
    refine iff_of_true (fun a ha ↦ ?_) he
    rw [ConnectPage.config, hpeers]
    exact hc a (hanswers ▸ ha)
  | constructed hpeers hanswers hice hheard he =>
    exact iff_of_true (fun a ha ↦ config_of_append hpeers (hc a (hanswers ▸ ha))) he
  | told i => exact iff_of_true hc trivial
  | @described n ok k p hn =>
    have hanswers : (s.setRemoteDescription n ok k p).onDescribed.answers
        = s.answers ++ (s.setRemoteDescription n ok k p).createAnswer.toList := rfl
    simp only [Configured, hanswers, List.forall_mem_append, Option.mem_toList,
      config_onDescribed, hs.config_eq_some_iff]
    -- the old answers are right as they were, so it depends on the new one
    constructor
    · rintro ⟨-, hnew⟩ k' p' hkp
      obtain ⟨rfl, rfl⟩ := Prod.mk.inj (Option.some_inj.mp (hn.symm.trans hkp))
      exact hnew
    · intro h
      exact ⟨fun a ha ↦ hs.config_eq_some_iff.mp (hc a ha), h k p hn⟩

/-- **ICE servers.** In a run every answer uses the configuration of its own websocket exactly if
each is forestalled by an earlier websocket. -/
theorem always_configured_iff (served : ℕ → V) (es : List ConnectEvent) :
    Run.Always (step served) (Configured served) init es
      ↔ Run.Meets (step served) (Forestalled served) init es :=
  Run.always_iff_meets (I := fun s ↦ s.Heard served ∧ s.Configured served)
    ⟨⟨rfl, fun _ ↦ rfl⟩, fun _ ha ↦ absurd ha List.not_mem_nil⟩ (fun _ hs ↦ hs.2)
    (fun _ e hs he ↦ ⟨hs.1.step e, (hs.1.configured_step_iff hs.2 e).mpr he⟩)
    (fun _ e hs h ↦ (hs.1.configured_step_iff hs.2 e).mp h)

/-- The first connection: the configuration arrives in time for the offer, and too late. -/
theorem exists_not_configured :
    ∃ s ∈ Run.reachable (step fun _ ↦ ()) init, ¬ s.Configured fun _ ↦ () := by
  refine ⟨_, ⟨[.click, .opened 0, .iceServers 0, .offer 0, .described 0 true], rfl⟩, fun h ↦ ?_⟩
  exact absurd (h (0, 0) (by decide)) (by decide)

end ConnectPage

end GstWebrtcCamera

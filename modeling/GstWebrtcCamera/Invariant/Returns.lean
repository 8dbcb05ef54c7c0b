import GstWebrtcCamera.Server.Step

/-!
# Messages that take the server down

Both message handlers are total on wired items but for a few members they use unchecked. The session
state has no part in it: whether a handler returns depends on the message and on what is installed.
`Crashing` and `Untyped` say which messages they are, in terms of their members.
-/

namespace GstWebrtcCamera

open CString Json

/-! ## On the websocket -/

/-- The message gets as far as the description: it is typed `sdp` and its data is typed. A message
with a `cmd` gets there too, if its command is none that is known. -/
def ReachesSdp (root : Object) : Prop :=
  root.hasMember "client" = false ∧ root.getString "type" = some (ofString "sdp") ∧
    (root.hasMember "cmd" = true → root.getString "sdp" ≠ some (ofString "record") ∧
      root.getString "sdp" ≠ some (ofString "talk")) ∧
    (root.getObject "data").hasMember "type" = true

/-- An answer with a member `sdp` that is no string, or anything else but an acceptable offer. -/
def CrashingSdp (env : Env) (data : Object) : Prop :=
  if data.getString "type" = some (ofString "answer") then
    data.hasMember "sdp" = true ∧ data.getString "sdp" = none
  else ¬ Acceptable env (data.getString "sdp")

/-- The websocket messages that take the server down. -/
def Crashing (env : Env) (msg : WsMessage) : Prop :=
  ∃ members, msg = .text (some (.object members)) ∧ ReachesSdp (some members) ∧
    CrashingSdp env (Object.getObject (some members) "data")

variable {env : Env} {root : Object} {type : Option CString}

theorem aborting_dataCommandOf_iff :
    Aborting env (dataCommandOf root type) ↔ type = some (ofString "sdp") ∧
      (root.getObject "data").hasMember "type" = true ∧
        CrashingSdp env (root.getObject "data") := by
  rw [dataCommandOf, CrashingSdp]
  by_cases hsdp : type = some (ofString "sdp")
  · by_cases htype : (root.getObject "data").hasMember "type" = true
    · by_cases hanswer : (root.getObject "data").getString "type" = some (ofString "answer")
      · by_cases hmember : (root.getObject "data").hasMember "sdp" = true
        · simp [hsdp, htype, hanswer, hmember, Aborting]
        · simp [hsdp, htype, hanswer, hmember, Aborting]
      · simp [hsdp, htype, hanswer, Aborting]
    · simp [hsdp, htype, Aborting]
  · refine iff_of_false ?_ fun h ↦ hsdp h.1
    simp only [if_neg hsdp]
    split_ifs <;> exact id

theorem aborting_objectCommandOf_iff :
    Aborting env (objectCommandOf root)
      ↔ ReachesSdp root ∧ CrashingSdp env (root.getObject "data") := by
  rw [objectCommandOf, ReachesSdp]
  by_cases hclient : root.hasMember "client" = true
  · simp [hclient, Aborting]
  by_cases htype : root.hasMember "type" = true
  swap
  · refine iff_of_false (by simp [hclient, htype, Aborting]) ?_
    rintro ⟨⟨-, hsdp, -⟩, -⟩
    exact htype (Object.hasMember_of_getString hsdp)
  simp only [if_neg hclient, htype, not_true_eq_false, if_false]
  -- the command is the member named by the type, which for `sdp` is `sdp`
  have hname : root.getString "type" = some (ofString "sdp") →
      root.getStringMember (root.getString "type") = root.getString "sdp" := by
    intro hsdp
    rw [hsdp, Object.getString]
  by_cases hcmd : root.hasMember "cmd" = true
  · simp only [hcmd, if_true, forall_const]
    by_cases hrecord : root.getStringMember (root.getString "type") = some (ofString "record")
    · rw [if_pos hrecord]
      refine iff_of_false (by split_ifs <;> exact id) ?_
      rintro ⟨⟨-, hsdp, hno, -⟩, -⟩
      exact hno.1 ((hname hsdp).symm.trans hrecord)
    rw [if_neg hrecord]
    by_cases htalk : root.getStringMember (root.getString "type") = some (ofString "talk")
    · rw [if_pos htalk]
      refine iff_of_false (by split_ifs <;> exact id) ?_
      rintro ⟨⟨-, hsdp, hno, -⟩, -⟩
      exact hno.2 ((hname hsdp).symm.trans htalk)
    rw [if_neg htalk, aborting_dataCommandOf_iff]
    constructor
    · rintro ⟨hsdp, hdata, hcrash⟩
      rw [hname hsdp] at hrecord htalk
      exact ⟨⟨Bool.not_eq_true _ ▸ hclient, hsdp, ⟨hrecord, htalk⟩, hdata⟩, hcrash⟩
    · rintro ⟨⟨-, hsdp, -, hdata⟩, hcrash⟩
      exact ⟨hsdp, hdata, hcrash⟩
  · simp only [if_neg hcmd]
    by_cases hdata : root.hasMember "data" = true
    · simp only [hdata, not_true_eq_false, if_false, aborting_dataCommandOf_iff]
      constructor
      · rintro ⟨hsdp, htyped, hcrash⟩
        exact ⟨⟨Bool.not_eq_true _ ▸ hclient, hsdp, fun h ↦ absurd h hcmd, htyped⟩, hcrash⟩
      · rintro ⟨⟨-, hsdp, -, htyped⟩, hcrash⟩
        exact ⟨hsdp, htyped, hcrash⟩
    · rw [if_pos hdata]
      exact iff_of_false id fun h ↦ hdata (Object.hasMember_of_getObject h.1.2.2.2)

theorem aborting_commandOf_iff (msg : WsMessage) :
    Aborting env (commandOf msg) ↔ Crashing env msg := by
  cases msg with
  | binary => exact iff_of_false id nofun
  | text root =>
    simp only [Crashing, WsMessage.text.injEq]
    rw [commandOf, exists_root_iff]
    cases rootObject? root with
    | none => exact iff_of_false id nofun
    | some members =>
      rw [aborting_objectCommandOf_iff]
      simp only [Option.some.injEq, exists_eq_left']

/-- **The websocket handler** returns exactly on the messages that are not crashing. -/
theorem soupWebsocketMessageCb_returns_iff {c : ℕ} {it : WebrtcItem} {g : Globals}
    (h : Wired env c it) (msg : WsMessage) (launched : Bool) :
    (∃ r, soupWebsocketMessageCb env g it msg launched = .ok r) ↔ ¬ Crashing env msg := by
  rw [← aborting_commandOf_iff, soupWebsocketMessageCb]
  rcases perform_cases (g := g) h launched (commandOf msg) with ⟨r, hok, -, hcmd⟩ | ⟨a, herr, hcmd⟩
  · exact iff_of_true ⟨r, hok⟩ hcmd
  · refine iff_of_false ?_ (not_not.mpr hcmd)
    rintro ⟨r, hok⟩
    rw [herr] at hok
    contradiction

/-! ## On the data channel -/

/-- The data channel texts that take the server down: objects without a type. -/
def Untyped (root : Option Json) : Prop :=
  ∃ members, root = some (.object members) ∧
    Object.hasMember (some members) "type" = false

theorem objectDcCommandOf_eq_untyped_iff :
    objectDcCommandOf root = .untyped ↔ root.hasMember "type" = false := by
  rw [objectDcCommandOf]
  by_cases htype : root.hasMember "type" = true
  · simp only [htype, not_true_eq_false, if_false]
    refine iff_of_false ?_ (by simp)
    split_ifs <;> nofun
  · rw [if_pos htype]
    exact iff_of_true rfl (Bool.not_eq_true _ ▸ htype)

theorem dcCommandOf_eq_untyped_iff (root : Option Json) :
    dcCommandOf root = .untyped ↔ Untyped root := by
  rw [dcCommandOf, Untyped, exists_root_iff]
  cases rootObject? root with
  | none => exact iff_of_false nofun nofun
  | some members =>
    rw [objectDcCommandOf_eq_untyped_iff]
    simp only [Option.some.injEq, exists_eq_left']

/-- **The data channel handler** returns exactly on the texts that are not untyped. -/
theorem dataChannelOnMessageString_returns_iff (g : Globals) (it : WebrtcItem) (root : Option Json)
    (fd : ℤ) :
    (∃ r, dataChannelOnMessageString g it root fd = .ok r) ↔ ¬ Untyped root := by
  rw [← dcCommandOf_eq_untyped_iff, dataChannelOnMessageString]
  generalize dcCommandOf root = cmd
  cases cmd with
  | untyped =>
    refine iff_of_false ?_ (not_not.mpr rfl)
    rintro ⟨r, hr⟩
    contradiction
  | sendfile name size => exact iff_of_true ⟨_, rfl⟩ (by simp)
  | _ => exact iff_of_true ⟨_, rfl⟩ (by simp)

/-! ## On the machine -/

namespace Server

variable {s : Server}

/-- A message that is no crashing one, or that there is no open connection for. -/
def Harmless (env : Env) (s : Server) : Event → Prop
  | .message c msg _ => c ∈ s.table → ¬ Crashing env msg
  | .dcString c root _ => c ∈ s.table → ¬ Untyped root
  | _ => True

/-- One step keeps the process alive exactly if the event is harmless. -/
theorem alive_step_iff (hs : s.Wired env) (hlive : s.aborted = none) (e : Event) :
    (s.step env e).aborted = none ↔ s.Harmless env e := by
  have hstep := hs.stepped e
  obtain ⟨s', hs'⟩ : ∃ s', s' = s.step env e := ⟨_, rfl⟩
  rw [← hs'] at hstep ⊢
  cases hstep with
  | stuck he =>
    refine iff_of_true hlive ?_
    cases e with
    | message c msg launched => exact fun hc ↦ absurd ⟨hlive, hc⟩ he
    | dcString c root fd => exact fun hc ↦ absurd ⟨hlive, hc⟩ he
    | _ => trivial
  | performed hl hit hr hcmd =>
    rw [aborting_commandOf_iff] at hcmd
    exact iff_of_true hlive fun _ ↦ hcmd
  | aborted hl hit hcmd =>
    rw [aborting_commandOf_iff] at hcmd
    refine iff_of_false nofun fun h ↦ h ?_ hcmd
    exact AList.lookup_isSome.mp (by rw [hit]; rfl)
  | untyped hl hit hcmd =>
    rw [dcCommandOf_eq_untyped_iff] at hcmd
    refine iff_of_false nofun fun h ↦ h ?_ hcmd
    exact AList.lookup_isSome.mp (by rw [hit]; rfl)
  | headed hl hit hcmd =>
    refine iff_of_true hlive fun _ hun ↦ ?_
    rw [← dcCommandOf_eq_untyped_iff, hcmd] at hun
    contradiction
  | controlled hl hit hcmd log =>
    refine iff_of_true hlive fun _ hun ↦ hcmd.1 ?_
    exact (dcCommandOf_eq_untyped_iff _).mpr hun
  | fired hl hcb =>
    rw [Server.fire, if_pos hcb]
    exact iff_of_true hlive trivial
  | _ => exact iff_of_true hlive trivial

/-- **Staying up.** A run keeps the process alive exactly if all its events are harmless. -/
theorem always_alive_iff (env : Env) (es : List Event) :
    Run.Always (step env) (fun s ↦ s.aborted = none) init es
      ↔ Run.Meets (step env) (Harmless env) init es := by
  refine Run.always_iff_meets (I := fun s ↦ s.Wired env ∧ s.aborted = none)
    ⟨wired_init env, rfl⟩ (fun s hs ↦ hs.2) ?_ ?_
  · rintro s e ⟨hs, hlive⟩ hC
    exact ⟨hs.step e, (alive_step_iff hs hlive e).mpr hC⟩
  · rintro s e ⟨hs, hlive⟩ hP
    exact (alive_step_iff hs hlive e).mp hP

/-- **The handlers return.** In every reachable state and on every open connection, the websocket
handler returns exactly on the messages that are not crashing, and the data channel handler exactly
on the texts that are not untyped. -/
theorem handlers_return_iff (hs : s ∈ Run.reachable (step env) init) {c : ℕ} {it : WebrtcItem}
    (hit : s.table.lookup c = some it) :
    (∀ msg launched, (∃ r, soupWebsocketMessageCb env s.globals it msg launched = .ok r)
        ↔ ¬ Crashing env msg) ∧
      ∀ root fd, (∃ r, dataChannelOnMessageString s.globals it root fd = .ok r)
        ↔ ¬ Untyped root := by
  have hwired := (wired_of_reachable hs).items c it hit
  refine ⟨fun msg launched ↦ ?_, fun root fd ↦ ?_⟩
  · exact soupWebsocketMessageCb_returns_iff hwired msg launched
  · exact dataChannelOnMessageString_returns_iff s.globals it root fd

/-- A record start is not crashing, so the handler returns on a new connection. -/
theorem handlers_return_record_start :
    ∃ it, (Run.exec (step (Env.plain .appsrc)) init [.connect 1 true]).table.lookup 0 = some it ∧
      ∃ r, soupWebsocketMessageCb (Env.plain .appsrc)
        (Run.exec (step (Env.plain .appsrc)) init [.connect 1 true]).globals it
        (pageCommand "record" "start") true = .ok r := by
  have hcmd : ¬ Crashing (Env.plain .appsrc) (pageCommand "record" "start") := by
    rw [← aborting_commandOf_iff, commandOf_record_start]
    exact id
  obtain ⟨it, hit⟩ : ∃ it, (Run.exec (step (Env.plain .appsrc)) init
    [.connect 1 true]).table.lookup 0 = some it := ⟨_, rfl⟩
  exact ⟨it, hit, ((handlers_return_iff ⟨_, rfl⟩ hit).1 _ true).mpr hcmd⟩

/-- An offer without a description. -/
def bareOffer : WsMessage :=
  .text (some (.object [
    (ofString "type", .string (ofString "sdp")),
    (ofString "data", .object [(ofString "type", .string (ofString "offer"))])]))

/-- An offer without a description is read with `strlen`. -/
theorem exists_not_return :
    ∃ s ∈ Run.reachable (step (Env.plain .appsrc)) init, ∃ it, s.table.lookup 0 = some it ∧
      soupWebsocketMessageCb (Env.plain .appsrc) s.globals it bareOffer true
        = .error .strlenNull := by
  refine ⟨_, ⟨[.connect 1 true], rfl⟩, _, rfl, ?_⟩
  have hcmd : commandOf bareOffer = .sdpOffer none := by decide +kernel
  rw [soupWebsocketMessageCb, hcmd]
  rfl

end Server

end GstWebrtcCamera

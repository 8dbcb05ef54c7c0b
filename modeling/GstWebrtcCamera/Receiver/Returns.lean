import GstWebrtcCamera.Receiver.Rtspsrc

/-!
# Which messages the small servers survive

Everything the decision tree does not expect ends in `g_error`, so a message must be complete to be
survived. `Complete` spells out what that takes. Beyond the tree an answer has to parse, a reset has
to end on the camera's controls, and what is asked of the network camera has to be answered.
-/

namespace GstWebrtcCamera

open CString Json

/-- A JSON object with a type and data: an answer with a description, a candidate, or what the
program's last branch takes. -/
def Complete (answer : CString → Prop) (last : Option CString → Object → Prop) :
    WsMessage → Prop
  | .text (some (.object members)) =>
    let root : Object := some members
    let data := root.getObject "data"
    root.hasMember "type" = true ∧ root.hasMember "data" = true ∧
      (root.getString "type" = some (ofString "sdp") ∧
          data.getString "type" = some (ofString "answer") ∧
          (∃ text, data.getString "sdp" = some text ∧ answer text) ∨
        root.getString "type" = some (ofString "ice") ∧ data.hasMember "sdpMLineIndex" = true ∧
          data.hasMember "candidate" = true ∨
        last (root.getString "type") data)
  | _ => False

section

variable {γ : Type} {Q : ReceiverCommand γ → Prop} {last : Option CString → Object → Option γ}
  {L : Option CString → Object → Prop}

theorem sdpCommandOf_iff (hfatal : ¬ Q .fatal) (hnull : ¬ Q (.sdpAnswer none)) (data : Object) :
    Q (sdpCommandOf data) ↔ data.getString "type" = some (ofString "answer") ∧
      ∃ text, data.getString "sdp" = some text ∧ Q (.sdpAnswer (some text)) := by
  rw [sdpCommandOf]
  by_cases htype : data.getString "type" = some (ofString "answer")
  · rw [if_neg (not_not.mpr (Object.hasMember_of_getString htype)), if_neg (not_not.mpr htype),
      and_iff_right htype]
    cases hsdp : data.getString "sdp" with
    | none =>
      refine iff_of_false ?_ (by simp)
      split_ifs
      · exact hnull
      · exact hfatal
    | some text =>
      rw [if_neg (not_not.mpr (Object.hasMember_of_getString hsdp))]
      simp
  · refine iff_of_false ?_ fun h ↦ htype h.1
    split_ifs
    · exact hfatal
    · exact hfatal

theorem iceCommandOf_iff (hfatal : ¬ Q .fatal) (hice : ∀ i c, Q (.ice i c)) (data : Object) :
    Q (iceCommandOf data)
      ↔ data.hasMember "sdpMLineIndex" = true ∧ data.hasMember "candidate" = true := by
  rw [iceCommandOf]
  by_cases hindex : data.hasMember "sdpMLineIndex" = true
  · by_cases hcandidate : data.hasMember "candidate" = true
    · rw [if_neg (not_not.mpr hindex), if_neg (not_not.mpr hcandidate)]
      exact iff_of_true (hice _ _) ⟨hindex, hcandidate⟩
    · rw [if_neg (not_not.mpr hindex), if_pos hcandidate]
      exact iff_of_false hfatal fun h ↦ hcandidate h.2
  · rw [if_pos hindex]
    exact iff_of_false hfatal fun h ↦ hindex h.1

theorem receiverCommandOf_iff (hfatal : ¬ Q .fatal) (hnull : ¬ Q (.sdpAnswer none))
    (hice : ∀ i c, Q (.ice i c)) (hsdp : ∀ data, ¬ L (some (ofString "sdp")) data)
    (hother : ∀ data, ¬ L (some (ofString "ice")) data)
    (hlast : ∀ type root, root.hasMember "data" = true →
      ((∃ command ∈ last type root, Q (.own command)) ↔ L type (root.getObject "data")))
    (msg : WsMessage) :
    Q (receiverCommandOf last msg) ↔ Complete (fun text ↦ Q (.sdpAnswer (some text))) L msg := by
  have hne : some (ofString "ice") ≠ some (ofString "sdp") := by decide +kernel
  rcases msg with - | (- | - | - | - | - | - | - | members) <;> try exact iff_of_false hfatal id
  rw [receiverCommandOf, rootObject?, Complete]
  show Q (objectReceiverCommandOf last (some members)) ↔ _
  rw [objectReceiverCommandOf]
  obtain ⟨root, hroot⟩ : ∃ root : Object, root = some members := ⟨_, rfl⟩
  rw [← hroot]
  by_cases htype : root.hasMember "type" = true
  · by_cases hdata : root.hasMember "data" = true
    · rw [if_neg (not_not.mpr htype), if_neg (not_not.mpr hdata), and_iff_right htype,
        and_iff_right hdata]
      generalize root.getString "type" = type
      by_cases hs : type = some (ofString "sdp")
      · subst hs
        simp only [if_true, hne.symm, false_and, hsdp, or_false, true_and]
        exact sdpCommandOf_iff hfatal hnull _
      · by_cases hi : type = some (ofString "ice")
        · subst hi
          simp only [if_true, hs, if_false, false_and, hother, or_false, false_or, true_and]
          exact iceCommandOf_iff hfatal hice _
        · simp only [hs, hi, if_false, false_and, false_or]
          rw [← hlast type root hdata]
          cases last type root with
          | none => exact iff_of_false hfatal (by simp)
          | some command => simp
    · rw [if_neg (not_not.mpr htype), if_pos hdata]
      exact iff_of_false hfatal fun h ↦ hdata h.2.1
  · rw [if_pos htype]
    exact iff_of_false hfatal fun h ↦ htype h.1

end

/-! ## The two programs -/

variable {sdpParses : CString → Bool} {dev : Option Device}

/-- What `webrtc-sendonly` survives: an answer that parses, a candidate, and a control message,
unless it asks for a reset that does not end. -/
def Sendonly.Survives (sdpParses : CString → Bool) (dev : Option Device) : WsMessage → Prop :=
  Complete (fun text ↦ sdpParses text = true) fun type data ↦
    type = some (ofString "v4l2") ∧
      (data.getBool "reset" = true → ∀ d ∈ dev, ¬ Stalls (d.after V4l2.classUser))

/-- The camera lets the program fetch the stream, or cannot be reached at all. -/
def Camera.Fetches (cam : Camera) : Prop :=
  cam.connects = true → cam.logsIn = true ∧ cam.tellsUrl = true ∧ cam.plays = true

/-- What `rtspsrc-webrtc` survives: an answer that parses when the stream can be fetched, a
candidate, and a control message that the camera obeys or that asks nothing of it. -/
def Rtspsrc.Survives (sdpParses : CString → Bool) (cam : Camera) : WsMessage → Prop :=
  Complete (fun text ↦ sdpParses text = true ∧ cam.Fetches) fun type data ↦
    type = some (ofString "ctrl") ∧ data.hasMember "type" = true ∧
      (data.getString "type" = some (ofString "autotrack") ∨
        0 ≤ Rtspsrc.getNavctrlCmd (data.getString "value") → cam.obeys = true)

theorem remoteAnswer_eq_ok_iff {sdp : Option CString} {u : Unit} :
    remoteAnswer sdpParses sdp = .ok u ↔ ∃ text, sdp = some text ∧ sdpParses text = true := by
  cases sdp with
  | none => simp [remoteAnswer]
  | some text => simp [remoteAnswer]

namespace Sendonly

/-- The handler comes back from doing this. -/
def Returns (sdpParses : CString → Bool) (dev : Option Device) (errno : ℕ)
    (command : ReceiverCommand SendonlyCommand) : Prop :=
  ∃ fuel calls, perform sdpParses dev fuel errno command = some (.ok calls)

theorem returns_sdpAnswer_iff {errno : ℕ} {sdp : Option CString} :
    Returns sdpParses dev errno (.sdpAnswer sdp)
      ↔ ∃ text, sdp = some text ∧ sdpParses text = true := by
  rw [← remoteAnswer_eq_ok_iff (u := ()), Returns]
  cases hanswer : remoteAnswer sdpParses sdp with
  | error a => simp [perform, hanswer, Except.map]
  | ok u => simp [perform, hanswer, Except.map]

theorem returns_resetUserCtrls_iff {errno : ℕ} :
    Returns sdpParses dev errno (.own .resetUserCtrls)
      ↔ ∀ d ∈ dev, ¬ Stalls (d.after V4l2.classUser) := by
  rw [← exists_resetUserCtrls_iff dev errno, Returns]
  refine exists_congr fun fuel ↦ ?_
  cases hreset : resetUserCtrls dev fuel errno with
  | none => simp [perform, hreset]
  | some r => simp [perform, hreset]

theorem returns_commandOf_iff (sdpParses : CString → Bool) (dev : Option Device) (errno : ℕ)
    (msg : WsMessage) :
    Returns sdpParses dev errno (commandOf msg) ↔ Survives sdpParses dev msg := by
  have hne : some (ofString "v4l2") ≠ some (ofString "sdp") ∧
      some (ofString "v4l2") ≠ some (ofString "ice") := by decide +kernel
  have hanswer : (fun text ↦ Returns sdpParses dev errno (.sdpAnswer (some text)))
      = fun text ↦ sdpParses text = true := by
    funext text
    simp [returns_sdpAnswer_iff]
  rw [commandOf, receiverCommandOf_iff (Q := Returns sdpParses dev errno), hanswer, Survives]
  · rintro ⟨fuel, calls, h⟩
    simp [perform] at h
  · rw [returns_sdpAnswer_iff]
    simp
  · exact fun _ _ ↦ ⟨0, [], rfl⟩
  · exact fun data h ↦ hne.1 h.1.symm
  · exact fun data h ↦ hne.2 h.1.symm
  · intro type root hdata
    rw [v4l2Command]
    by_cases htype : type = some (ofString "v4l2")
    · simp only [htype, if_true, hdata, true_and, Option.mem_some_iff, exists_eq_left']
      by_cases hreset : (root.getObject "data").getBool "reset" = true
      · simp only [hreset, if_true, true_imp_iff]
        exact returns_resetUserCtrls_iff
      · simp only [hreset, Bool.false_eq_true, if_false, false_imp_iff]
        exact iff_of_true ⟨0, [], rfl⟩ trivial
    · simp [htype]

end Sendonly

namespace Rtspsrc

/-- The handler comes back from doing this. -/
def Returns (sdpParses : CString → Bool) (g : Relay) (e : ReceiverEntry) (cam : Camera)
    (command : ReceiverCommand RtspsrcCommand) : Prop :=
  ∃ r, perform sdpParses g e cam command = .ok r

variable {g : Relay} {e : ReceiverEntry} {cam : Camera}

theorem exists_startToFetchRtspsrc_iff (g : Relay) (c : ℕ) (cam : Camera) :
    (∃ r, startToFetchRtspsrc g c cam = .ok r) ↔ cam.Fetches := by
  obtain ⟨connects, logsIn, tellsUrl, plays, obeys⟩ := cam
  cases connects <;> cases logsIn <;> cases tellsUrl <;> cases plays <;>
    simp [startToFetchRtspsrc, loginCamera, getRtspUrl, Camera.Fetches, bind, Except.bind, pure,
      Except.pure, throw, throwThe, MonadExceptOf.throw]

theorem control_eq_ok_iff {command : RtspsrcCommand} {u : Unit} :
    control cam command = .ok u ↔ match command with
      | .autotrack _ => cam.obeys = true
      | .navctrl cmd => 0 ≤ getNavctrlCmd cmd → cam.obeys = true := by
  cases command with
  | autotrack value => simp [control]
  | navctrl cmd =>
    rw [control]
    split_ifs with hcmd hobeys
    · simp [Int.not_le.mpr hcmd]
    · simp [hobeys]
    · simp [hobeys, Int.not_lt.mp hcmd]

theorem returns_sdpAnswer_iff {sdp : Option CString} :
    Returns sdpParses g e cam (.sdpAnswer sdp)
      ↔ (∃ text, sdp = some text ∧ sdpParses text = true) ∧ cam.Fetches := by
  rw [← remoteAnswer_eq_ok_iff (u := ()), Returns,
    ← exists_startToFetchRtspsrc_iff (g.stopFetch e.connection e.rtspsrcpipe) e.connection cam]
  cases hanswer : remoteAnswer sdpParses sdp with
  | error a => simp [perform, hanswer, bind, Except.bind]
  | ok u =>
    simp only [perform, hanswer, refetch, bind, Except.bind, true_and]
    cases startToFetchRtspsrc (g.stopFetch e.connection e.rtspsrcpipe) e.connection cam with
    | error a => simp
    | ok r => exact iff_of_true ⟨_, rfl⟩ ⟨_, rfl⟩

theorem returns_own_iff {command : RtspsrcCommand} :
    Returns sdpParses g e cam (.own command) ↔ control cam command = .ok () := by
  rw [Returns]
  cases hcontrol : control cam command with
  | error a => simp [perform, hcontrol, bind, Except.bind]
  | ok u => exact iff_of_true ⟨(g, e), by simp [perform, hcontrol, bind, Except.bind]; rfl⟩ rfl

theorem returns_commandOf_iff (sdpParses : CString → Bool) (g : Relay) (e : ReceiverEntry)
    (cam : Camera) (msg : WsMessage) :
    Returns sdpParses g e cam (commandOf msg) ↔ Survives sdpParses cam msg := by
  have hne : some (ofString "ctrl") ≠ some (ofString "sdp") ∧
      some (ofString "ctrl") ≠ some (ofString "ice") := by decide +kernel
  have hanswer : (fun text ↦ Returns sdpParses g e cam (.sdpAnswer (some text)))
      = fun text ↦ sdpParses text = true ∧ cam.Fetches := by
    funext text
    simp [returns_sdpAnswer_iff]
  rw [commandOf, receiverCommandOf_iff (Q := Returns sdpParses g e cam), hanswer, Survives]
  · rintro ⟨r, h⟩
    simp [perform] at h
  · rw [returns_sdpAnswer_iff]
    simp
  · exact fun _ _ ↦ ⟨(g, e), rfl⟩
  · exact fun data h ↦ hne.1 h.1.symm
  · exact fun data h ↦ hne.2 h.1.symm
  · intro type root hdata
    rw [ctrlCommand]
    by_cases htype : type = some (ofString "ctrl")
    · by_cases hmember : (root.getObject "data").hasMember "type" = true
      · by_cases hauto : (root.getObject "data").getString "type" = some (ofString "autotrack")
        · simp [htype, hmember, hauto, returns_own_iff, control_eq_ok_iff]
        · simp [htype, hmember, hauto, returns_own_iff, control_eq_ok_iff]
      · simp [htype, hmember]
    · simp [htype]

end Rtspsrc

/-- **Messages.** Both handlers come back from exactly the messages that are complete. -/
theorem receivers_return_iff (sdpParses : CString → Bool) (dev : Option Device)
    (errno : ℕ) (g : Relay) (e : ReceiverEntry) (cam : Camera) (msg : WsMessage) :
    ((∃ fuel calls, Sendonly.soupWebsocketMessageCb sdpParses dev fuel errno msg
        = some (.ok calls)) ↔ Sendonly.Survives sdpParses dev msg) ∧
      ((∃ r, Rtspsrc.soupWebsocketMessageCb sdpParses g e cam msg = .ok r)
        ↔ Rtspsrc.Survives sdpParses cam msg) :=
  ⟨Sendonly.returns_commandOf_iff sdpParses dev errno msg,
    Rtspsrc.returns_commandOf_iff sdpParses g e cam msg⟩

/-- An empty object. -/
theorem not_returns_empty :
    ¬ (∃ fuel calls, Sendonly.soupWebsocketMessageCb (fun _ ↦ true) none fuel 0
        (.text (some (.object []))) = some (.ok calls)) ∧
      ¬ ∃ r, Rtspsrc.soupWebsocketMessageCb (fun _ ↦ true) {} { connection := 0, pipeline := 0 } {}
        (.text (some (.object []))) = .ok r := by
  constructor
  · rintro ⟨fuel, calls, h⟩
    exact absurd h nofun
  · rintro ⟨r, h⟩
    exact absurd h nofun

end GstWebrtcCamera

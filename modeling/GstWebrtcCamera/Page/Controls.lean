import GstWebrtcCamera.Server.Upload
import GstWebrtcCamera.Receiver.Message
import Mathlib.Data.List.AList
import Mathlib.Data.Rat.Cast.CharZero
import Mathlib.Tactic.Linarith

/-!
# Camera controls

Both pages have a `sendUserCtrl` for a control that has been moved and a `Reset` button, and write
the message by hand. Each talks to another server: `webrtc.js` to `gwc`, over the data channel, and
`main.js` to `webrtc-sendonly`, over the websocket. What a message makes a server do is a list of
calls into `v4l2ctl.c`, whose arguments are `int`s.

The two pages disagree on the shape of the messages. `main.js` puts everything under `data`, and so
its server cannot tell a control from a reset by the members of the root.
-/

namespace GstWebrtcCamera

open CString Json

/-! ## The calls of a message -/

/-- An argument of `set_ctrl_value`, which is a `gint64` in its callers. -/
def intArg (n : ℤ) : ℤ := (Int32.ofInt n).toInt

/-- The arguments as the callee gets them. -/
def CtrlCall.passed : CtrlCall → CtrlCall
  | .resetUserCtrls => .resetUserCtrls
  | .setCtrlValue id value => .setCtrlValue (intArg id) (intArg value)

def DcCommand.ctrlCalls : DcCommand → List CtrlCall
  | .resetUserCtrls => [.resetUserCtrls]
  | .setCtrlValue id value => [.setCtrlValue id value]
  | _ => []

theorem dataChannelOnMessageString_ctrlLog {g g' : Globals} {it it' : WebrtcItem}
    {root : Option Json} {fd : ℤ} {ops : List FileOp}
    (h : dataChannelOnMessageString g it root fd = .ok (g', it', ops)) :
    g'.ctrlLog = g.ctrlLog ++ (dcCommandOf root).ctrlCalls := by
  unfold dataChannelOnMessageString at h
  cases hcmd : dcCommandOf root <;> rw [hcmd] at h <;> simp at h <;>
    obtain ⟨rfl, -⟩ := h <;> simp [DcCommand.ctrlCalls]

def ReceiverCommand.ctrlCalls : ReceiverCommand SendonlyCommand → List CtrlCall
  | .own .resetUserCtrls => [.resetUserCtrls]
  | .own (.setCtrlValue id value) => [.setCtrlValue id value]
  | _ => []

@[simp] theorem ReceiverCommand.ctrlCalls_own_reset :
    ctrlCalls (.own .resetUserCtrls) = [.resetUserCtrls] := rfl

@[simp] theorem ReceiverCommand.ctrlCalls_own_set (id value : ℤ) :
    ctrlCalls (.own (.setCtrlValue id value)) = [.setCtrlValue id value] := rfl

theorem Sendonly.perform_ctrlCalls {sdpParses : CString → Bool} {dev : Option Device}
    {fuel errno : ℕ} {command : ReceiverCommand SendonlyCommand} {calls : List CtrlCall}
    (h : perform sdpParses dev fuel errno command = some (.ok calls)) :
    calls = command.ctrlCalls := by
  unfold perform at h
  split at h
  · simp at h
  · rename_i sdp
    cases hsdp : remoteAnswer sdpParses sdp <;> simp [hsdp, Except.map] at h
    simp [h, ReceiverCommand.ctrlCalls]
  · simp_all [ReceiverCommand.ctrlCalls]
  · simp_all [ReceiverCommand.ctrlCalls]
  · obtain ⟨_, -, hcalls⟩ := Option.map_eq_some_iff.mp h
    simp_all
  · simp_all

/-! ## The pages -/

/-- A control as the page keeps it. -/
structure UserCtrl where
  id : ℤ
  max : ℤ
  /-- Its range has been moved to start at zero. -/
  converted : Bool
  deriving DecidableEq, Repr

/-- The `input` element of a `change` event. -/
inductive CtrlInput
  | checkbox (checked : Bool)
  /-- What `parseInt` makes of the value of a slider. -/
  | range (value : ℤ)
  deriving DecidableEq, Repr

/-- `sval`. Numbers of the page are rationals here; these have at most one binary digit after the
point. -/
def UserCtrl.sval (ctrl : UserCtrl) : CtrlInput → ℚ
  | .checkbox checked => if checked then 1 else 0
  | .range value => if ctrl.converted then value - (0 - ctrl.max / 2) else value

/-- A number through `JSON.stringify` and the parser. -/
def numberJson (q : ℚ) : Json :=
  if q.den = 1 then .int q.num else .double (q.num.tdiv q.den) true

/-- A page and the server it talks to. -/
inductive CtrlPair
  /-- `webrtc.js` and the data channel of `gwc`. -/
  | webrtc
  /-- `main.js` and the websocket of `webrtc-sendonly`. -/
  | main
  deriving DecidableEq, Repr

namespace CtrlPair

/-- The message for a control. -/
def setText : CtrlPair → ℤ → ℚ → Json
  | webrtc, id, sval => .object [
      (ofString "type", .string (ofString "v4l2")),
      (ofString "ctrl", .object [(ofString "id", .int id), (ofString "value", numberJson sval)])]
  | main, id, sval => .object [
      (ofString "type", .string (ofString "v4l2")),
      (ofString "data", .object [(ofString "id", .int id), (ofString "value", numberJson sval)])]

/-- The message of the `Reset` button. -/
def resetText : CtrlPair → Json
  | webrtc => .object [
      (ofString "type", .string (ofString "v4l2")), (ofString "reset", .bool true)]
  | main => .object [
      (ofString "type", .string (ofString "v4l2")),
      (ofString "data", .object [(ofString "reset", .bool true)])]

/-- The calls a text makes the server do. -/
def calls (pair : CtrlPair) (text : Json) : List CtrlCall :=
  match pair with
  | webrtc => (dcCommandOf (some text)).ctrlCalls.map CtrlCall.passed
  | main => (Sendonly.commandOf (.text (some text))).ctrlCalls.map CtrlCall.passed

/-- `sendUserCtrl`: a loop over all controls, for the one whose key is the id of the element. -/
def sendUserCtrl (pair : CtrlPair) (userCtrls : AList fun _ : String ↦ UserCtrl) (name : String)
    (target : CtrlInput) : List Json :=
  userCtrls.entries.filterMap fun entry ↦
    if entry.1 = name then some (pair.setText entry.2.id (entry.2.sval target)) else none

theorem sendUserCtrl_eq (pair : CtrlPair) (userCtrls : AList fun _ : String ↦ UserCtrl)
    (name : String) (target : CtrlInput) :
    pair.sendUserCtrl userCtrls name target =
      ((userCtrls.lookup name).map fun ctrl ↦ pair.setText ctrl.id (ctrl.sval target)).toList := by
  have hloop : ∀ entries : List (Sigma fun _ : String ↦ UserCtrl),
      entries.filterMap (fun entry ↦
        if entry.1 = name then some (pair.setText entry.2.id (entry.2.sval target)) else none) =
      (List.lookupAll name entries).map fun ctrl ↦ pair.setText ctrl.id (ctrl.sval target) := by
    intro entries
    induction entries with
    | nil => simp
    | cons entry entries ih =>
      obtain ⟨key, ctrl⟩ := entry
      by_cases hkey : key = name
      · subst hkey
        simp [ih]
      · simp [hkey, ih, List.lookupAll_cons_ne entries ⟨key, ctrl⟩ (Ne.symm hkey)]
  rw [sendUserCtrl, hloop, List.lookupAll_eq_dlookup name userCtrls.nodupKeys]
  simp [AList.lookup, Option.toList_map]

/-! ## What the servers make of it -/

theorem calls_reset (pair : CtrlPair) : pair.calls pair.resetText = [.resetUserCtrls] := by
  cases pair <;> decide +kernel

theorem calls_webrtc_set (id : ℤ) (q : ℚ) :
    webrtc.calls (webrtc.setText id q) =
      [.setCtrlValue (intArg id) (intArg (if q.den = 1 then q.num else q.num.tdiv q.den))] := by
  have htype : ofString "type" ≠ ofString "ctrl" ∧ ofString "type" ≠ ofString "reset" ∧
      ofString "v4l2" ≠ ofString "sendfile" := by decide +kernel
  have hctrl : ofString "ctrl" ≠ ofString "reset" ∧ ofString "id" ≠ ofString "value" := by
    decide +kernel
  -- a number with a fraction is cut off by the getter
  by_cases hq : q.den = 1 <;>
    simp [calls, setText, dcCommandOf, rootObject?, objectDcCommandOf, Object.hasMember,
      Object.getString, Object.getStringMember, Object.getObject, Object.getInt, Object.member?,
      List.find?, numberJson, htype, hctrl, hq, DcCommand.ctrlCalls, CtrlCall.passed]

/-- The test for a control is the test for a reset once more, so the second branch is never
taken. -/
theorem calls_main_set (id : ℤ) (q : ℚ) : main.calls (main.setText id q) = [] := by
  have htype : ofString "type" ≠ ofString "data" ∧ ofString "v4l2" ≠ ofString "sdp" ∧
      ofString "v4l2" ≠ ofString "ice" := by decide +kernel
  have hreset : ofString "id" ≠ ofString "reset" ∧ ofString "value" ≠ ofString "reset" := by
    decide +kernel
  simp [calls, setText, Sendonly.commandOf, receiverCommandOf, objectReceiverCommandOf,
    Sendonly.v4l2Command, rootObject?, Object.hasMember, Object.getString,
    Object.getStringMember, Object.getObject, Object.getBool, Object.member?,
    List.find?, htype, hreset, ReceiverCommand.ctrlCalls]

end CtrlPair

/-! ## From a change to a call -/

/-- What a user does to the controls. -/
inductive CtrlChange
  /-- The input named `name` is changed. -/
  | set (userCtrls : AList fun _ : String ↦ UserCtrl) (name : String) (target : CtrlInput)
  | reset

/-- The number is an `int`. -/
def FitsInt (n : ℤ) : Prop := -2 ^ 31 ≤ n ∧ n < 2 ^ 31

theorem intArg_eq_self_iff {n : ℤ} : intArg n = n ↔ FitsInt n := by
  have hbmod : intArg n = n.bmod (2 ^ 32) := Int32.toInt_ofInt
  rw [hbmod, FitsInt, Int.bmod_def]
  omega

/-- The value of the input, as sent, is an `int`. A slider that has been moved to start at zero
sends its position and half its length. -/
def UserCtrl.InRange (ctrl : UserCtrl) : CtrlInput → Prop
  | .checkbox _ => True
  | .range value =>
    if ctrl.converted then 2 ∣ ctrl.max ∧ FitsInt (value + ctrl.max / 2) else FitsInt value

theorem UserCtrl.exists_fitsInt_iff {ctrl : UserCtrl} {target : CtrlInput} :
    (∃ n : ℤ, FitsInt n ∧ (n : ℚ) = ctrl.sval target) ↔ ctrl.InRange target := by
  cases target with
  | checkbox checked =>
    refine iff_of_true ⟨if checked then 1 else 0, ?_, ?_⟩ trivial <;> cases checked <;>
      simp [UserCtrl.sval, FitsInt]
  | range value =>
    cases hconv : ctrl.converted with
    | false => simp [UserCtrl.sval, UserCtrl.InRange, hconv]
    | true =>
      simp only [UserCtrl.sval, UserCtrl.InRange, hconv, if_true]
      constructor
      · rintro ⟨n, hfits, hn⟩
        -- what is sent is a number of halves, and it is whole
        have htwice : ctrl.max = 2 * (n - value) := by
          have : (ctrl.max : ℚ) = ((2 * (n - value) : ℤ) : ℚ) := by
            push_cast
            linarith
          exact_mod_cast this
        have hhalf : value + ctrl.max / 2 = n := by omega
        exact ⟨⟨n - value, htwice⟩, hhalf ▸ hfits⟩
      · rintro ⟨⟨half, hmax⟩, hfits⟩
        refine ⟨value + ctrl.max / 2, hfits, ?_⟩
        have hdiv : ctrl.max / 2 = half := by omega
        rw [hdiv, hmax]
        push_cast
        linarith

namespace CtrlChange

/-- The server calls `set_ctrl_value` with the id of the control and the value of the message, or
`reset_user_ctrls`, and does nothing else to the camera. -/
def Carried (pair : CtrlPair) : CtrlChange → Prop
  | set userCtrls name target => ∀ ctrl ∈ userCtrls.lookup name,
      ∃ value : ℤ, (value : ℚ) = ctrl.sval target ∧
        (pair.sendUserCtrl userCtrls name target).flatMap pair.calls =
          [.setCtrlValue ctrl.id value]
  | reset => pair.calls pair.resetText = [.resetUserCtrls]

/-- A control is changed on the page of `gwc`, and what is sent are `int`s. -/
def Sendable (pair : CtrlPair) : CtrlChange → Prop
  | set userCtrls name target => ∀ ctrl ∈ userCtrls.lookup name,
      pair = .webrtc ∧ FitsInt ctrl.id ∧ ctrl.InRange target
  | reset => True

theorem exists_calls_webrtc_set_iff {id : ℤ} {q : ℚ} :
    (∃ value : ℤ, (value : ℚ) = q ∧
      CtrlPair.webrtc.calls (CtrlPair.webrtc.setText id q) = [.setCtrlValue id value]) ↔
      FitsInt id ∧ ∃ value : ℤ, FitsInt value ∧ (value : ℚ) = q := by
  constructor
  · rintro ⟨value, rfl, hcalls⟩
    simp only [CtrlPair.calls_webrtc_set, Rat.den_intCast, Rat.num_intCast, if_true,
      List.cons.injEq, CtrlCall.setCtrlValue.injEq, and_true] at hcalls
    exact ⟨intArg_eq_self_iff.mp hcalls.1, value, intArg_eq_self_iff.mp hcalls.2, rfl⟩
  · rintro ⟨hid, value, hvalue, rfl⟩
    refine ⟨value, rfl, ?_⟩
    simp [CtrlPair.calls_webrtc_set, intArg_eq_self_iff.mpr hid, intArg_eq_self_iff.mpr hvalue]

theorem carried_iff {pair : CtrlPair} {change : CtrlChange} :
    change.Carried pair ↔ change.Sendable pair := by
  cases change with
  | reset => simp [Carried, Sendable, CtrlPair.calls_reset]
  | set userCtrls name target =>
    refine forall₂_congr fun ctrl hctrl ↦ ?_
    rw [CtrlPair.sendUserCtrl_eq, Option.mem_def.mp hctrl, ← UserCtrl.exists_fitsInt_iff]
    simp only [Option.map_some, Option.toList_some, List.flatMap_singleton]
    cases pair with
    | webrtc => simpa using exists_calls_webrtc_set_iff
    -- no call is made, whatever the number
    | main => simp [CtrlPair.calls_main_set]

/-- A brightness slider. -/
def brightness : UserCtrl := { id := 0x00980900, max := 255, converted := false }

/-- The page of `webrtc-sendonly` moves it to the middle. -/
theorem exists_not_carried : ∃ pair : CtrlPair, ∃ change : CtrlChange, ¬ change.Carried pair := by
  refine ⟨.main, .set (AList.insert "Brightness" brightness ∅) "Brightness" (.range 128), ?_⟩
  intro h
  obtain ⟨value, -, hcalls⟩ := h brightness (AList.lookup_insert ∅)
  rw [CtrlPair.sendUserCtrl_eq, AList.lookup_insert] at hcalls
  simp [CtrlPair.calls_main_set] at hcalls

end CtrlChange

end GstWebrtcCamera

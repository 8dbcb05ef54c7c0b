import GstWebrtcCamera.Server.Message
import GstWebrtcCamera.V4l2.Reset

/-!
# The messages of the two small servers

`webrtc-sendonly` and `rtspsrc-webrtc` have the same `soup_websocket_message_cb` up to the last
branch: `v4l2` in one and `ctrl` in the other. Both report whatever they do not understand with
`g_error`, which does not come back, so the `goto cleanup` after it is never reached.

As for the camera server, what a message asks for is one function and doing it is another.
-/

namespace GstWebrtcCamera

open CString Json

/-- What a message asks for; `γ` are the commands of one of the programs. -/
inductive ReceiverCommand (γ : Type)
  /-- `g_error`. -/
  | fatal
  | sdpAnswer (sdp : Option CString)
  | ice (mlineIndex : UInt32) (candidate : Option CString)
  | own (command : γ)
  deriving DecidableEq

section

variable {γ : Type}

/-- The `sdp` branch. -/
def sdpCommandOf (data : Object) : ReceiverCommand γ :=
  if ¬ data.hasMember "type" then .fatal
  else if data.getString "type" ≠ some (ofString "answer") then .fatal
  else if ¬ data.hasMember "sdp" then .fatal
  else .sdpAnswer (data.getString "sdp")

/-- The `ice` branch. -/
def iceCommandOf (data : Object) : ReceiverCommand γ :=
  if ¬ data.hasMember "sdpMLineIndex" then .fatal
  else if ¬ data.hasMember "candidate" then .fatal
  else .ice (UInt32.ofInt (data.getInt "sdpMLineIndex")) (data.getString "candidate")

/-- The decision tree on a JSON object. The last branch makes a command of a type and the root, or
does not know the type. -/
def objectReceiverCommandOf (last : Option CString → Object → Option γ) (root : Object) :
    ReceiverCommand γ :=
  if ¬ root.hasMember "type" then .fatal
  else if ¬ root.hasMember "data" then .fatal
  else
    let type := root.getString "type"
    if type = some (ofString "sdp") then sdpCommandOf (root.getObject "data")
    else if type = some (ofString "ice") then iceCommandOf (root.getObject "data")
    else
      match last type root with
      | none => .fatal
      | some command => .own command

/-- What a message asks for. -/
def receiverCommandOf (last : Option CString → Object → Option γ) :
    WsMessage → ReceiverCommand γ
  | .binary => .fatal
  | .text root =>
    match rootObject? root with
    | none => .fatal
    | some members => objectReceiverCommandOf last (some members)

end

/-- The answer to the server's offer. -/
def remoteAnswer (sdpParses : CString → Bool) (sdp : Option CString) : Except Abort Unit :=
  match sdp with
  | none => .error .strlenNull
  | some text => if sdpParses text then .ok () else .error .gError

/-! ## `webrtc-sendonly` -/

inductive SendonlyCommand
  | nothing
  | resetUserCtrls
  | setCtrlValue (id value : ℤ)
  deriving DecidableEq

namespace Sendonly

/-- The `v4l2` branch. The two tests are the same, so the second is never made. -/
def v4l2Command (type : Option CString) (root : Object) : Option SendonlyCommand :=
  if type = some (ofString "v4l2") then
    if root.hasMember "data" then
      let ctrl := root.getObject "data"
      some (if ctrl.getBool "reset" then .resetUserCtrls else .nothing)
    else if root.hasMember "data" then
      let ctrl := root.getObject "data"
      some (.setCtrlValue (ctrl.getInt "id") (ctrl.getInt "value"))
    else some .nothing
  else none

def commandOf (msg : WsMessage) : ReceiverCommand SendonlyCommand :=
  receiverCommandOf v4l2Command msg

/-- Do what a message asks for, with the calls into `v4l2ctl.c`. There is no result while one of
them is still running. -/
def perform (sdpParses : CString → Bool) (dev : Option Device) (fuel errno : ℕ) :
    ReceiverCommand SendonlyCommand → Option (Except Abort (List CtrlCall))
  | .fatal => some (.error .gError)
  | .sdpAnswer sdp => some ((remoteAnswer sdpParses sdp).map fun _ ↦ [])
  | .ice _ _ | .own .nothing => some (.ok [])
  | .own .resetUserCtrls =>
    (resetUserCtrls dev fuel errno).map fun _ ↦ .ok [.resetUserCtrls]
  | .own (.setCtrlValue id value) => some (.ok [.setCtrlValue id value])

/-- `soup_websocket_message_cb`. -/
def soupWebsocketMessageCb (sdpParses : CString → Bool) (dev : Option Device) (fuel errno : ℕ)
    (msg : WsMessage) : Option (Except Abort (List CtrlCall)) :=
  perform sdpParses dev fuel errno (commandOf msg)

end Sendonly

/-! ## `rtspsrc-webrtc` -/

inductive RtspsrcCommand
  | autotrack (value : ℤ)
  | navctrl (cmd : Option CString)
  deriving DecidableEq

namespace Rtspsrc

/-- The `ctrl` branch. -/
def ctrlCommand (type : Option CString) (root : Object) : Option RtspsrcCommand :=
  if type = some (ofString "ctrl") then
    let data := root.getObject "data"
    if ¬ data.hasMember "type" then none
    else if data.getString "type" = some (ofString "autotrack") then
      some (.autotrack (data.getInt "value"))
    else some (.navctrl (data.getString "value"))
  else none

def commandOf (msg : WsMessage) : ReceiverCommand RtspsrcCommand :=
  receiverCommandOf ctrlCommand msg

end Rtspsrc

end GstWebrtcCamera

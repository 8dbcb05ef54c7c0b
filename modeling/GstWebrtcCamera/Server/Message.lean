import GstWebrtcCamera.Server.Receive
import GstWebrtcCamera.Server.Recording
import GstWebrtcCamera.Text.Json

/-!
# Websocket messages

`soup_websocket_message_cb` looks at optional members until it knows what a message asks for, and
then does it. The two halves are two functions here: `commandOf` is the decision, with the presence
checks in the order of the source, and `perform` is the action on the session.

The decision does not always check what the action relies on. That a member called `sdp` is there
does not make it a string, and an offer is passed on without even that check.
-/

namespace GstWebrtcCamera

open CString Json

/-- A websocket message: binary, or text with what the JSON parser made of it. -/
inductive WsMessage
  | binary
  | text (root : Option Json)

/-- What a text message asks for. -/
inductive Command
  /-- The `unknown_message` label. -/
  | unknown
  /-- A member is missing, or there is nothing to do. -/
  | ignored
  | client (ip origin path username useragent : Option CString)
  | recordStart
  | recordStop
  | talkStop
  | sdpOffer (sdp : Option CString)
  | sdpAnswer (sdp : Option CString)
  | ice (mlineIndex : UInt32) (candidate : Option CString)
  deriving DecidableEq

/-- The messages with a `data` member, or with a `cmd` nobody knows. -/
def dataCommandOf (root : Object) (type : Option CString) : Command :=
  let data := root.getObject "data"
  if type = some (ofString "sdp") then
    if ¬ data.hasMember "type" then .ignored
    else if data.getString "type" ≠ some (ofString "answer") then .sdpOffer (data.getString "sdp")
    else if ¬ data.hasMember "sdp" then .ignored
    else .sdpAnswer (data.getString "sdp")
  else if type = some (ofString "ice") then
    if ¬ data.hasMember "sdpMLineIndex" then .ignored
    else if ¬ data.hasMember "candidate" then .ignored
    else .ice (UInt32.ofInt (data.getInt "sdpMLineIndex")) (data.getString "candidate")
  else .unknown

/-- The decision tree on a JSON object. -/
def objectCommandOf (root : Object) : Command :=
  if root.hasMember "client" then
    let client := root.getObject "client"
    .client (client.getString "ip") (client.getString "origin") (client.getString "path")
      (client.getString "username") (client.getString "useragent")
  else if ¬ root.hasMember "type" then .ignored
  else
    let type := root.getString "type"
    if root.hasMember "cmd" then
      -- the member named by the type, which is `cmd` in what the page sends
      let cmd := root.getStringMember type
      if cmd = some (ofString "record") then
        if root.getString "arg" = some (ofString "start") then .recordStart else .recordStop
      else if cmd = some (ofString "talk") then
        if root.getString "arg" = some (ofString "stop") then .talkStop else .ignored
      else dataCommandOf root type
    else if ¬ root.hasMember "data" then .ignored
    else dataCommandOf root type

/-- What a message asks for. -/
def commandOf : WsMessage → Command
  | .binary => .unknown
  | .text root =>
    match rootObject? root with
    | none => .unknown
    | some members => objectCommandOf (some members)

/-! ## The actions -/

/-- The `record` start: a running recording is reported, whoever owns it. -/
def recordStart (env : Env) (g : Globals) (it : WebrtcItem) (launched : Bool) :
    Except Abort (Globals × WebrtcItem) :=
  match it.record.getRecState with
  | none => .error .nullCall
  | some .getRecordState =>
    if getRecordState g then .ok (g.send it.connection .recordStarted, it)
    else
      match it.record.start with
      | none => .error .nullCall
      | some start =>
        let (g, record) := start.call env g it.connection it.record launched
        .ok (g, { it with record := record })

/-- Any other `record` command. -/
def recordStop (g : Globals) (it : WebrtcItem) : Except Abort (Globals × WebrtcItem) :=
  match it.record.stop with
  | none => .error .nullCall
  | some stop =>
    let (g, record) := stop.call g it.connection it.record
    .ok (g, { it with record := record })

/-- The `talk` stop, which does check the pointer. -/
def talkStop (g : Globals) (it : WebrtcItem) : Globals × WebrtcItem :=
  match it.recv.stopRecv with
  | none => (g, it)
  | some stop =>
    let (g, recv) := stop.call g it.connection it.recv
    (g, { it with recv := recv })

/-- An SDP message that is not an answer. -/
def sdpOffer (env : Env) (g : Globals) (it : WebrtcItem) (sdp : Option CString) :
    Except Abort (Globals × WebrtcItem) :=
  match it.recv.addremote with
  | none => .error .nullCall
  | some addremote => do
    let (g, it) ← addremote.call env g it
    let g ← handleSdpOffer env g it sdp
    return (g, it)

/-- The answer to the server's own offer goes to `sendbin`, or is dropped if it does not parse. -/
def sdpAnswer (sdp : Option CString) : Except Abort Unit :=
  match sdp with
  | none => .error .strlenNull
  | some _ => .ok ()

/-- The `webrtcbin` an answer is given to, if it parses. -/
def answerTarget (env : Env) (it : WebrtcItem) (sdp : CString) : Option ℕ :=
  if env.sdpParses sdp then it.sendbin else none

/-- The `webrtcbin` a remote ICE candidate is given to. -/
def iceTarget (it : WebrtcItem) : Option ℕ :=
  if it.recv.recvbin.isSome then it.recv.recvbin else it.sendbin

/-- Do what a message asks for. `launched` says whether a pipeline launch in it succeeds. -/
def perform (env : Env) (g : Globals) (it : WebrtcItem) (launched : Bool) :
    Command → Except Abort (Globals × WebrtcItem)
  | .unknown | .ignored => .ok (g, it)
  | .client ip origin path username useragent =>
    .ok (g.addWebrtcAccessLog (.webrtcLog it.hashId ip origin path username useragent), it)
  | .recordStart => recordStart env g it launched
  | .recordStop => recordStop g it
  | .talkStop => .ok (talkStop g it)
  | .sdpOffer sdp => sdpOffer env g it sdp
  -- the answer leaves the process through `answerTarget`, the candidate through `iceTarget`
  | .sdpAnswer sdp => (sdpAnswer sdp).map fun _ ↦ (g, it)
  | .ice _ _ => .ok (g, it)

/-- `soup_websocket_message_cb`. -/
def soupWebsocketMessageCb (env : Env) (g : Globals) (it : WebrtcItem) (msg : WsMessage)
    (launched : Bool) : Except Abort (Globals × WebrtcItem) :=
  perform env g it launched (commandOf msg)

/-! ## What the page sends -/

/-- `{"type": "cmd", "cmd": cmd, "arg": arg}`. -/
def pageCommand (cmd arg : String) : WsMessage :=
  .text (some (.object [
    (ofString "type", .string (ofString "cmd")),
    (ofString "cmd", .string (ofString cmd)),
    (ofString "arg", .string (ofString arg))]))

theorem commandOf_record_start : commandOf (pageCommand "record" "start") = .recordStart := by
  decide +kernel

theorem commandOf_record_stop : commandOf (pageCommand "record" "stop") = .recordStop := by
  decide +kernel

/-- `{"type": "sdp", "data": {"type": type, "sdp": sdp}}`. -/
def pageSdp (type sdp : String) : WsMessage :=
  .text (some (.object [
    (ofString "type", .string (ofString "sdp")),
    (ofString "data", .object [
      (ofString "type", .string (ofString type)),
      (ofString "sdp", .string (ofString sdp))])]))

end GstWebrtcCamera

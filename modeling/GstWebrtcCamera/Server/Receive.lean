import GstWebrtcCamera.Server.State

/-!
# Receiving the page's stream

An SDP offer from the page makes a receive pipeline with its own `webrtcbin`; a `talk` stop or the
close of the connection releases it. `start_recv_webrtcbin` fills three fields of `RecvItem` and
`stop_recv_webrtc` clears two of them.
-/

namespace GstWebrtcCamera

/-- `start_recv_webrtcbin`: a pipeline is always made, its `webrtcbin` must be. -/
def startRecvWebrtcbin (env : Env) (g : Globals) (it : WebrtcItem) :
    Except Abort (Globals × WebrtcItem) :=
  let n := g.nextPipe
  let g := { g with nextPipe := n + 1 }.logRecv it.connection (.acquire n)
  if env.webrtcbin then
    let recv :=
      { it.recv with recvpipe := some n, recvbin := some n, stopRecv := some .stopRecvWebrtc }
    .ok (g, { it with recv := recv })
  else .error .gAssert

/-- `recv.addremote(webrtc_entry)`. -/
def AddRemote.call (f : AddRemote) (env : Env) (g : Globals) (it : WebrtcItem) :
    Except Abort (Globals × WebrtcItem) :=
  match f with
  | startRecvWebrtcbin => GstWebrtcCamera.startRecvWebrtcbin env g it

/-- `stop_recv_webrtc`. Without a pipeline there is nothing to iterate and it returns at once. -/
def stopRecvWebrtc (g : Globals) (c : ℕ) (recv : RecvItem) : Globals × RecvItem :=
  match recv.recvpipe with
  | none => (g, recv)
  | some n => (g.logRecv c (.release n), { recv with recvpipe := none, stopRecv := none })

/-- `recv.stop_recv(&recv)`. -/
def StopRecv.call (f : StopRecv) (g : Globals) (c : ℕ) (recv : RecvItem) : Globals × RecvItem :=
  match f with
  | stopRecvWebrtc => GstWebrtcCamera.stopRecvWebrtc g c recv

/-- `handle_sdp_offer`: the text has to be there and to parse; the answer is created later. -/
def handleSdpOffer (env : Env) (g : Globals) (it : WebrtcItem) (text : Option CString) :
    Except Abort Globals :=
  match text with
  | none => .error .strlenNull
  | some sdp =>
    if env.sdpParses sdp then .ok (g.register (.answerCreated it.connection)) else .error .gAssert

end GstWebrtcCamera

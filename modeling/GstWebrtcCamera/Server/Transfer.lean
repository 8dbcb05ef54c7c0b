import GstWebrtcCamera.Server.Session
import GstWebrtcCamera.Core.Run

/-!
# Uploads over one session

The data channel callbacks of one session, in any order, up to its close. The program keeps one
`dcfile` and forgets what was in it; the session here keeps one record per header, with everything
that happened to the transfer: what arrived, what was written, which calls were made and which
playbacks were queued. The calls of a header or of the close that ends a transfer are still counted
to it, since that is where its descriptor would have to be closed.
-/

namespace GstWebrtcCamera

open CString Json

/-! ## What the page sends -/

/-- `{"type": "sendfile", "file": {"type": .., "size": size, "name": name}}`. -/
def sendfileText (size : ℕ) (name : CString) : Option Json :=
  some (.object [
    (ofString "type", .string (ofString "sendfile")),
    (ofString "file", .object [
      (ofString "type", .string (ofString "audio/ogg; codecs=opus")),
      (ofString "size", .int size),
      (ofString "name", .string name)])])

theorem dcCommandOf_sendfileText (size : ℕ) (name : CString) :
    dcCommandOf (sendfileText size name) = .sendfile (some name) size := by
  have htype : ofString "type" ≠ ofString "file" ∧ ofString "type" ≠ ofString "size" ∧
      ofString "type" ≠ ofString "name" := by decide +kernel
  have hsize : ofString "size" ≠ ofString "name" := by decide +kernel
  simp [dcCommandOf, sendfileText, rootObject?, objectDcCommandOf, Object.hasMember,
    Object.getString, Object.getStringMember, Object.getObject, Object.getInt, Object.member?,
    List.find?, htype, hsize]

/-! ## One session -/

/-- The bytes a call puts into the file, when `chunk` has arrived. -/
def FileOp.written (chunk : List UInt8) : FileOp → List UInt8
  | .write _ size => chunk.take size
  | _ => []

/-- A `sendfile` header and what came of it. -/
structure Transfer where
  /-- The declared size. -/
  size : ℤ
  /-- What `open` returned. -/
  fd : ℤ
  /-- Bytes of the messages that have arrived since. -/
  received : ℕ := 0
  contents : List UInt8 := []
  ops : List FileOp := []
  jobs : List Callback := []
  /-- Another header has replaced it, or the session is closed. -/
  ended : Bool := false
  deriving DecidableEq

/-- A chunk has arrived, and the handler made these calls and queued these jobs. -/
def Transfer.receive (t : Transfer) (chunk : List UInt8) (ops : List FileOp)
    (jobs : List Callback) : Transfer :=
  { t with
    received := t.received + chunk.length
    contents := t.contents ++ ops.flatMap (FileOp.written chunk)
    ops := t.ops ++ ops
    jobs := t.jobs ++ jobs }

/-- The transfer ends, in a handler that makes these calls. -/
def Transfer.finish (t : Transfer) (ops : List FileOp) : Transfer :=
  { t with ended := true, ops := t.ops ++ ops }

/-- A session and its transfers, the latest first. -/
structure Uploads where
  globals : Globals
  item : WebrtcItem
  transfers : List Transfer := []
  /-- The session is closed, or the process is dead. -/
  closed : Bool := false

inductive UploadEvent
  /-- A text; `fd` is what an `open` in it returns. -/
  | string (root : Option Json) (fd : ℤ)
  | data (chunk : List UInt8)
  | close

namespace Uploads

/-- What `data_channel_on_message_string` does to the record. -/
def onString (s : Uploads) (root : Option Json) (fd : ℤ) : Uploads :=
  match dataChannelOnMessageString s.globals s.item root fd with
  | .error _ => { s with closed := true }
  | .ok (g, it, ops) =>
    let transfers :=
      match dcCommandOf root with
      | .sendfile _ size => { size := size, fd := fd } :: s.transfers.modifyHead (·.finish ops)
      | _ => s.transfers
    { s with globals := g, item := it, transfers := transfers }

/-- What `data_channel_on_message_data` does to the record. -/
def onData (s : Uploads) (chunk : List UInt8) : Uploads :=
  let (g, it, ops) := dataChannelOnMessageData s.globals s.item chunk.length
  let jobs := g.pending.drop s.globals.pending.length
  { s with
    globals := g
    item := it
    transfers := s.transfers.modifyHead (·.receive chunk ops jobs) }

/-- `destroy_webrtc_table` makes no call for the transfer. -/
def onClose (s : Uploads) : Uploads :=
  { s with
    globals := (destroyWebrtcTable s.globals s.item).toOption.getD s.globals
    transfers := s.transfers.modifyHead (·.finish [])
    closed := true }

def act (s : Uploads) : UploadEvent → Uploads
  | .string root fd => s.onString root fd
  | .data chunk => s.onData chunk
  | .close => s.onClose

def step (s : Uploads) (e : UploadEvent) : Uploads := if s.closed then s else s.act e

/-- A new session, on whatever server. -/
def init (g : Globals) (it : WebrtcItem) : Uploads := {
  globals := g
  item := { it with dcfile := {} } }

end Uploads

end GstWebrtcCamera

import GstWebrtcCamera.Server.State
import GstWebrtcCamera.Text.Json

/-!
# The data channel

The page sends a voice recording as a `sendfile` header followed by binary messages, and camera
controls as `v4l2` messages. The transfer in progress is the `dcfile` of the connection. What the
callbacks ask of the file system is returned as a list of `FileOp`s.
-/

namespace GstWebrtcCamera

open CString Json

/-- What a data channel text asks for. -/
inductive DcCommand
  /-- The `unknown_message` label. -/
  | unknown
  /-- An object without a `type`. -/
  | untyped
  | ignored
  | sendfile (name : Option CString) (size : ℤ)
  | resetUserCtrls
  | setCtrlValue (id value : ℤ)
  deriving DecidableEq

/-- The decision tree on a JSON object. -/
def objectDcCommandOf (root : Object) : DcCommand :=
  if ¬ root.hasMember "type" then .untyped
  else if root.getString "type" = some (ofString "sendfile") then
    let file := root.getObject "file"
    .sendfile (file.getString "name") (file.getInt "size")
  else if root.getString "type" = some (ofString "v4l2") then
    if root.hasMember "reset" then
      if root.getBool "reset" then .resetUserCtrls else .ignored
    else if root.hasMember "ctrl" then
      let ctrl := root.getObject "ctrl"
      .setCtrlValue (ctrl.getInt "id") (ctrl.getInt "value")
    else .ignored
  else .ignored

/-- What a text on the data channel asks for. -/
def dcCommandOf (root : Option Json) : DcCommand :=
  match rootObject? root with
  | none => .unknown
  | some members => objectDcCommandOf (some members)

/-- A call into the file system. -/
inductive FileOp
  | remove (filename : CString)
  | openFile (filename : CString) (fd : ℤ)
  | write (fd : ℤ) (size : ℕ)
  | close (fd : ℤ)
  deriving DecidableEq

/-- `g_strdup_printf("/tmp/%s", name)`. -/
def tmpFilename (name : Option CString) : CString := cut (lit "/tmp/" ++ percentS name)

/-- The `sendfile` header. `fd` is what `open` returns; the descriptor of an unfinished transfer is
overwritten. -/
def sendfile (dc : DcFile) (name : Option CString) (size fd : ℤ) : DcFile × List FileOp :=
  let filename := tmpFilename name
  let removed := (dc.filename.map FileOp.remove).toList
  ({ fd := fd, filename := some filename, fsize := size, pos := 0, transfer := dc.transfer + 1 },
    removed ++ [.openFile filename fd])

/-- `data_channel_on_message_string`. -/
def dataChannelOnMessageString (g : Globals) (it : WebrtcItem) (root : Option Json) (fd : ℤ) :
    Except Abort (Globals × WebrtcItem × List FileOp) :=
  match dcCommandOf root with
  | .unknown | .ignored => .ok (g, it, [])
  | .untyped => .error .gError
  | .sendfile name size =>
    let (dcfile, ops) := sendfile it.dcfile name size fd
    .ok (g, { it with dcfile := dcfile }, ops)
  | .resetUserCtrls => .ok ({ g with ctrlLog := g.ctrlLog ++ [.resetUserCtrls] }, it, [])
  | .setCtrlValue id value =>
    .ok ({ g with ctrlLog := g.ctrlLog ++ [.setCtrlValue id value] }, it, [])

/-- `data_channel_on_message_data`: the chunk is written whole, and the transfer is complete when
the position hits the size exactly. -/
def dataChannelOnMessageData (g : Globals) (it : WebrtcItem) (size : ℕ) :
    Globals × WebrtcItem × List FileOp :=
  let dc := it.dcfile
  if 0 < dc.fd ∧ dc.pos ≠ dc.fsize then
    let it := { it with dcfile := { dc with pos := dc.pos + size } }
    if dc.pos + size = dc.fsize then
      (g.register (.playVoice it.connection dc.transfer), it, [.write dc.fd size, .close dc.fd])
    else (g, it, [.write dc.fd size])
  else (g, it, [])

/-- The `cmdline` of `play_voice`. -/
def playCmdline (it : WebrtcItem) : List Char :=
  lit "filesrc location=" ++ percentS it.dcfile.filename ++ lit " ! decodebin ! audioconvert"
    ++ lit " ! audioecho delay=50000000 intensity=0.6 feedback=0.4 ! autoaudiosink"

end GstWebrtcCamera

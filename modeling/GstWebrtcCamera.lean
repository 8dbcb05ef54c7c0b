import GstWebrtcCamera.Core.Run
import GstWebrtcCamera.Core.Table
import GstWebrtcCamera.Core.Lifecycle
import GstWebrtcCamera.Core.Ownership
import GstWebrtcCamera.Core.Registry
import GstWebrtcCamera.Core.Mirror
import GstWebrtcCamera.Core.Binary
import GstWebrtcCamera.Core.CInt
import GstWebrtcCamera.Core.Iteration
import GstWebrtcCamera.Core.Flow
import GstWebrtcCamera.Core.Bytes
import GstWebrtcCamera.Core.Store
import GstWebrtcCamera.Text.CString
import GstWebrtcCamera.Text.SqlLex
import GstWebrtcCamera.Text.Path
import GstWebrtcCamera.Text.FileTree
import GstWebrtcCamera.Text.Json
import GstWebrtcCamera.Text.Launch
import GstWebrtcCamera.Text.Search
import GstWebrtcCamera.Sql.Statements
import GstWebrtcCamera.Sql.Database
import GstWebrtcCamera.Http.Request
import GstWebrtcCamera.Http.Serve
import GstWebrtcCamera.Http.Replace
import GstWebrtcCamera.Http.Digest
import GstWebrtcCamera.Http.Faults
import GstWebrtcCamera.Http.Login
import GstWebrtcCamera.Http.Accounts
import GstWebrtcCamera.V4l2.Reset
import GstWebrtcCamera.V4l2.Outcome
import GstWebrtcCamera.V4l2.Capture
import GstWebrtcCamera.V4l2.Select
import GstWebrtcCamera.V4l2.Listing
import GstWebrtcCamera.Media.Encoder
import GstWebrtcCamera.Media.Codec
import GstWebrtcCamera.Media.Mkdir
import GstWebrtcCamera.Media.Durations
import GstWebrtcCamera.Pipeline.Calls
import GstWebrtcCamera.Pipeline.Stages
import GstWebrtcCamera.Pipeline.Forest
import GstWebrtcCamera.Pipeline.Locals
import GstWebrtcCamera.Pipeline.Branch
import GstWebrtcCamera.Pipeline.Served
import GstWebrtcCamera.Pipeline.Faults
import GstWebrtcCamera.Server.State
import GstWebrtcCamera.Server.Sample
import GstWebrtcCamera.Server.Recording
import GstWebrtcCamera.Server.Motion
import GstWebrtcCamera.Server.Inotify
import GstWebrtcCamera.Server.Receive
import GstWebrtcCamera.Server.StopRecv
import GstWebrtcCamera.Server.Message
import GstWebrtcCamera.Server.Upload
import GstWebrtcCamera.Server.Session
import GstWebrtcCamera.Server.Transfer
import GstWebrtcCamera.Server.Machine
import GstWebrtcCamera.Server.Wired
import GstWebrtcCamera.Server.Step
import GstWebrtcCamera.Server.Audit
import GstWebrtcCamera.Receiver.Message
import GstWebrtcCamera.Receiver.Rtspsrc
import GstWebrtcCamera.Receiver.Returns
import GstWebrtcCamera.Receiver.Entries
import GstWebrtcCamera.Receiver.Serve
import GstWebrtcCamera.Invariant.Clients
import GstWebrtcCamera.Invariant.Recording
import GstWebrtcCamera.Invariant.Motion
import GstWebrtcCamera.Invariant.Receive
import GstWebrtcCamera.Invariant.Registry
import GstWebrtcCamera.Invariant.Callbacks
import GstWebrtcCamera.Invariant.Returns
import GstWebrtcCamera.Invariant.Upload
import GstWebrtcCamera.Invariant.Confined
import GstWebrtcCamera.Invariant.Playback
import GstWebrtcCamera.Invariant.Online
import GstWebrtcCamera.Invariant.Outdate
import GstWebrtcCamera.Page.Signalling
import GstWebrtcCamera.Page.Record
import GstWebrtcCamera.Page.Voice
import GstWebrtcCamera.Page.Controls
import GstWebrtcCamera.Page.Slider
import GstWebrtcCamera.Page.Connect
import GstWebrtcCamera.Page.Reconnect
import GstWebrtcCamera.Page.IceServers
import GstWebrtcCamera.Page.Codec
import GstWebrtcCamera.Page.Chunks

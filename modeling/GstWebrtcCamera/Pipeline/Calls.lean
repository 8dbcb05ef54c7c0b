import GstWebrtcCamera.Core.Flow
import GstWebrtcCamera.Media.Encoder

/-!
# Building a pipeline

The functions of `gst-app.c` that build the pipeline are straight lines of calls, with a way out
where an element is missing. An element is named after the C variable that holds it, in the function
that makes it. A variable may hold `NULL`, which many of the calls take for the end of their
arguments.
-/

namespace GstWebrtcCamera

/-! ## Elements -/

/-- The functions that make elements. -/
inductive Stage where
  | videoSrc | encoderSrc | audioSrc | splitfile | udpMulticast | avHls | edgeHls | cvtrackerHls
  | facedetectHls | motionHls | avAppsink | avUdpsink
  deriving DecidableEq, Repr

/-- Their variables. -/
inductive Var where
  | source | capsfilter | teesrc | queue | jpegparse | jpegdec | vapp | encoder | videoconvert
  | clock | textoverlay | h264Caps | amp | postconv | enc | filter | splitmuxsink | videoparse
  | vqueue | aqueue | udpsink | cparse | rtpmp2tpay | mpegtsmux | hlssink | opusparse | preConvert
  | postConvert | postQueue | motioncells | cvtracker | facedetect | edgedetect | videoSink
  | audioSink | videoPay | audioPay
  deriving DecidableEq, Repr

/-- An element, by the variable that holds it. -/
structure Elem where
  stage : Stage
  var : Var
  deriving DecidableEq, Repr

/-- What an element is put into: the pipeline, or the bin of `udp_multicastsink`. -/
inductive Parent where
  | pipeline
  | udpBin
  deriving DecidableEq, Repr

/-- What the machine has to offer. -/
structure GstEnv extends EncoderEnv where
  /-- Two elements of one parent have pads that go together. -/
  accepts : Elem → Elem → Bool

/-- What has been built. -/
structure Pipeline where
  /-- The variables that have a value: the factory of their element, or `NULL`. -/
  values : List (Elem × Option CString) := []
  members : List (Elem × Parent) := []
  /-- The bin is in the pipeline. -/
  udpBin : Bool := false
  links : List (Elem × Elem) := []

namespace Pipeline

variable (p : Pipeline)

def value (e : Elem) : Option (Option CString) := p.values.lookup e

/-- The variable holds an element. -/
def holds (e : Elem) : Bool := (p.value e).any Option.isSome

/-- `GST_OBJECT_PARENT`. -/
def parent (e : Elem) : Option Parent := p.members.lookup e

def linkable (env : GstEnv) (a b : Elem) : Bool := p.parent a = p.parent b && env.accepts a b

def set (e : Elem) (v : Option CString) : Pipeline := { p with values := (e, v) :: p.values }

def add (parent : Parent) (es : List Elem) : Pipeline :=
  { p with members := p.members ++ es.map (·, parent) }

def link (a b : Elem) : Pipeline := { p with links := p.links ++ [(a, b)] }

end Pipeline

/-! ## Calls -/

/-- The calls, on the variables of a function. -/
inductive Call where
  /-- `v = gst_element_factory_make(factory, NULL)`. -/
  | factoryMake (v : Var) (factory : CString)
  /-- `v = NULL`. -/
  | setNull (v : Var)
  /-- `if (!v || ..) return`. -/
  | require (vs : List Var)
  | assertNonnull (v : Var)
  | binAddMany (parent : Parent) (vs : List Var)
  /-- `gst_bin_add(pipeline, bin)`. -/
  | binAddBin
  /-- `if (!gst_element_link_many(vs..))`, with `g_error` or `return` behind it. -/
  | linkMany (vs : List Var) (fatal : Bool)
  /-- `link_request_src_pad`. -/
  | linkRequestSrcPad (src : Elem) (dst : Var)
  /-- `link_request_src_pad_with_dst_name`: the pad of the bin is the one of this element. -/
  | linkRequestSrcPadWithDstName (src : Elem) (dst : Var)
  /-- `get_video_driver_name`, with `g_error` if the camera cannot be asked. -/
  | getVideoDriverName
  deriving DecidableEq

/-- How the program may come to an end in a call. -/
inductive BuildFault where
  /-- `g_error` or `g_assert`. -/
  | abort
  /-- A `NULL` pointer is followed. -/
  | crash
  /-- A variable without a value is read. -/
  | undefined
  deriving DecidableEq, Repr

/-- What a call does to the function that makes it. -/
inductive BuildOutcome where
  | goesOn (p : Pipeline)
  /-- The function returns -1, or `NULL`. -/
  | leaves (p : Pipeline)
  | faults (f : BuildFault)

/-- The loop of `gst_element_link_many`, up to the end of the arguments. -/
def linkLoop (env : GstEnv) (p : Pipeline) (a : Elem) : List Elem → Pipeline × Bool
  | [] => (p, true)
  | b :: rest =>
    if p.holds b then
      if p.linkable env a b then linkLoop env (p.link a b) b rest else (p, false)
    else (p, true)

/-- `gst_element_link_many`. -/
def elementLinkMany (env : GstEnv) (p : Pipeline) : List Elem → Pipeline × Bool
  | a :: b :: rest =>
    if p.holds a && p.holds b then linkLoop env p a (b :: rest) else (p, false)
  | _ => (p, false)

/-- Both functions that request a pad. They report a link that is refused, and so read the name of
a pad that is not there when an element is `NULL`. -/
def requestLink (p : Pipeline) (src dst : Elem) (links : Bool) : BuildOutcome :=
  match p.value src, p.value dst with
  | some (some _), some (some _) => .goesOn (if links then p.link src dst else p)
  | none, _ | _, none => .faults .undefined
  | _, _ => .faults .crash

def Call.exec (env : GstEnv) (s : Stage) (p : Pipeline) : Call → BuildOutcome
  | factoryMake v f => .goesOn (p.set ⟨s, v⟩ (if env.installed f then some f else none))
  | setNull v => .goesOn (p.set ⟨s, v⟩ none)
  | require vs => if vs.all fun v ↦ p.holds ⟨s, v⟩ then .goesOn p else .leaves p
  | assertNonnull v => if p.holds ⟨s, v⟩ then .goesOn p else .faults .abort
  | binAddMany parent vs =>
    .goesOn (p.add parent ((vs.map (⟨s, ·⟩ : Var → Elem)).takeWhile p.holds))
  | binAddBin => .goesOn { p with udpBin := true }
  | linkMany vs fatal =>
    if vs.any fun v ↦ (p.value ⟨s, v⟩).isNone then .faults .undefined
    else
      match elementLinkMany env p (vs.map (⟨s, ·⟩)) with
      | (p, true) => .goesOn p
      | (p, false) => if fatal then .faults .abort else .leaves p
  | linkRequestSrcPad src dst => requestLink p src ⟨s, dst⟩ (p.linkable env src ⟨s, dst⟩)
  | linkRequestSrcPadWithDstName src dst =>
    requestLink p src ⟨s, dst⟩
      (p.parent src = some .pipeline && p.udpBin && env.accepts src ⟨s, dst⟩)
  | getVideoDriverName => if env.driver.isSome then .goesOn p else .faults .abort

/-- The calls of a function, one after the other. -/
def runCalls (env : GstEnv) (s : Stage) : List Call → Pipeline → BuildOutcome
  | [], p => .goesOn p
  | c :: cs, p =>
    match c.exec env s p with
    | .goesOn p => runCalls env s cs p
    | o => o

/-- `MAKE_ELEMENT_AND_ADD`. -/
def makeElementAndAdd (v : Var) (factory : CString) : List Call :=
  [.factoryMake v factory, .require [v], .binAddMany .pipeline [v]]

/-- `SUB_BIN_MAKE_ELEMENT_AND_ADD`. -/
def subBinMakeElementAndAdd (v : Var) (factory : CString) : List Call :=
  [.factoryMake v factory, .require [v], .binAddMany .udpBin [v]]

end GstWebrtcCamera

import GstWebrtcCamera.Pipeline.Calls
import GstWebrtcCamera.Media.Codec

/-!
# The functions that build the pipeline

Each function is the list of its calls, which depends on the configuration and on what
`gst_element_factory_find` says. The sources end in a `tee`, and the other functions link a branch to
one of these.
-/

namespace GstWebrtcCamera

open CString

/-- What the functions read of `config_data`. -/
structure PipelineConfig where
  /-- `v4l2src_data.type`. -/
  type : CString
  videnc : CString
  sysinfo : Bool
  audioEnable : Bool
  /-- `hls.showtext`. -/
  showtext : Bool
  splitfileSink : Bool
  udp : Bool
  avHlssink : Bool
  edgeHlssink : Bool
  cvtrackerHlssink : Bool
  facedetectHlssink : Bool
  motionHlssink : Bool
  appSink : Bool
  webrtc : Bool

/-! ## The sources -/

/-- What `get_video_src` returns, which becomes `video_source`. -/
def videoSource : Elem := ⟨.videoSrc, .teesrc⟩

/-- What `get_encoder_src` returns, which becomes `video_encoder`. -/
def videoEncoder : Elem := ⟨.encoderSrc, .teesrc⟩

/-- What `get_audio_src` returns, which becomes `audio_source`. -/
def audioSource : Elem := ⟨.audioSrc, .teesrc⟩

/-- Making and adding an encoder that may not be there. -/
def addEncoder (encoder : Option BuiltEncoder) : List Call :=
  match encoder with
  | some e => [.factoryMake .encoder e.factory, .binAddMany .pipeline [.encoder]]
  | none => [.setNull .encoder]

/-- The function of a family of encoders, which may ask for the driver of the camera. -/
def encoderCalls (env : GstEnv) (family : EncoderFamily) : List Call :=
  (if family = .h264 ∧ asksDriver env.toEncoderEnv then [.getVideoDriverName] else []) ++
  addEncoder (family.build env.toEncoderEnv)

/-- No hardware decodes the images of the camera. -/
def softwareDecodes (env : GstEnv) : Bool :=
  !env.installed (ofString "vajpegdec") && !env.installed (ofString "vaapijpegdec")

def jpegDecoder (env : GstEnv) : CString :=
  if env.installed (ofString "vajpegdec") then ofString "vajpegdec"
  else if env.installed (ofString "vaapijpegdec") then ofString "vaapijpegdec"
  else ofString "jpegdec"

/-- `vaapipostproc`, if there is one. -/
def postproc (env : GstEnv) : List Var :=
  if env.installed (ofString "vaapipostproc") then [.vapp] else []

def postprocCalls (env : GstEnv) : List Call :=
  if env.installed (ofString "vaapipostproc") then
    [.factoryMake .vapp (ofString "vaapipostproc"), .binAddMany .pipeline [.vapp]]
  else []

/-- The part of `get_video_src` for a camera that sends images. `jpegparse` is looked for with the
decoder in software only. -/
def jpegCalls (env : GstEnv) : List Call :=
  let parses := softwareDecodes env && env.installed (ofString "jpegparse")
  [.factoryMake .jpegdec (jpegDecoder env)] ++
  (if softwareDecodes env then [.factoryMake .jpegparse (ofString "jpegparse")] else []) ++
  [.require [.jpegdec], .binAddMany .pipeline [.jpegdec]] ++
  (if parses then [.binAddMany .pipeline [.jpegparse]] else []) ++ postprocCalls env ++
  [.linkMany ([.source, .capsfilter] ++ (if parses then [.jpegparse] else []) ++ [.jpegdec] ++
    postproc env ++ [.queue, .teesrc]) true]

def rawCalls (env : GstEnv) : List Call :=
  postprocCalls env ++
  [.linkMany ([.source, .capsfilter] ++ postproc env ++ [.queue, .teesrc]) true]

/-- `get_video_src`. -/
def getVideoSrc (env : GstEnv) (cfg : PipelineConfig) : List Call :=
  [.factoryMake .capsfilter (ofString "capsfilter"), .factoryMake .teesrc (ofString "tee"),
    .factoryMake .source (ofString "v4l2src"), .factoryMake .queue (ofString "queue"),
    .require [.teesrc, .source, .capsfilter, .queue],
    .binAddMany .pipeline [.source, .capsfilter, .teesrc, .queue]] ++
  if (lit "image").isPrefixOf cfg.type.chars then jpegCalls env else rawCalls env

def isH264 (cfg : PipelineConfig) : Bool := (lit "h264").isPrefixOf cfg.videnc.chars

/-- `get_encoder_src`. -/
def getEncoderSrc (env : GstEnv) (cfg : PipelineConfig) : List Call :=
  let overlay : List Var := if cfg.sysinfo then [.textoverlay, .clock] else [.clock]
  let caps : List Var := if isH264 cfg then [.h264Caps] else []
  encoderCalls env (videoEncoderFamily cfg.videnc) ++
  [.require [.encoder], .factoryMake .teesrc (ofString "tee"),
    .factoryMake .videoconvert (ofString "videoconvert"),
    .factoryMake .clock (ofString "clockoverlay"),
    .binAddMany .pipeline [.clock, .teesrc, .videoconvert]] ++
  (if cfg.sysinfo then
    [.factoryMake .textoverlay (ofString "textoverlay"), .assertNonnull .textoverlay,
      .binAddMany .pipeline [.textoverlay]]
  else []) ++
  -- `get_h264_caps`, among the arguments
  (if isH264 cfg then
    [.factoryMake .h264Caps (ofString "capsfilter"), .binAddMany .pipeline [.h264Caps]]
  else []) ++
  [.linkMany ([.videoconvert] ++ overlay ++ [.encoder] ++ caps ++ [.teesrc]) false,
    .linkRequestSrcPad videoSource .videoconvert]

/-- The factory that `get_audio_device` takes. -/
def getAudioDevice (env : GstEnv) : CString :=
  if env.installed (ofString "pipewiresrc") then ofString "pipewiresrc"
  else if env.installed (ofString "pulsesrc") then ofString "pulsesrc"
  else ofString "alsasrc"

/-- `get_audio_src`. -/
def getAudioSrc (env : GstEnv) : List Call :=
  [.factoryMake .teesrc (ofString "tee"), .factoryMake .source (getAudioDevice env),
    .factoryMake .amp (ofString "ladspa-amp-so-amp-stereo"),
    .factoryMake .postconv (ofString "audioconvert"), .factoryMake .enc (ofString "opusenc"),
    .factoryMake .filter (ofString "ladspa-sine-so-sine-faaa"),
    .require [.teesrc, .source, .amp, .postconv, .enc, .filter],
    .binAddMany .pipeline [.source, .teesrc, .amp, .enc, .postconv, .filter],
    .linkMany [.source, .amp, .filter, .postconv, .enc, .teesrc] true]

/-! ## The branches -/

/-- `splitfile_sink`. -/
def splitfileSink (env : GstEnv) : List Call :=
  encoderCalls env .h264 ++
  makeElementAndAdd .splitmuxsink (ofString "splitmuxsink") ++
  makeElementAndAdd .videoparse (ofString "h264parse") ++
  makeElementAndAdd .vqueue (ofString "queue") ++
  makeElementAndAdd .clock (ofString "clockoverlay") ++
  makeElementAndAdd .textoverlay (ofString "textoverlay") ++
  [.linkMany [.vqueue, .clock, .textoverlay, .encoder, .videoparse, .splitmuxsink] true,
    .linkRequestSrcPad videoSource .vqueue]

/-- `udp_multicastsink`, with or without an `audio_source`. -/
def udpMulticastsink (audio : Bool) : List Call :=
  subBinMakeElementAndAdd .udpsink (ofString "udpsink") ++
  subBinMakeElementAndAdd .cparse (ofString "h264parse") ++
  subBinMakeElementAndAdd .rtpmp2tpay (ofString "rtpmp2tpay") ++
  subBinMakeElementAndAdd .vqueue (ofString "queue") ++
  subBinMakeElementAndAdd .mpegtsmux (ofString "mpegtsmux") ++
  [.linkMany [.vqueue, .cparse, .mpegtsmux, .rtpmp2tpay, .udpsink] true, .binAddBin] ++
  (if audio then
    subBinMakeElementAndAdd .aqueue (ofString "queue") ++
    [.linkMany [.aqueue, .mpegtsmux] true, .linkRequestSrcPadWithDstName audioSource .aqueue]
  else []) ++
  [.linkRequestSrcPadWithDstName videoEncoder .vqueue]

/-- `av_hlssink`. The branch is linked to an encoder of its own. -/
def avHlssink (env : GstEnv) (audio : Bool) : List Call :=
  encoderCalls env .h264 ++
  makeElementAndAdd .hlssink (ofString "hlssink") ++
  makeElementAndAdd .videoparse (ofString "h264parse") ++
  makeElementAndAdd .vqueue (ofString "queue") ++
  makeElementAndAdd .mpegtsmux (ofString "mpegtsmux") ++
  [.linkMany [.vqueue, .videoparse, .mpegtsmux, .hlssink] true,
    .linkRequestSrcPad ⟨.avHls, .encoder⟩ .vqueue] ++
  if audio then
    makeElementAndAdd .aqueue (ofString "queue") ++
    makeElementAndAdd .opusparse (ofString "opusparse") ++
    [.linkMany [.aqueue, .opusparse, .mpegtsmux] true, .linkRequestSrcPad audioSource .aqueue]
  else []

/-- `edgedect_hlssink`. Without the text there is no muxer in the chain. -/
def edgedectHlssink (env : GstEnv) (cfg : PipelineConfig) : List Call :=
  makeElementAndAdd .hlssink (ofString "hlssink") ++
  makeElementAndAdd .videoparse (ofString "h264parse") ++
  makeElementAndAdd .postQueue (ofString "queue") ++
  makeElementAndAdd .preConvert (ofString "videoconvert") ++
  makeElementAndAdd .postConvert (ofString "videoconvert") ++
  makeElementAndAdd .edgedetect (ofString "edgedetect") ++
  makeElementAndAdd .mpegtsmux (ofString "mpegtsmux") ++
  makeElementAndAdd .clock (ofString "clockoverlay") ++
  encoderCalls env .h264 ++
  (if cfg.showtext then
    makeElementAndAdd .textoverlay (ofString "textoverlay") ++
    [.linkMany [.preConvert, .edgedetect, .postConvert, .textoverlay, .clock, .encoder, .postQueue,
      .videoparse, .mpegtsmux, .hlssink] true]
  else
    [.linkMany [.preConvert, .edgedetect, .postConvert, .clock, .encoder, .postQueue, .videoparse,
      .hlssink] true]) ++
  [.linkRequestSrcPad videoSource .preConvert]

/-- `cvtracker_hlssink`. -/
def cvtrackerHlssink (env : GstEnv) (cfg : PipelineConfig) : List Call :=
  encoderCalls env .h264 ++
  makeElementAndAdd .hlssink (ofString "hlssink") ++
  makeElementAndAdd .videoparse (ofString "h264parse") ++
  makeElementAndAdd .queue (ofString "queue") ++
  makeElementAndAdd .preConvert (ofString "videoconvert") ++
  makeElementAndAdd .postConvert (ofString "videoconvert") ++
  makeElementAndAdd .cvtracker (ofString "cvtracker") ++
  makeElementAndAdd .mpegtsmux (ofString "mpegtsmux") ++
  makeElementAndAdd .clock (ofString "clockoverlay") ++
  (if cfg.showtext then
    makeElementAndAdd .textoverlay (ofString "textoverlay") ++
    [.linkMany [.preConvert, .cvtracker, .postConvert, .textoverlay, .clock, .encoder, .queue,
      .videoparse, .mpegtsmux, .hlssink] true]
  else
    [.linkMany [.preConvert, .cvtracker, .postConvert, .clock, .encoder, .queue, .videoparse,
      .mpegtsmux, .hlssink] true]) ++
  [.linkRequestSrcPad videoSource .preConvert]

/-- `facedetect_hlssink`, which leaves the muxer out in the same way. -/
def facedetectHlssink (env : GstEnv) (cfg : PipelineConfig) : List Call :=
  makeElementAndAdd .hlssink (ofString "hlssink") ++
  makeElementAndAdd .videoparse (ofString "h264parse") ++
  makeElementAndAdd .queue (ofString "queue") ++
  makeElementAndAdd .postQueue (ofString "queue") ++
  makeElementAndAdd .preConvert (ofString "videoconvert") ++
  makeElementAndAdd .postConvert (ofString "videoconvert") ++
  makeElementAndAdd .facedetect (ofString "facedetect") ++
  makeElementAndAdd .mpegtsmux (ofString "mpegtsmux") ++
  encoderCalls env .h264 ++
  (if cfg.showtext then
    makeElementAndAdd .textoverlay (ofString "textoverlay") ++
    [.linkMany [.queue, .preConvert, .facedetect, .postConvert, .textoverlay, .encoder, .postQueue,
      .videoparse, .mpegtsmux, .hlssink] true]
  else
    [.linkMany [.queue, .preConvert, .facedetect, .postConvert, .encoder, .postQueue, .videoparse,
      .hlssink] true]) ++
  [.linkRequestSrcPad videoSource .queue]

/-- `motion_hlssink`. -/
def motionHlssink (env : GstEnv) (cfg : PipelineConfig) : List Call :=
  encoderCalls env .h264 ++
  makeElementAndAdd .hlssink (ofString "hlssink") ++
  makeElementAndAdd .videoparse (ofString "h264parse") ++
  makeElementAndAdd .queue (ofString "queue") ++
  makeElementAndAdd .preConvert (ofString "videoconvert") ++
  makeElementAndAdd .postConvert (ofString "videoconvert") ++
  makeElementAndAdd .motioncells (ofString "motioncells") ++
  makeElementAndAdd .mpegtsmux (ofString "mpegtsmux") ++
  makeElementAndAdd .clock (ofString "clockoverlay") ++
  (if cfg.showtext then
    makeElementAndAdd .textoverlay (ofString "textoverlay") ++
    [.linkMany [.preConvert, .motioncells, .postConvert, .textoverlay, .clock, .encoder, .queue,
      .videoparse, .mpegtsmux, .hlssink] true]
  else
    [.linkMany [.preConvert, .motioncells, .postConvert, .clock, .encoder, .queue, .videoparse,
      .mpegtsmux, .hlssink] true]) ++
  [.linkRequestSrcPad videoSource .preConvert]

/-- The parser of `videnc` before its payloader, which VP8 does without. -/
def parseAndLink (cfg : PipelineConfig) : List Call :=
  if cfg.videnc ≠ ofString "vp8" then
    makeElementAndAdd .videoparse (around "" "parse" cfg.videnc) ++
    [.linkMany [.vqueue, .videoparse, .videoPay, .videoSink] true]
  else [.linkMany [.vqueue, .videoPay, .videoSink] true]

/-- `start_av_appsink`. Its two sinks are not checked. -/
def startAvAppsink (cfg : PipelineConfig) (audio : Bool) : List Call :=
  makeElementAndAdd .vqueue (ofString "queue") ++
  makeElementAndAdd .videoPay (around "rtp" "pay" cfg.videnc) ++
  [.factoryMake .videoSink (ofString "appsink"), .binAddMany .pipeline [.videoSink]] ++
  parseAndLink cfg ++
  [.linkRequestSrcPad videoEncoder .vqueue] ++
  if audio then
    [.factoryMake .audioSink (ofString "appsink"), .binAddMany .pipeline [.audioSink]] ++
    makeElementAndAdd .audioPay (ofString "rtpopuspay") ++
    makeElementAndAdd .aqueue (ofString "queue") ++
    [.linkMany [.aqueue, .audioPay, .audioSink] true, .linkRequestSrcPad audioSource .aqueue]
  else []

/-- `start_av_udpsink`. -/
def startAvUdpsink (cfg : PipelineConfig) (audio : Bool) : List Call :=
  makeElementAndAdd .vqueue (ofString "queue") ++
  makeElementAndAdd .videoPay (around "rtp" "pay" cfg.videnc) ++
  makeElementAndAdd .videoSink (ofString "udpsink") ++
  parseAndLink cfg ++
  [.linkRequestSrcPad videoEncoder .vqueue] ++
  if audio then
    makeElementAndAdd .audioSink (ofString "udpsink") ++
    makeElementAndAdd .audioPay (ofString "rtpopuspay") ++
    makeElementAndAdd .aqueue (ofString "queue") ++
    [.linkMany [.aqueue, .audioPay, .audioSink] true, .linkRequestSrcPad audioSource .aqueue]
  else []

/-! ## The pipeline -/

/-- What is known after `_initial_device`. -/
structure Initialized where
  pipeline : Pipeline
  isInitial : Bool
  /-- `audio_source` is not `NULL`. -/
  audio : Bool

/-- `_initial_device`. -/
def initialDevice (env : GstEnv) (cfg : PipelineConfig) : Except BuildFault Initialized :=
  match runCalls env .videoSrc (getVideoSrc env cfg) {} with
  | .faults f => .error f
  | .leaves p => .ok ⟨p, false, false⟩
  | .goesOn p =>
    match runCalls env .encoderSrc (getEncoderSrc env cfg) p with
    | .faults f => .error f
    | .leaves p => .ok ⟨p, false, false⟩
    | .goesOn p =>
      if cfg.audioEnable then
        match runCalls env .audioSrc (getAudioSrc env) p with
        | .faults f => .error f
        | .leaves p => .ok ⟨p, true, false⟩
        | .goesOn p => .ok ⟨p, true, true⟩
      else .ok ⟨p, true, false⟩

/-- The calls of `create_instance` after `_initial_device`: the functions that are switched on, with
their calls. -/
def branches (env : GstEnv) (cfg : PipelineConfig) (audio : Bool) : List (Stage × List Call) :=
  [(cfg.splitfileSink, .splitfile, splitfileSink env),
    (cfg.udp, .udpMulticast, udpMulticastsink audio),
    (cfg.avHlssink, .avHls, avHlssink env audio),
    (cfg.edgeHlssink, .edgeHls, edgedectHlssink env cfg),
    (cfg.cvtrackerHlssink, .cvtrackerHls, cvtrackerHlssink env cfg),
    (cfg.facedetectHlssink, .facedetectHls, facedetectHlssink env cfg),
    (cfg.motionHlssink, .motionHls, motionHlssink env cfg),
    (cfg.appSink, .avAppsink, startAvAppsink cfg audio),
    (cfg.webrtc, .avUdpsink, startAvUdpsink cfg audio)].filterMap
    fun (on, branch) ↦ if on then some branch else none

/-- Functions called one after the other. What they return is ignored. -/
def runBranches (env : GstEnv) :
    List (Stage × List Call) → Pipeline → Except BuildFault Pipeline
  | [], p => .ok p
  | (s, cs) :: rest, p =>
    match runCalls env s cs p with
    | .faults f => .error f
    | .leaves p | .goesOn p => runBranches env rest p

/-- `create_instance`, for a camera without a driver of its own. Every function begins with
`_check_initial_status`. -/
def createInstance (env : GstEnv) (cfg : PipelineConfig) : Except BuildFault Pipeline := do
  let i ← initialDevice env cfg
  if i.isInitial then runBranches env (branches env cfg i.audio) i.pipeline
  else .ok i.pipeline

end GstWebrtcCamera

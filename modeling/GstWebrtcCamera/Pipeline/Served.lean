import GstWebrtcCamera.Pipeline.Branch

/-!
# What the camera feeds

A branch that is built as a whole gets the pictures of the camera, and one that is not gets none of
them at its end. Which it is depends on the branch, its source and the links between the two, and
not on the other branches. The branch of `av_hlssink` gets nothing whatever is installed: it asks for
the pictures of an encoder that nothing is linked to.
-/

namespace GstWebrtcCamera

open Flow CString

/-! ## The sources -/

/-- What `v4l2src` of `get_video_src` sends. -/
def camera : Elem := ⟨.videoSrc, .source⟩

section Sources

variable {env : GstEnv} {cfg : PipelineConfig} {p p' : Pipeline}

theorem parent_of_ready {s : Stage} {cs : List Call} (hfresh : ({} : Pipeline).Untouched s p)
    (hready : ready env .pipeline {} cs)
    (hsrc : ∀ c ∈ cs, ∀ src ∈ c.source?, src.stage ≠ s ∧ p.parent src = some .pipeline)
    (h : runCalls env s cs p = .goesOn p') {v : Var}
    (hv : ∃ par vs, Call.binAddMany par vs ∈ cs ∧ v ∈ vs) :
    p'.parent ⟨s, v⟩ = some .pipeline :=
  (runCalls_ready (knows_nil hfresh) hready hsrc h).1.inside v (mem_added cs (.inr hv))

/-- What `get_video_src` links last. -/
def videoChain (env : GstEnv) (cfg : PipelineConfig) : List Var :=
  if (lit "image").isPrefixOf cfg.type.chars then
    [.source, .capsfilter] ++
      (if softwareDecodes env && env.installed (ofString "jpegparse") then [.jpegparse] else []) ++
      [.jpegdec] ++ postproc env ++ [.queue, .teesrc]
  else [.source, .capsfilter] ++ postproc env ++ [.queue, .teesrc]

theorem linkMany_videoChain :
    .linkMany (videoChain env cfg) true ∈ getVideoSrc env cfg := by
  rw [getVideoSrc, videoChain]
  split_ifs <;> simp [jpegCalls, rawCalls, *]

theorem ready_getVideoSrc
    (h : ∀ c ∈ getVideoSrc env cfg, ∀ v ∈ c.required, Installed env (getVideoSrc env cfg) v) :
    ready env .pipeline {} (getVideoSrc env cfg) := by
  cases himage : (lit "image").isPrefixOf cfg.type.chars with
  | false =>
    cases hpost : env.installed (ofString "vaapipostproc") <;>
      simp [getVideoSrc, rawCalls, postprocCalls, postproc, himage, hpost, Installed,
        Call.required, ready, Call.ready, Call.next] at h ⊢ <;> simp [h]
  | true =>
    cases hpost : env.installed (ofString "vaapipostproc") <;>
      cases hsoft : softwareDecodes env <;>
      cases hparse : env.installed (ofString "jpegparse") <;>
      simp [getVideoSrc, jpegCalls, postprocCalls, postproc, himage, hpost, hsoft, hparse, Installed,
        Call.required, ready, Call.ready, Call.next] at h ⊢ <;> simp [h]

theorem source?_getVideoSrc : ∀ c ∈ getVideoSrc env cfg, c.source? = none := by
  rw [getVideoSrc, jpegCalls, rawCalls, postprocCalls]
  split_ifs <;> simp [Call.source?]

theorem source?_getAudioSrc : ∀ c ∈ getAudioSrc env, c.source? = none := by
  simp [getAudioSrc, Call.source?]

/-- **The camera.** Once the device has been initialised, its pictures come to `video_source`. -/
theorem camera_reaches_videoSource {i : Initialized} (hp : Places env cfg i p) :
    Reaches p.links camera videoSource ∧ p.parent videoSource = some .pipeline := by
  obtain ⟨p₁, hrun, hafter⟩ := hp.video
  have hval : ∀ v, ({} : Pipeline).holds ⟨.videoSrc, v⟩ → Installed env (getVideoSrc env cfg) v :=
    fun v hv ↦ by cases hv
  have hreq := (runCalls_installed (fun c hc ↦ hc) hval (mem_of_goesOn hrun)).2 hrun
  have hready := ready_getVideoSrc hreq
  have hsrc : ∀ c ∈ getVideoSrc env cfg, ∀ src ∈ c.source?,
      src.stage ≠ .videoSrc ∧ ({} : Pipeline).parent src = some .pipeline := by
    intro c hc src hs
    rw [source?_getVideoSrc c hc] at hs
    cases hs
  have hlinks := (runCalls_ready (knows_nil (.refl _ _)) hready hsrc hrun).2
  constructor
  · have hmem : ∀ l ∈ pairs ((videoChain env cfg).map (⟨.videoSrc, ·⟩ : Var → Elem)),
        l ∈ p.links := by
      intro l hl
      have hstage : l.2.stage = .videoSrc := by
        obtain ⟨v, -, hv⟩ := List.mem_map.mp (List.mem_of_mem_tail (mem_of_mem_pairs hl).2)
        rw [← hv]
      rw [hafter.links l hstage, hlinks]
      exact List.mem_append_right _ (List.mem_flatMap.mpr ⟨_, linkMany_videoChain, hl⟩)
    have hends : ∃ vs, videoChain env cfg = .source :: vs ∧ Var.teesrc ∈ vs := by
      rw [videoChain]
      split_ifs <;> exact ⟨_, rfl, by simp⟩
    obtain ⟨vs, hvs, htee⟩ := hends
    rw [hvs] at hmem
    exact reaches_of_pairs hmem videoSource (List.mem_cons_of_mem _ (List.mem_map_of_mem htee))
  · rw [hafter.parent videoSource rfl]
    refine parent_of_ready (.refl _ _) hready hsrc hrun
      ⟨.pipeline, [.source, .capsfilter, .teesrc, .queue], ?_, by simp⟩
    rw [getVideoSrc]
    exact List.mem_append_left _ (by simp)

/-- `get_encoder_src`. -/
def encoderBranch (env : GstEnv) (cfg : PipelineConfig) : Branch where
  stage := .encoderSrc
  source := videoSource
  chain := [.videoconvert] ++ (if cfg.sysinfo then [.textoverlay, .clock] else [.clock]) ++
    [.encoder] ++ (if isH264 cfg then [.h264Caps] else []) ++ [.teesrc]
  body := (getEncoderSrc env cfg).dropLast
  entry := .linkRequestSrcPad videoSource .videoconvert
  post := []

theorem calls_encoderBranch : (encoderBranch env cfg).calls = getEncoderSrc env cfg := by
  have hlast : (getEncoderSrc env cfg).getLast? =
      some (.linkRequestSrcPad videoSource .videoconvert) := by
    rw [getEncoderSrc, List.getLast?_append]
    rfl
  exact List.dropLast_append_getLast? _ hlast

theorem ok_encoderBranch : (encoderBranch env cfg).Ok .pipeline := by
  rw [encoderBranch, getEncoderSrc]
  refine .of_shape ?_
  rw [Branch.shape]
  rcases shape_encoderCalls env (videoEncoderFamily cfg.videnc) with h | h | h <;>
    cases cfg.sysinfo <;> cases isH264 cfg <;>
    simp only [List.map_dropLast, List.map_append, h] <;> decide +kernel

end Sources

/-! ## The branches -/

/-- Where a branch gets its pictures from, and what gets them first. -/
def Stage.feed : Stage → Option (Elem × Var)
  | splitfile => some (videoSource, .vqueue)
  | edgeHls | cvtrackerHls | motionHls => some (videoSource, .preConvert)
  | facedetectHls => some (videoSource, .queue)
  | udpMulticast | avAppsink | avUdpsink => some (videoEncoder, .vqueue)
  | _ => none

/-- What the pictures of a branch are for. -/
def Stage.sink : Stage → Option Var
  | splitfile => some .splitmuxsink
  | udpMulticast => some .udpsink
  | avHls | edgeHls | cvtrackerHls | facedetectHls | motionHls => some .hlssink
  | avAppsink | avUdpsink => some .videoSink
  | _ => none

/-- What comes before the link to a source. -/
def upTo (src : Elem) (cs : List Call) : List Call := cs.takeWhile fun c ↦ c.source? ≠ some src

/-- The way of the pictures through a branch. -/
def Stage.chain (cfg : PipelineConfig) : Stage → List Var
  | splitfile => [.vqueue, .clock, .textoverlay, .encoder, .videoparse, .splitmuxsink]
  | udpMulticast => [.vqueue, .cparse, .mpegtsmux, .rtpmp2tpay, .udpsink]
  | edgeHls => [.preConvert, .edgedetect, .postConvert] ++
    (if cfg.showtext then
      [.textoverlay, .clock, .encoder, .postQueue, .videoparse, .mpegtsmux, .hlssink]
    else [.clock, .encoder, .postQueue, .videoparse, .hlssink])
  | cvtrackerHls => [.preConvert, .cvtracker, .postConvert] ++
    (if cfg.showtext then [.textoverlay, .clock] else [.clock]) ++
    [.encoder, .queue, .videoparse, .mpegtsmux, .hlssink]
  | motionHls => [.preConvert, .motioncells, .postConvert] ++
    (if cfg.showtext then [.textoverlay, .clock] else [.clock]) ++
    [.encoder, .queue, .videoparse, .mpegtsmux, .hlssink]
  | facedetectHls => [.queue, .preConvert, .facedetect, .postConvert] ++
    (if cfg.showtext then
      [.textoverlay, .encoder, .postQueue, .videoparse, .mpegtsmux, .hlssink]
    else [.encoder, .postQueue, .videoparse, .hlssink])
  | avAppsink | avUdpsink =>
    [.vqueue] ++ (if cfg.videnc ≠ ofString "vp8" then [.videoparse] else []) ++
      [.videoPay, .videoSink]
  | _ => []

/-- A branch, from its calls. -/
def branchOf (s : Stage) (chain : List Var) (src : Elem) (cs : List Call) : Branch where
  stage := s
  source := src
  chain := chain
  body := upTo src cs
  entry := (cs.dropWhile fun c ↦ c.source? ≠ some src).headD .binAddBin
  post := (cs.dropWhile fun c ↦ c.source? ≠ some src).tail

theorem calls_branchOf (s : Stage) (chain : List Var) {src : Elem} {cs : List Call}
    (h : ∃ c ∈ cs, c.source? = some src) : (branchOf s chain src cs).calls = cs := by
  have hsplit := List.takeWhile_append_dropWhile (p := fun c : Call ↦ c.source? ≠ some src) (l := cs)
  rcases hrest : cs.dropWhile fun c ↦ c.source? ≠ some src with _ | ⟨c, rest⟩
  · obtain ⟨c, hc, hsrc⟩ := h
    have hne := List.dropWhile_eq_nil_iff.mp hrest c hc
    exact absurd hsrc (of_decide_eq_true hne)
  · rw [hrest] at hsplit
    simp only [Branch.calls, branchOf, upTo, hrest, List.headD_cons, List.tail_cons]
    exact hsplit

/-- A function that builds a branch with a feed. -/
structure Fed (chain : List Var) (audio : Bool) (s : Stage) (cs : List Call) (src : Elem)
    (first sink : Var) : Prop where
  asked : ∃ c ∈ cs, c.source? = some src
  ok : (branchOf s chain src cs).Ok .pipeline ∨ (branchOf s chain src cs).Ok .udpBin
  first : (branchOf s chain src cs).first = ⟨s, first⟩
  sink : (branchOf s chain src cs).sink = ⟨s, sink⟩
  quits : ∀ c ∈ cs, c.quits = false
  sources : ∀ c ∈ cs, ∀ e ∈ c.source?, e = src ∨ audio ∧ e = audioSource
  aqueue : ∀ l ∈ callLinks s cs, l.2 = ⟨s, .aqueue⟩ → l.1 = audioSource

instance (chain : List Var) (audio : Bool) (s : Stage) (cs : List Call) (src : Elem)
    (first sink : Var) : Decidable (Fed chain audio s cs src first sink) :=
  decidable_of_iff (_ ∧ _ ∧ _ ∧ _ ∧ _ ∧ _ ∧ _)
    ⟨fun ⟨h₁, h₂, h₃, h₄, h₅, h₆, h₇⟩ ↦ ⟨h₁, h₂, h₃, h₄, h₅, h₆, h₇⟩,
      fun ⟨h₁, h₂, h₃, h₄, h₅, h₆, h₇⟩ ↦ ⟨h₁, h₂, h₃, h₄, h₅, h₆, h₇⟩⟩

theorem shape_branchOf (s : Stage) (chain : List Var) (src : Elem) (cs : List Call) :
    branchOf s chain src (cs.map Call.shape) = (branchOf s chain src cs).shape := by
  have hsrc : (fun c : Call ↦ decide (c.source? ≠ some src)) ∘ Call.shape
      = fun c ↦ decide (c.source? ≠ some src) := by
    funext c
    rw [Function.comp_apply, Call.source?_shape]
  simp only [branchOf, Branch.shape, upTo, List.takeWhile_map, List.dropWhile_map, hsrc,
    List.map_tail]
  congr 1
  cases cs.dropWhile fun c ↦ c.source? ≠ some src <;> rfl

theorem Fed.of_shape {chain : List Var} {audio : Bool} {s : Stage} {cs : List Call} {src : Elem}
    {first sink : Var} (h : Fed chain audio s (cs.map Call.shape) src first sink) :
    Fed chain audio s cs src first sink where
  asked := by
    obtain ⟨d, hd, hsrc⟩ := h.asked
    obtain ⟨c, hc, rfl⟩ := List.mem_map.mp hd
    exact ⟨c, hc, Call.source?_shape ▸ hsrc⟩
  ok := by
    have hok := h.ok
    rw [shape_branchOf] at hok
    exact hok.imp .of_shape .of_shape
  first := by
    have hfirst := h.first
    rwa [shape_branchOf] at hfirst
  sink := by
    have hsink := h.sink
    rwa [shape_branchOf] at hsink
  quits c hc := Call.quits_shape ▸ h.quits _ (List.mem_map_of_mem hc)
  sources c hc e he := h.sources _ (List.mem_map_of_mem hc) e (by rwa [Call.source?_shape])
  aqueue := callLinks_shape s ▸ h.aqueue

section Fed

variable (env : GstEnv) (cfg : PipelineConfig) (audio : Bool)

/-- The calls of a branch. -/
def Stage.calls : Stage → List Call
  | splitfile => splitfileSink env
  | udpMulticast => udpMulticastsink audio
  | avHls => avHlssink env audio
  | edgeHls => edgedectHlssink env cfg
  | cvtrackerHls => cvtrackerHlssink env cfg
  | facedetectHls => facedetectHlssink env cfg
  | motionHls => motionHlssink env cfg
  | avAppsink => startAvAppsink cfg audio
  | avUdpsink => startAvUdpsink cfg audio
  | _ => []

theorem calls_of_mem_branches {s : Stage} {cs : List Call}
    (hb : (s, cs) ∈ branches env cfg audio) : cs = s.calls env cfg audio := by
  simp only [branches, List.mem_filterMap, List.mem_cons, List.not_mem_nil, or_false] at hb
  obtain ⟨c, hc, hcb⟩ := hb
  split at hcb
  · have hpair := Option.some.inj hcb
    rcases hc with rfl | rfl | rfl | rfl | rfl | rfl | rfl | rfl | rfl <;> cases hpair <;> rfl
  · cases hcb

theorem fed_branches {s : Stage} {cs : List Call} (hb : (s, cs) ∈ branches env cfg audio)
    {src : Elem} {first sink : Var} (hfeed : s.feed = some (src, first))
    (hsink : s.sink = some sink) : Fed (s.chain cfg) audio s cs src first sink := by
  rw [calls_of_mem_branches env cfg audio hb]
  cases s with
  | videoSrc | encoderSrc | audioSrc | avHls => cases hfeed
  | udpMulticast =>
    cases hfeed
    cases hsink
    rw [Stage.calls, Stage.chain]
    cases audio <;> decide +kernel
  | splitfile =>
    cases hfeed
    cases hsink
    rw [Stage.calls, splitfileSink, Stage.chain]
    refine Fed.of_shape ?_
    rcases shape_encoderCalls env .h264 with h | h | h <;> cases audio <;>
      simp only [List.map_append, h] <;> decide +kernel
  | edgeHls | cvtrackerHls | facedetectHls | motionHls =>
    cases hfeed
    cases hsink
    simp only [Stage.calls, edgedectHlssink, cvtrackerHlssink, facedetectHlssink, motionHlssink,
      Stage.chain]
    refine Fed.of_shape ?_
    rcases shape_encoderCalls env .h264 with h | h | h <;> cases cfg.showtext <;> cases audio <;>
      simp only [List.map_append, h] <;> decide +kernel
  | avAppsink | avUdpsink =>
    cases hfeed
    cases hsink
    simp only [Stage.calls, startAvAppsink, startAvUdpsink, parseAndLink, Stage.chain]
    refine Fed.of_shape ?_
    by_cases hvp8 : cfg.videnc ≠ ofString "vp8"
    · simp only [if_pos hvp8]
      cases audio <;> simp only [List.map_append, shape_makeElementAndAdd] <;> decide +kernel
    · simp only [if_neg hvp8]
      cases audio <;> simp only [List.map_append, shape_makeElementAndAdd] <;> decide +kernel

end Fed

/-! ## What is fed -/

/-- Nothing keeps the pictures from `video_encoder`. -/
def EncoderFed (env : GstEnv) (cfg : PipelineConfig) : Prop :=
  complete env (getEncoderSrc env cfg) ∧ env.accepts videoSource ⟨.encoderSrc, .videoconvert⟩

/-- The branch is switched on, the device has been initialised, everything that is made before the
link to the source is installed, and the pads of the two go together. For a branch behind
`video_encoder` the same is true of the encoder. -/
def Served (env : GstEnv) (cfg : PipelineConfig) (s : Stage) : Prop :=
  ∃ i cs src first, initialDevice env cfg = .ok i ∧ i.isInitial ∧
    (s, cs) ∈ branches env cfg i.audio ∧ s.feed = some (src, first) ∧
    complete env (upTo src cs) ∧ env.accepts src ⟨s, first⟩ ∧
    (src = videoEncoder → EncoderFed env cfg)

section Served

variable {env : GstEnv} {cfg : PipelineConfig} {p : Pipeline} {i : Initialized}

/-- The sound is not linked to what the camera sends. -/
theorem not_reaches_audio (h : createInstance env cfg = .ok p) (hi : initialDevice env cfg = .ok i)
    {b : Stage × List Call} (hb : b ∈ plan env cfg i.audio)
    (haqueue : ∀ l ∈ callLinks b.1 b.2, l.2 = ⟨b.1, .aqueue⟩ → l.1 = audioSource)
    (hstage : b.1 ≠ .videoSrc) : ¬ Reaches p.links camera ⟨b.1, .aqueue⟩ := by
  have haudio : ∀ l ∈ callLinks .audioSrc (getAudioSrc env), l.1.stage = .audioSrc := by
    simp only [callLinks, getAudioSrc, List.flatMap_cons, Call.links]
    decide
  refine not_reaches_of_closed (S := fun e ↦ e.stage = .audioSrc ∨ e = ⟨b.1, .aqueue⟩) ?_ ?_
    (.inr rfl)
  · rintro l hl (hs | hs)
    · refine .inl (haudio l ?_)
      exact asked_of_mem h hi (b := (.audioSrc, getAudioSrc env)) (by simp [plan]) hl hs
    · refine .inl ?_
      rw [haqueue l (asked_of_mem h hi hb hl (by rw [hs])) hs]
      rfl
  · rintro (hs | hs)
    · cases hs
    · exact hstage (congrArg Elem.stage hs).symm

theorem parent_audioSource (hp : Places env cfg i p) (ha : i.audio) :
    p.parent audioSource = some .pipeline := by
  obtain ⟨p₁, p₂, hfresh, hrun, hafter⟩ := hp.audio ha
  have hval : ∀ v, p₁.holds ⟨.audioSrc, v⟩ → Installed env (getAudioSrc env) v := by
    intro v hv
    rw [Pipeline.holds, hfresh.value ⟨.audioSrc, v⟩ rfl] at hv
    cases hv
  have hreq := (runCalls_installed (fun c hc ↦ hc) hval (mem_of_goesOn hrun)).2 hrun
  have hready : ready env .pipeline {} (getAudioSrc env) := by
    simp [getAudioSrc, Installed, Call.required, ready, Call.ready, Call.next] at hreq ⊢
    simp [hreq]
  rw [hafter.parent audioSource rfl]
  refine parent_of_ready hfresh hready (fun c hc src hs ↦ ?_) hrun
    ⟨.pipeline, [.source, .teesrc, .amp, .enc, .postconv, .filter], by simp [getAudioSrc], by simp⟩
  rw [source?_getAudioSrc c hc] at hs
  cases hs

theorem source?_getEncoderSrc :
    ∀ c ∈ getEncoderSrc env cfg, ∀ src ∈ c.source?, src = videoSource := by
  have hshape : ∀ c ∈ (getEncoderSrc env cfg).map Call.shape, ∀ src ∈ c.source?,
      src = videoSource := by
    rw [getEncoderSrc]
    rcases shape_encoderCalls env (videoEncoderFamily cfg.videnc) with h | h | h <;>
      cases cfg.sysinfo <;> cases isH264 cfg <;> simp only [List.map_append, h] <;> decide +kernel
  exact fun c hc src hs ↦ hshape _ (List.mem_map_of_mem hc) src (by rwa [Call.source?_shape])

theorem aqueue_getEncoderSrc :
    ∀ l ∈ callLinks .encoderSrc (getEncoderSrc env cfg), l.2 ≠ ⟨.encoderSrc, .aqueue⟩ := by
  rw [getEncoderSrc]
  cases cfg.sysinfo <;> cases isH264 cfg <;>
    simp only [callLinks_append, callLinks_encoderCalls] <;> decide

theorem sink_encoderBranch (env : GstEnv) (cfg : PipelineConfig) :
    (encoderBranch env cfg).sink = videoEncoder := by
  rw [encoderBranch, Branch.sink]
  cases cfg.sysinfo <;> cases isH264 cfg <;> rfl

theorem complete_encoderBranch :
    complete env (encoderBranch env cfg).body = complete env (getEncoderSrc env cfg) := by
  rw [← calls_encoderBranch, Branch.calls, complete_append]
  exact (Bool.and_true _).symm

/-- **The encoder.** It gets the pictures exactly if nothing keeps them from it. -/
theorem reaches_videoEncoder_iff (h : createInstance env cfg = .ok p)
    (hi : initialDevice env cfg = .ok i) (hp : Places env cfg i p) :
    Reaches p.links camera videoEncoder ↔ EncoderFed env cfg := by
  obtain ⟨p₁, p₂, hfresh, hrun, hafter, hvideo⟩ := hp.encoder
  have hplan : (.encoderSrc, getEncoderSrc env cfg) ∈ plan env cfg i.audio := by simp [plan]
  have hcalls : (encoderBranch env cfg).calls = getEncoderSrc env cfg := calls_encoderBranch
  obtain ⟨hcamera, hparent⟩ := camera_reaches_videoSource hp
  have hrun' : p₂ ∈ (runCalls env .encoderSrc (encoderBranch env cfg).calls p₁).pipeline? := by
    rw [hcalls, hrun]
    rfl
  rw [← sink_encoderBranch env cfg, EncoderFed, ← complete_encoderBranch]
  constructor
  · intro hreach
    have haqueue := not_reaches_audio h hi hplan
      (fun l hl hs ↦ absurd hs (aqueue_getEncoderSrc l hl)) (by simp)
    refine (Branch.complete_of_reaches ok_encoderBranch hfresh hrun' hafter ?_ haqueue (by simp
      [camera, encoderBranch]) hreach).2
    exact fun l hl hs ↦ hcalls ▸ asked_of_mem h hi hplan hl hs
  · rintro ⟨hcomplete, haccepts⟩
    have hgoes : runCalls env .encoderSrc (encoderBranch env cfg).calls p₁ = .goesOn p₂ :=
      hcalls.symm ▸ hrun
    refine Branch.reaches_of_complete ok_encoderBranch hfresh hrun' hafter ⟨p₂, hgoes⟩
      (fun c hc src hs ↦ ?_) hcomplete haccepts hcamera
    have hmem : c ∈ (encoderBranch env cfg).calls := hc
    rw [hcalls] at hmem
    rw [source?_getEncoderSrc c hmem src hs]
    exact ⟨by simp [videoSource, encoderBranch], (hvideo.parent videoSource rfl) ▸ hparent⟩

theorem parent_videoEncoder (hp : Places env cfg i p) (hfed : EncoderFed env cfg) :
    p.parent videoEncoder = some .pipeline := by
  obtain ⟨p₁, p₂, hfresh, hrun, hafter, hvideo⟩ := hp.encoder
  have hcalls : (encoderBranch env cfg).calls = getEncoderSrc env cfg := calls_encoderBranch
  have hready : ready env .pipeline {} (encoderBranch env cfg).calls :=
    ok_encoderBranch.ready_of_complete (complete_encoderBranch ▸ hfed.1)
  rw [hafter.parent videoEncoder rfl]
  refine parent_of_ready hfresh (hcalls ▸ hready) (fun c hc src hs ↦ ?_) hrun
    ⟨.pipeline, [.clock, .teesrc, .videoconvert], by simp [getEncoderSrc], by simp⟩
  rw [source?_getEncoderSrc c hc src hs]
  refine ⟨by simp [videoSource], ?_⟩
  rw [← hvideo.parent videoSource rfl]
  exact (camera_reaches_videoSource hp).2

theorem mem_plan {b : Stage × List Call} {audio : Bool} (hb : b ∈ branches env cfg audio) :
    b ∈ plan env cfg audio := List.mem_append_right _ hb

/-- **A branch.** Its sink gets the pictures exactly if its source does, and nothing is missing. -/
theorem reaches_iff_of_fed (h : createInstance env cfg = .ok p)
    (hi : initialDevice env cfg = .ok i) (hp : Places env cfg i p) {s : Stage} {cs : List Call}
    (hb : (s, cs) ∈ branches env cfg i.audio) {src : Elem} {first v : Var}
    (hfeed : s.feed = some (src, first)) (hsink : s.sink = some v)
    (hparent : Reaches p.links camera src → p.parent src = some .pipeline) :
    Reaches p.links camera ⟨s, v⟩ ↔
      Reaches p.links camera src ∧ complete env (upTo src cs) ∧ env.accepts src ⟨s, first⟩ := by
  have hfed := fed_branches env cfg i.audio hb hfeed hsink
  obtain ⟨hs₁, hs₂, hs₃⟩ := branches_stage env cfg i.audio _ hb
  obtain ⟨p₁, p₂, hfresh, hrun, hafter, hsame⟩ := hp.branch _ hb
  have hcalls := calls_branchOf s (s.chain cfg) hfed.asked
  have hsrc : src = videoSource ∨ src = videoEncoder := by
    cases s <;> cases hfeed <;> simp
  have haqueue := not_reaches_audio h hi (mem_plan hb) hfed.aqueue hs₁
  have hasked : ∀ l ∈ p.links, l.2.stage = s →
      l ∈ callLinks s (branchOf s (s.chain cfg) src cs).calls := by
    rw [hcalls]
    exact fun l hl hs ↦ asked_of_mem h hi (mem_plan hb) hl hs
  have hrun' : p₂ ∈ (runCalls env s (branchOf s (s.chain cfg) src cs).calls p₁).pipeline? := by
    rw [hcalls]
    exact hrun
  have hok : ∃ par, (branchOf s (s.chain cfg) src cs).Ok par :=
    hfed.ok.elim (fun h ↦ ⟨_, h⟩) fun h ↦ ⟨_, h⟩
  obtain ⟨par, hok⟩ := hok
  rw [← hfed.sink, ← hfed.first]
  constructor
  · exact Branch.complete_of_reaches hok hfresh hrun' hafter hasked haqueue fun hs ↦ hs₁ hs.symm
  · rintro ⟨hreach, hcomplete, haccepts⟩
    have hsources : ∀ c ∈ upTo src cs ++ [(branchOf s (s.chain cfg) src cs).entry],
        ∀ e ∈ c.source?, e.stage ≠ s ∧ p₁.parent e = some .pipeline := by
      intro c hc e he
      have hmem : c ∈ cs := by
        rw [← hcalls]
        rcases List.mem_append.mp hc with hc | hc
        · exact List.mem_append_left _ hc
        · rw [List.mem_singleton.mp hc]
          exact List.mem_append_right _ List.mem_cons_self
      rcases hfed.sources c hmem e he with rfl | ⟨ha, rfl⟩
      · rcases hsrc with rfl | rfl
        · exact ⟨hs₁.symm, (hsame _ (.inl rfl)).parent videoSource rfl ▸ hparent hreach⟩
        · exact ⟨hs₂.symm, (hsame _ (.inr (.inl rfl))).parent videoEncoder rfl ▸ hparent hreach⟩
      · refine ⟨hs₃.symm, ?_⟩
        rw [← (hsame _ (.inr (.inr rfl))).parent audioSource rfl]
        exact parent_audioSource hp ha
    have hgoes := Branch.goesOn_of_complete hok hfresh hrun' hsources
      (fun c hc ↦ hfed.quits c (hcalls ▸ hc)) hcomplete
    exact Branch.reaches_of_complete hok hfresh hrun' hafter hgoes hsources hcomplete haccepts hreach

/-- The branch of `av_hlssink` is linked to itself and to the sound. -/
theorem not_reaches_avHls (h : createInstance env cfg = .ok p)
    (hi : initialDevice env cfg = .ok i) {cs : List Call}
    (hb : (.avHls, cs) ∈ branches env cfg i.audio) :
    ¬ Reaches p.links camera ⟨.avHls, .hlssink⟩ := by
  have haudio : ∀ l ∈ callLinks .audioSrc (getAudioSrc env), l.1.stage = .audioSrc := by
    simp only [callLinks, getAudioSrc, List.flatMap_cons, Call.links]
    decide
  have hav : ∀ l ∈ callLinks .avHls cs, l.1.stage = .avHls ∨ l.1.stage = .audioSrc := by
    rw [calls_of_mem_branches env cfg i.audio hb, Stage.calls, avHlssink]
    cases i.audio <;>
      simp only [callLinks_append, callLinks_encoderCalls, callLinks_makeElementAndAdd] <;> decide
  refine not_reaches_of_closed (S := fun e ↦ e.stage = .avHls ∨ e.stage = .audioSrc) ?_ ?_
    (.inl rfl)
  · rintro l hl (hs | hs)
    · exact hav l (asked_of_mem h hi (mem_plan hb) hl hs)
    · exact .inr (haudio l
        (asked_of_mem h hi (b := (.audioSrc, getAudioSrc env)) (by simp [plan]) hl hs))
  · rintro (hs | hs) <;> cases hs

theorem not_reaches_of_no_links {s : Stage} {v : Var} (hs : s ≠ .videoSrc)
    (h : ∀ l ∈ p.links, l.2.stage ≠ s) : ¬ Reaches p.links camera ⟨s, v⟩ :=
  not_reaches_of_closed (S := fun e ↦ e.stage = s) (fun l hl hls ↦ absurd hls (h l hl))
    (fun hc ↦ hs hc.symm) rfl

theorem no_links_of_not_initial (hi : initialDevice env cfg = .ok i) {s : Stage}
    (hs : s ≠ .videoSrc ∧ s ≠ .encoderSrc ∧ s ≠ .audioSrc) :
    ∀ l ∈ i.pipeline.links, l.2.stage ≠ s := by
  intro l hl hls
  obtain ⟨added, hadded, hsub⟩ := initialDevice_links hi
  have hmem := hsub.subset (by simpa [hadded] using hl)
  rcases List.mem_append.mp hmem with hl | hl
  · exact hs.1 (hls.symm.trans ((placed_getVideoSrc env cfg).1 l hl).1)
  · rcases List.mem_append.mp hl with hl | hl
    · exact hs.2.1 (hls.symm.trans ((placed_getEncoderSrc env cfg).1 l hl).1)
    · exact hs.2.2 (hls.symm.trans ((placed_getAudioSrc env).1 l hl).1)

theorem no_links_of_off (h : createInstance env cfg = .ok p) (hi : initialDevice env cfg = .ok i)
    {s : Stage} (hs : s ≠ .videoSrc ∧ s ≠ .encoderSrc ∧ s ≠ .audioSrc)
    (hoff : ∀ cs, (s, cs) ∉ branches env cfg i.audio) : ∀ l ∈ p.links, l.2.stage ≠ s := by
  intro l hl hls
  obtain ⟨i', hi', hsub⟩ := createInstance_links h
  cases hi.symm.trans hi'
  obtain ⟨b, hb, hlb⟩ := List.mem_flatMap.mp (hsub.subset hl)
  have hbs : b.1 = s := ((placed_plan env cfg i.audio b hb).1 l hlb).1.symm.trans hls
  rw [plan] at hb
  rcases List.mem_append.mp hb with hb | hb
  · simp only [List.mem_cons, List.not_mem_nil, or_false] at hb
    rcases hb with rfl | rfl | rfl
    · exact hs.1 hbs.symm
    · exact hs.2.1 hbs.symm
    · exact hs.2.2 hbs.symm
  · exact hoff b.2 (hbs ▸ hb)

theorem reaches_iff_of_on (h : createInstance env cfg = .ok p) (hi : initialDevice env cfg = .ok i)
    (hp : Places env cfg i p) {s : Stage} {cs : List Call}
    (hb : (s, cs) ∈ branches env cfg i.audio) {v : Var} (hsink : s.sink = some v) :
    Reaches p.links camera ⟨s, v⟩ ↔ ∃ src first, s.feed = some (src, first) ∧
      complete env (upTo src cs) ∧ env.accepts src ⟨s, first⟩ ∧
      (src = videoEncoder → EncoderFed env cfg) := by
  cases hfeed : s.feed with
  | none =>
    refine iff_of_false ?_ (by rintro ⟨_, _, hf, _⟩; cases hf)
    cases s <;> cases hsink <;> cases hfeed
    exact not_reaches_avHls h hi hb
  | some feed =>
    obtain ⟨src, first⟩ := feed
    have hencoder := reaches_videoEncoder_iff h hi hp
    have hcamera := camera_reaches_videoSource hp
    have hsrc : src = videoSource ∨ src = videoEncoder := by
      cases s <;> cases hfeed <;> simp
    have hreach : Reaches p.links camera src ↔ (src = videoEncoder → EncoderFed env cfg) := by
      rcases hsrc with rfl | rfl
      · exact iff_of_true hcamera.1 fun heq ↦ by cases heq
      · rw [hencoder]
        exact ⟨fun hf _ ↦ hf, fun hf ↦ hf rfl⟩
    have hparent : Reaches p.links camera src → p.parent src = some .pipeline := by
      intro hr
      rcases hsrc with rfl | rfl
      · exact hcamera.2
      · exact parent_videoEncoder hp (hencoder.mp hr)
    rw [reaches_iff_of_fed h hi hp hb hfeed hsink hparent, hreach]
    constructor
    · exact fun ⟨hf, hc, ha⟩ ↦ ⟨src, first, rfl, hc, ha, hf⟩
    · rintro ⟨_, _, heq, hc, ha, hf⟩
      cases heq
      exact ⟨hf, hc, ha⟩

/-- **What the camera feeds.** The sink of a branch gets its pictures exactly if the branch is served,
whatever becomes of the other branches. That of `av_hlssink` never does. -/
theorem reaches_sink_iff (env : GstEnv) (cfg : PipelineConfig) (p : Pipeline)
    (h : createInstance env cfg = .ok p) (s : Stage) (v : Var) (hsink : s.sink = some v) :
    Reaches p.links camera ⟨s, v⟩ ↔ Served env cfg s := by
  obtain ⟨i, hi, hcase⟩ := createInstance_cases h
  have hs : s ≠ .videoSrc ∧ s ≠ .encoderSrc ∧ s ≠ .audioSrc := by
    cases s <;> cases hsink <;> simp
  have hserved : Served env cfg s ↔ i.isInitial ∧ ∃ cs, (s, cs) ∈ branches env cfg i.audio ∧
      ∃ src first, s.feed = some (src, first) ∧ complete env (upTo src cs) ∧
        env.accepts src ⟨s, first⟩ ∧ (src = videoEncoder → EncoderFed env cfg) := by
    constructor
    · rintro ⟨i', cs, src, first, hi', hinit, hb, hrest⟩
      cases hi.symm.trans hi'
      exact ⟨hinit, cs, hb, src, first, hrest⟩
    · rintro ⟨hinit, cs, hb, src, first, hrest⟩
      exact ⟨i, cs, src, first, hi, hinit, hb, hrest⟩
  rw [hserved]
  rcases hcase with ⟨hinit, rfl⟩ | ⟨hinit, hrun⟩
  · refine iff_of_false (not_reaches_of_no_links hs.1 (no_links_of_not_initial hi hs)) ?_
    rw [hinit]
    rintro ⟨hfalse, -⟩
    cases hfalse
  · by_cases hon : ∃ cs, (s, cs) ∈ branches env cfg i.audio
    · obtain ⟨cs, hb⟩ := hon
      rw [reaches_iff_of_on h hi (places_of_createInstance hi hinit hrun) hb hsink]
      refine ⟨fun hfed ↦ ⟨hinit, cs, hb, hfed⟩, fun ⟨_, cs', hb', hfed⟩ ↦ ?_⟩
      have hcs : cs' = cs := (calls_of_mem_branches env cfg i.audio hb').trans
        (calls_of_mem_branches env cfg i.audio hb).symm
      exact hcs ▸ hfed
    · refine iff_of_false (not_reaches_of_no_links hs.1 (no_links_of_off h hi hs fun cs hb ↦ ?_)) ?_
      · exact hon ⟨cs, hb⟩
      · exact fun ⟨_, cs, hb, _⟩ ↦ hon ⟨cs, hb⟩

/-- With everything installed and switched on the recording gets the pictures, and the `hlssink` of
`av_hlssink` does not. -/
theorem reaches_sink_richConfig :
    ∃ p, createInstance fullGst { richConfig with avHlssink := true } = .ok p ∧
      Reaches p.links camera ⟨.splitfile, .splitmuxsink⟩ ∧
      ¬ Reaches p.links camera ⟨.avHls, .hlssink⟩ := by
  set cfg : PipelineConfig := { richConfig with avHlssink := true }
  have hdevice : (initialDevice fullGst cfg).toOption.any (·.isInitial) := by decide +kernel
  have hrun : (createInstance fullGst cfg).toOption.isSome := by decide +kernel
  rcases hi : initialDevice fullGst cfg with f | i
  · simp [hi, Except.toOption] at hdevice
  rcases h : createInstance fullGst cfg with f | p
  · simp [h, Except.toOption] at hrun
  have hinit : i.isInitial := by simpa [hi, Except.toOption] using hdevice
  have hserved : Served fullGst cfg .splitfile :=
    ⟨i, _, _, _, hi, hinit, List.mem_cons_self, rfl, by decide +kernel, rfl, fun heq ↦ by cases heq⟩
  refine ⟨p, rfl, (reaches_sink_iff fullGst cfg p h .splitfile .splitmuxsink rfl).mpr hserved,
    fun hreach ↦ ?_⟩
  obtain ⟨_, _, _, _, -, -, -, hfeed, -⟩ :=
    (reaches_sink_iff fullGst cfg p h .avHls .hlssink rfl).mp hreach
  cases hfeed

end Served

end GstWebrtcCamera

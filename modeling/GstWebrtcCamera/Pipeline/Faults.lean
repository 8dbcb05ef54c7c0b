import GstWebrtcCamera.Pipeline.Survive

/-!
# What ends the program

Where no pad is refused, there are three ways for the program to come to an end while it builds the
pipeline. `get_encoder_src` asserts that there is a `textoverlay`, `av_hlssink` asks for a pad of an
encoder that it has not looked at, and `nvv4l2h264enc` is not set up before the camera has named its
driver. Everything else that may be missing makes a function leave, or a chain end early.
-/

namespace GstWebrtcCamera

open Flow CString

/-! ## The driver of the camera -/

section Driver

variable {env : GstEnv} {cfg : PipelineConfig} {s : Stage} {p : Pipeline} {cs : List Call}

/-- What a function makes before it chooses its encoder. -/
def Stage.beforeEncoder : Stage → Option (List (Var × CString))
  | splitfile | avHls | cvtrackerHls | motionHls => some []
  | edgeHls => some [(.hlssink, ofString "hlssink"), (.videoparse, ofString "h264parse"),
    (.postQueue, ofString "queue"), (.preConvert, ofString "videoconvert"),
    (.postConvert, ofString "videoconvert"), (.edgedetect, ofString "edgedetect"),
    (.mpegtsmux, ofString "mpegtsmux"), (.clock, ofString "clockoverlay")]
  | facedetectHls => some [(.hlssink, ofString "hlssink"), (.videoparse, ofString "h264parse"),
    (.queue, ofString "queue"), (.postQueue, ofString "queue"),
    (.preConvert, ofString "videoconvert"), (.postConvert, ofString "videoconvert"),
    (.facedetect, ofString "facedetect"), (.mpegtsmux, ofString "mpegtsmux")]
  | _ => none

/-- Elements that are made one after the other. -/
def makes (fs : List (Var × CString)) : List Call := fs.flatMap fun f ↦ makeElementAndAdd f.1 f.2

theorem encoderCalls_asks (h : asksDriver env.toEncoderEnv) : encoderCalls env .h264
    = .getVideoDriverName :: addEncoder (getHardwareH264Encoder env.toEncoderEnv) := by
  rw [encoderCalls, if_pos ⟨rfl, h⟩]
  rfl

theorem mem_encoderCalls {family : EncoderFamily} :
    .getVideoDriverName ∈ encoderCalls env family ↔
      family = .h264 ∧ asksDriver env.toEncoderEnv := by
  rw [encoderCalls]
  cases family.build env.toEncoderEnv <;> split_ifs with hask <;> simp [addEncoder, hask]

theorem not_mem_makeElementAndAdd (v : Var) (f : CString) :
    .getVideoDriverName ∉ makeElementAndAdd v f := by simp [makeElementAndAdd]

theorem not_mem_getVideoSrc : .getVideoDriverName ∉ getVideoSrc env cfg := by
  rw [getVideoSrc, jpegCalls, rawCalls, postprocCalls]
  split_ifs <;> simp

theorem not_mem_getAudioSrc : .getVideoDriverName ∉ getAudioSrc env := by simp [getAudioSrc]

theorem mem_getEncoderSrc : .getVideoDriverName ∈ getEncoderSrc env cfg ↔
    videoEncoderFamily cfg.videnc = .h264 ∧ asksDriver env.toEncoderEnv := by
  rw [getEncoderSrc]
  split_ifs <;> simp [mem_encoderCalls]

theorem asks_of_mem_calls (env : GstEnv) (cfg : PipelineConfig) (audio : Bool)
    (h : .getVideoDriverName ∈ s.calls env cfg audio) :
    s.beforeEncoder.isSome ∧ asksDriver env.toEncoderEnv := by
  cases s with
  | videoSrc | encoderSrc | audioSrc => cases h
  | udpMulticast =>
    cases audio <;> simp [Stage.calls, udpMulticastsink, subBinMakeElementAndAdd] at h
  | avAppsink | avUdpsink =>
    simp only [Stage.calls, startAvAppsink, startAvUdpsink, parseAndLink] at h
    split_ifs at h <;> simp [makeElementAndAdd] at h
  | splitfile =>
    refine ⟨rfl, ?_⟩
    simpa [Stage.calls, splitfileSink, mem_encoderCalls, not_mem_makeElementAndAdd] using h
  | avHls | edgeHls | cvtrackerHls | facedetectHls | motionHls =>
    refine ⟨rfl, ?_⟩
    simp only [Stage.calls, avHlssink, edgedectHlssink, cvtrackerHlssink, facedetectHlssink,
      motionHlssink] at h
    split_ifs at h <;> simpa [mem_encoderCalls, not_mem_makeElementAndAdd] using h

theorem calls_beforeEncoder (env : GstEnv) (cfg : PipelineConfig) (audio : Bool)
    {fs : List (Var × CString)} (h : s.beforeEncoder = some fs) :
    ∃ rest, s.calls env cfg audio = makes fs ++ (encoderCalls env .h264 ++ rest) := by
  cases s with
  | splitfile | avHls | cvtrackerHls | motionHls =>
    cases h
    simp only [Stage.calls, splitfileSink, avHlssink, cvtrackerHlssink, motionHlssink,
      List.append_assoc]
    exact ⟨_, rfl⟩
  | edgeHls | facedetectHls =>
    cases h
    simp only [Stage.calls, edgedectHlssink, facedetectHlssink, makes, List.flatMap_cons,
      List.flatMap_nil, List.append_assoc, List.nil_append]
    exact ⟨_, rfl⟩
  | _ => cases h

/-- Where the driver cannot be told, a function ends the program exactly if it can make everything
before it asks. -/
theorem makes_faults_iff (hdriver : env.driver = none) {fs : List (Var × CString)} :
    (∃ f, runCalls env s (makes fs ++ .getVideoDriverName :: cs) p = .faults f) ↔
      ∀ f ∈ fs, env.installed f.2 := by
  induction fs generalizing p with
  | nil =>
    refine iff_of_true ⟨.abort, ?_⟩ (by simp)
    simp [makes, runCalls, Call.exec, hdriver]
  | cons f fs ih =>
    have hsplit : makes (f :: fs) = makeElementAndAdd f.1 f.2 ++ makes fs := List.flatMap_cons
    rw [hsplit, List.append_assoc, runCalls_append]
    by_cases hf : env.installed f.2
    · have hall : (∀ g ∈ f :: fs, env.installed g.2) ↔ ∀ g ∈ fs, env.installed g.2 := by
        simp [hf]
      have hmade : ∃ q, runCalls env s (makeElementAndAdd f.1 f.2) p = .goesOn q := by
        simp [makeElementAndAdd, runCalls, Call.exec, Pipeline.holds, hf]
      obtain ⟨q, hq⟩ := hmade
      rw [hall, hq]
      exact ih
    · refine iff_of_false ?_ fun hall ↦ hf (hall f List.mem_cons_self)
      simp [makeElementAndAdd, runCalls, Call.exec, Pipeline.holds, hf]

end Driver

/-! ## The three ways -/

/-- The encoder is there, the system information is to be shown, and nothing can show it. -/
def OverlayMissing (env : GstEnv) (cfg : PipelineConfig) : Prop :=
  (∃ p, runCalls env .videoSrc (getVideoSrc env cfg) {} = .goesOn p) ∧
    (∃ e ∈ getVideoEncoderByName env.toEncoderEnv cfg.videnc, env.installed e.factory) ∧
    cfg.sysinfo ∧ ¬ env.installed (ofString "textoverlay")

/-- The four elements of `av_hlssink` are there, and no H.264 encoder is. -/
def EncoderMissing (env : GstEnv) (cfg : PipelineConfig) : Prop :=
  (∃ i, initialDevice env cfg = .ok i ∧ i.isInitial) ∧ cfg.avHlssink ∧
    (∀ f ∈ ["hlssink", "h264parse", "queue", "mpegtsmux"], env.installed (ofString f)) ∧
    getHardwareH264Encoder env.toEncoderEnv = none

/-- No driver can be told, and the device or a branch gets as far as an encoder that asks for it. -/
def DriverMissing (env : GstEnv) (cfg : PipelineConfig) : Prop :=
  asksDriver env.toEncoderEnv ∧ env.driver = none ∧
    ((videoEncoderFamily cfg.videnc = .h264 ∧
        ∃ p, runCalls env .videoSrc (getVideoSrc env cfg) {} = .goesOn p) ∨
      ∃ i, initialDevice env cfg = .ok i ∧ i.isInitial ∧
        ∃ b ∈ branches env cfg i.audio, ∃ fs ∈ b.1.beforeEncoder, ∀ f ∈ fs, env.installed f.2)

instance (o : BuildOutcome) : Decidable (∃ p, o = .goesOn p) :=
  match o with
  | .goesOn p => isTrue ⟨p, rfl⟩
  | .leaves _ => isFalse fun ⟨_, h⟩ ↦ by cases h
  | .faults _ => isFalse fun ⟨_, h⟩ ↦ by cases h

instance Initialized.decidableExistsOk {P : Initialized → Prop} [DecidablePred P]
    (o : Except BuildFault Initialized) : Decidable (∃ i, o = .ok i ∧ P i) :=
  match o with
  | .ok i => decidable_of_iff (P i) (by simp)
  | .error _ => isFalse fun ⟨_, h, _⟩ ↦ by cases h

instance (env : GstEnv) (cfg : PipelineConfig) : Decidable (OverlayMissing env cfg) :=
  inferInstanceAs (Decidable (_ ∧ _ ∧ _ ∧ _))

instance (env : GstEnv) (cfg : PipelineConfig) : Decidable (EncoderMissing env cfg) :=
  inferInstanceAs (Decidable (_ ∧ _ ∧ _ ∧ _))

instance (env : GstEnv) (cfg : PipelineConfig) : Decidable (DriverMissing env cfg) :=
  inferInstanceAs (Decidable (_ ∧ _ ∧ (_ ∨ ∃ i, _ = Except.ok i ∧ _)))

/-- A machine with everything but these. -/
def without (fs : List String) : GstEnv :=
  { fullGst with installed := fun f ↦ f ∉ fs.map ofString }

/-- The first four encoders of `get_hardware_h264_encoder`, and the other three. -/
def desktopH264 : List String := ["vah264lpenc", "vaapih264enc", "nvh264enc", "nvcudah264enc"]

def boardH264 : List String := ["nvv4l2h264enc", "v4l2h264enc", "x264enc"]

section Faults

variable {env : GstEnv} {cfg : PipelineConfig} {p p' : Pipeline} {i : Initialized} {f : BuildFault}

theorem run_addEncoder (env : GstEnv) (s : Stage) (o : Option BuiltEncoder) (p : Pipeline) :
    ∃ q, runCalls env s (addEncoder o) p = .goesOn q ∧
      (q.holds ⟨s, .encoder⟩ ↔ ∃ e ∈ o, env.installed e.factory) := by
  cases o with
  | none =>
    refine ⟨_, rfl, ?_⟩
    simp [Pipeline.holds]
  | some e =>
    refine ⟨_, rfl, ?_⟩
    by_cases he : env.installed e.factory <;> simp [Pipeline.holds, he]

theorem run_encoderCalls (s : Stage) (family : EncoderFamily) (p : Pipeline)
    (hdriver : family = .h264 ∧ asksDriver env.toEncoderEnv → env.driver.isSome) :
    ∃ q, runCalls env s (encoderCalls env family) p = .goesOn q ∧
      (q.holds ⟨s, .encoder⟩ ↔ ∃ e ∈ family.build env.toEncoderEnv, env.installed e.factory) := by
  have hadd := run_addEncoder env s (family.build env.toEncoderEnv) p
  rw [encoderCalls]
  split_ifs with hask
  · simpa [runCalls, Call.exec, hdriver hask] using hadd
  · exact hadd

/-- `get_encoder_src` ends the program exactly if there is an encoder and no way to show the system
information, or the encoder asks for a driver that cannot be told. -/
theorem encoder_faults_iff (cfg : PipelineConfig) (hacc : ∀ a b, env.accepts a b)
    (hfresh : ({} : Pipeline).Untouched .encoderSrc p) (hsrc : p.holds videoSource) :
    (∃ f, runCalls env .encoderSrc (getEncoderSrc env cfg) p = .faults f) ↔
      ((∃ e ∈ getVideoEncoderByName env.toEncoderEnv cfg.videnc, env.installed e.factory) ∧
        cfg.sysinfo ∧ ¬ env.installed (ofString "textoverlay")) ∨
      (asksDriver env.toEncoderEnv ∧ env.driver = none ∧
        videoEncoderFamily cfg.videnc = .h264) := by
  by_cases hmissing : asksDriver env.toEncoderEnv ∧ env.driver = none ∧
      videoEncoderFamily cfg.videnc = .h264
  · obtain ⟨hask, hnone, hfamily⟩ := hmissing
    refine iff_of_true ⟨.abort, ?_⟩ (.inr ⟨hask, hnone, hfamily⟩)
    rw [getEncoderSrc, hfamily, encoderCalls_asks hask]
    simp [runCalls, Call.exec, hnone]
  have hdriver : videoEncoderFamily cfg.videnc = .h264 ∧ asksDriver env.toEncoderEnv →
      env.driver.isSome := fun h ↦
    Option.isSome_iff_ne_none.mpr fun hnone ↦ hmissing ⟨h.2, hnone, h.1⟩
  rw [or_iff_left hmissing]
  obtain ⟨q, hq, hholds⟩ :=
    run_encoderCalls .encoderSrc (videoEncoderFamily cfg.videnc) p hdriver
  constructor
  · rintro ⟨f, hf⟩
    have htext : cfg.sysinfo ∧ ¬ env.installed (ofString "textoverlay") := by
      by_contra hnot
      refine runCalls_safe hacc (agrees_nil hfresh)
        (safe_getEncoderSrc env cfg fun hsys ↦ by_contra fun h ↦ hnot ⟨hsys, h⟩) ?_
        (fun h ↦ hdriver (mem_getEncoderSrc.mp h)) f hf
      intro c hc src hs _
      rw [source?_getEncoderSrc c hc src hs]
      exact hsrc
    refine ⟨?_, htext⟩
    by_contra hnone
    have hnot : ¬ q.holds ⟨.encoderSrc, .encoder⟩ := fun h ↦ hnone (hholds.mp h)
    simp only [getEncoderSrc, List.append_assoc] at hf
    rw [runCalls_append, hq] at hf
    simp [runCalls, Call.exec, hnot] at hf
  · rintro ⟨he, hsys, htext⟩
    have hq' := hholds.mpr he
    rw [Pipeline.holds] at hq'
    refine ⟨.abort, ?_⟩
    simp only [getEncoderSrc, List.append_assoc, hsys, if_true]
    rw [runCalls_append, hq]
    simp [runCalls, Call.exec, hq', htext, Pipeline.holds]

/-- **The device.** -/
theorem initialDevice_error_iff (cfg : PipelineConfig) (hacc : ∀ a b, env.accepts a b) :
    (∃ f, initialDevice env cfg = .error f) ↔ OverlayMissing env cfg ∨
      (asksDriver env.toEncoderEnv ∧ env.driver = none ∧
        videoEncoderFamily cfg.videnc = .h264 ∧
        ∃ p, runCalls env .videoSrc (getVideoSrc env cfg) {} = .goesOn p) := by
  have hvideoSafe : ∀ f, runCalls env .videoSrc (getVideoSrc env cfg) {} ≠ .faults f := by
    refine runCalls_safe hacc (agrees_nil (.refl _ _)) (safe_getVideoSrc env cfg) ?_
      fun h ↦ absurd h not_mem_getVideoSrc
    intro c hc src hs _
    rw [source?_getVideoSrc c hc] at hs
    cases hs
  have haudioSafe : ∀ p, ({} : Pipeline).Untouched .audioSrc p →
      ∀ f, runCalls env .audioSrc (getAudioSrc env) p ≠ .faults f := by
    intro p hfresh
    refine runCalls_safe hacc (agrees_nil hfresh) (safe_getAudioSrc env) ?_
      fun h ↦ absurd h not_mem_getAudioSrc
    intro c hc src hs _
    rw [source?_getAudioSrc c hc] at hs
    cases hs
  rw [initialDevice, OverlayMissing]
  rcases hvideo : runCalls env .videoSrc (getVideoSrc env cfg) {} with p₁ | p₁ | f
  · have hfar : ∀ s, s ≠ .videoSrc → ({} : Pipeline).Untouched s p₁ := fun s hs ↦
      runCalls_untouched (mem_of_goesOn hvideo)
        (fun l hl ↦ ((placed_getVideoSrc env cfg).1 l hl).1) hs
    have hiff := encoder_faults_iff cfg hacc (hfar .encoderSrc (by simp))
      (holds_videoSource hvideo)
    simp only [BuildOutcome.goesOn.injEq, exists_eq', true_and, and_true]
    rw [← hiff]
    rcases hencoder : runCalls env .encoderSrc (getEncoderSrc env cfg) p₁ with p₂ | p₂ | f
    · have hfresh : ({} : Pipeline).Untouched .audioSrc p₂ :=
        (hfar .audioSrc (by simp)).trans (runCalls_untouched (mem_of_goesOn hencoder)
          (fun l hl ↦ ((placed_getEncoderSrc env cfg).1 l hl).1) (by simp))
      refine iff_of_false ?_ (by simp)
      rintro ⟨f, hf⟩
      simp only at hf
      split_ifs at hf
      split at hf
      · next g haudio => exact haudioSafe p₂ hfresh g haudio
      all_goals cases hf
    · exact iff_of_false (by simp) (by simp)
    · exact iff_of_true ⟨f, rfl⟩ ⟨f, rfl⟩
  · exact iff_of_false (by simp) (by simp)
  · exact absurd hvideo (hvideoSafe f)

theorem runBranches_error {bs : List (Stage × List Call)}
    (hinto : ∀ b ∈ bs, ∀ l ∈ callLinks b.1 b.2, l.2.stage = b.1)
    (hdistinct : bs.Pairwise fun b c ↦ b.1 ≠ c.1) (h : runBranches env bs p = .error f) :
    ∃ b ∈ bs, ∃ p₁, (∀ t, (∀ b ∈ bs, t ≠ b.1) → p.Untouched t p₁) ∧ p.Untouched b.1 p₁ ∧
      runCalls env b.1 b.2 p₁ = .faults f := by
  induction bs generalizing p with
  | nil => cases h
  | cons c bs ih =>
    obtain ⟨hc, hbs⟩ := List.pairwise_cons.mp hdistinct
    rcases hrun : runCalls env c.1 c.2 p with q | q | g
    case faults =>
      simp only [runBranches, hrun] at h
      cases h
      exact ⟨c, List.mem_cons_self, p, fun t _ ↦ .refl t p, .refl _ p, hrun⟩
    all_goals
      simp only [runBranches, hrun] at h
      obtain ⟨b, hb, p₁, hsame, hown, hfault⟩ :=
        ih (fun b hb ↦ hinto b (List.mem_cons_of_mem c hb)) hbs h
      have hfirst : ∀ t, t ≠ c.1 → p.Untouched t q :=
        fun t ht ↦ runCalls_untouched (by rw [hrun]; rfl) (hinto c List.mem_cons_self) ht
      refine ⟨b, List.mem_cons_of_mem c hb, p₁, fun t ht ↦ ?_, ?_, hfault⟩
      · exact (hfirst t (ht c List.mem_cons_self)).trans
          (hsame t fun d hd ↦ ht d (List.mem_cons_of_mem c hd))
      · exact (hfirst b.1 (hc b hb).symm).trans hown

/-- What `av_hlssink` does before it asks for a pad of its encoder, when it has none. -/
def avMakes : List Call :=
  .setNull .encoder ::
    (makeElementAndAdd .hlssink (ofString "hlssink") ++
    makeElementAndAdd .videoparse (ofString "h264parse") ++
    makeElementAndAdd .vqueue (ofString "queue") ++
    makeElementAndAdd .mpegtsmux (ofString "mpegtsmux") ++
    [.linkMany [.vqueue, .videoparse, .mpegtsmux, .hlssink] true])

theorem avHlssink_split (audio : Bool) (henc : getHardwareH264Encoder env.toEncoderEnv = none) :
    ∃ rest, avHlssink env audio
      = avMakes ++ .linkRequestSrcPad ⟨.avHls, .encoder⟩ .vqueue :: rest := by
  have hasks : ¬ asksDriver env.toEncoderEnv := by simp [asksDriver, henc]
  rw [avHlssink, encoderCalls, if_neg fun h ↦ hasks h.2, EncoderFamily.build, henc, avMakes]
  cases audio <;> exact ⟨_, rfl⟩

theorem source?_avMakes : ∀ c ∈ avMakes, c.source? = none := by
  simp [avMakes, makeElementAndAdd, Call.source?]

theorem avMakes_safe (hacc : ∀ a b, env.accepts a b) (hfresh : ({} : Pipeline).Untouched .avHls p) :
    ∀ f, runCalls env .avHls avMakes p ≠ .faults f := by
  have hsafe : safe env .avHls .pipeline {} avMakes := safe_of_shape (by decide +kernel)
  refine runCalls_safe hacc (agrees_nil hfresh) hsafe (fun c hc src hs ↦ ?_)
    (by simp [avMakes, makeElementAndAdd])
  rw [source?_avMakes c hc] at hs
  cases hs

theorem goesOn_avMakes_iff (hacc : ∀ a b, env.accepts a b)
    (hfresh : ({} : Pipeline).Untouched .avHls p) :
    (∃ q, runCalls env .avHls avMakes p = .goesOn q) ↔
      ∀ f ∈ ["hlssink", "h264parse", "queue", "mpegtsmux"], env.installed (ofString f) := by
  constructor
  · rintro ⟨q, hq⟩
    have hreq := installed_of_goesOn hfresh hq
    simp [avMakes, makeElementAndAdd, Call.required, Installed] at hreq
    simp [hreq]
  · intro hinst
    have hready : ready env .pipeline {} avMakes := by
      simp at hinst
      simp [avMakes, makeElementAndAdd, ready, Call.ready, Call.next, hinst]
    have hstay : ∀ q ∈ (runCalls env .avHls avMakes p).pipeline?,
        runCalls env .avHls avMakes p = .goesOn q := fun q hq ↦ by
      refine runCalls_stays (knows_nil hfresh) hready (fun c hc src hs ↦ ?_)
        (by simp [avMakes, makeElementAndAdd, Call.quits]) hq
      rw [source?_avMakes c hc] at hs
      cases hs
    rcases hrun : runCalls env .avHls avMakes p with q | q | f
    · exact ⟨q, rfl⟩
    · exact ⟨q, hrun ▸ hstay q (mem_of_leaves hrun)⟩
    · exact absurd hrun (avMakes_safe hacc hfresh f)

/-- **Without an encoder** `av_hlssink` follows a `NULL` pointer, if it gets to that. -/
theorem av_faults_iff (hacc : ∀ a b, env.accepts a b) {audio : Bool}
    (hfresh : ({} : Pipeline).Untouched .avHls p) (haudio : audio → p.holds audioSource)
    (hdriver : .getVideoDriverName ∈ avHlssink env audio → env.driver.isSome) :
    (∃ f, runCalls env .avHls (avHlssink env audio) p = .faults f) ↔
      (∀ f ∈ ["hlssink", "h264parse", "queue", "mpegtsmux"], env.installed (ofString f)) ∧
        getHardwareH264Encoder env.toEncoderEnv = none := by
  cases henc : getHardwareH264Encoder env.toEncoderEnv with
  | some e =>
    have hinst : env.installed e.factory := by
      rw [getHardwareH264Encoder] at henc
      have h := List.find?_some henc
      exact h
    have hsafe := safe_avHlssink env audio henc hinst
    refine iff_of_false ?_ ?_
    · rintro ⟨f, hf⟩
      refine runCalls_safe hacc (agrees_nil hfresh) hsafe ?_ hdriver f hf
      intro c hc src hs hstage
      have hshape : ∀ c ∈ (avHlssink env audio).map Call.shape, ∀ src ∈ c.source?,
          src = ⟨.avHls, .encoder⟩ ∨ audio ∧ src = audioSource := by
        rw [avHlssink]
        rcases shape_encoderCalls env .h264 with h | h | h <;> cases audio <;>
          simp only [List.map_append, h] <;> decide +kernel
      have hsrc := hshape _ (List.mem_map_of_mem hc) src (by rwa [Call.source?_shape])
      rcases hsrc with rfl | ⟨ha, rfl⟩
      · exact absurd rfl hstage
      · exact haudio ha
    · rintro ⟨-, h⟩
      cases h
  | none =>
    obtain ⟨rest, hsplit⟩ := avHlssink_split audio henc
    have hgoes := goesOn_avMakes_iff hacc hfresh
    rw [hsplit, runCalls_append, ← hgoes]
    rcases hrun : runCalls env .avHls avMakes p with q | q | f
    · have hnull : q.value ⟨.avHls, .encoder⟩ = some none := by
        have hkeep : ∀ c ∈ avMakes.tail, ∀ v ∈ c.var?,
            (⟨.avHls, .encoder⟩ : Elem) ≠ ⟨.avHls, v⟩ := by
          simp [avMakes, makeElementAndAdd, Call.var?]
        have htail : runCalls env .avHls avMakes.tail (p.set ⟨.avHls, .encoder⟩ none)
            = .goesOn q := hrun
        rw [runCalls_value (mem_of_goesOn htail) hkeep, Pipeline.value_set, if_pos rfl]
      refine iff_of_true ?_ ⟨⟨q, rfl⟩, rfl⟩
      simp only [runCalls, Call.exec, requestLink, hnull]
      rcases q.value ⟨.avHls, .vqueue⟩ with _ | _ | f <;> exact ⟨_, rfl⟩
    · refine iff_of_false ?_ ?_
      · rintro ⟨f, hf⟩
        cases hf
      · rintro ⟨⟨q, hq⟩, -⟩
        cases hq
    · exact absurd hrun (avMakes_safe hacc hfresh f)

theorem mem_branches_avHls (env : GstEnv) (cfg : PipelineConfig) (audio : Bool) :
    (∃ cs, (.avHls, cs) ∈ branches env cfg audio) ↔ cfg.avHlssink := by
  simp [branches]

/-- A branch other than that of `av_hlssink` ends the program only when it asks for the driver. -/
theorem branch_safe (hacc : ∀ a b, env.accepts a b) (hi : initialDevice env cfg = .ok i)
    (hinit : i.isInitial) {s : Stage} {cs : List Call} (hb : (s, cs) ∈ branches env cfg i.audio)
    (hs : s ≠ .avHls) (hown : i.pipeline.Untouched s p)
    (hsame : ∀ t, t = .videoSrc ∨ t = .encoderSrc ∨ t = .audioSrc → i.pipeline.Untouched t p)
    (hdriver : .getVideoDriverName ∈ cs → env.driver.isSome) :
    ∀ f, runCalls env s cs p ≠ .faults f := by
  obtain ⟨hvideo, hencoder, haudio, hfar⟩ := holds_of_initialDevice hi hinit
  have hstage := branches_stage env cfg i.audio _ hb
  have hfeed : ∃ src first sink, s.feed = some (src, first) ∧ s.sink = some sink := by
    cases s with
    | avHls => exact absurd rfl hs
    | videoSrc => exact absurd rfl hstage.1
    | encoderSrc => exact absurd rfl hstage.2.1
    | audioSrc => exact absurd rfl hstage.2.2
    | _ => exact ⟨_, _, _, rfl, rfl⟩
  obtain ⟨src, first, sink, hfeed, hsink⟩ := hfeed
  have hfed := fed_branches env cfg i.audio hb hfeed hsink
  have hsrc : src = videoSource ∨ src = videoEncoder := by
    cases s <;> cases hfeed <;> simp
  obtain ⟨par, hsafe⟩ := safe_branch env cfg i.audio hs
  rw [← calls_of_mem_branches env cfg i.audio hb] at hsafe
  refine runCalls_safe hacc (agrees_nil ((hfar s hstage).trans hown)) hsafe (fun c hc e he _ ↦ ?_)
    hdriver
  rcases hfed.sources c hc e he with rfl | ⟨ha, rfl⟩
  · rcases hsrc with rfl | rfl
    · rw [Pipeline.holds, (hsame _ (.inl rfl)).value videoSource rfl]
      exact hvideo
    · rw [Pipeline.holds, (hsame _ (.inr (.inl rfl))).value videoEncoder rfl]
      exact hencoder
  · rw [Pipeline.holds, (hsame _ (.inr (.inr rfl))).value audioSource rfl]
    exact haudio ha

/-- A branch ends the program when it is called. -/
def Stage.Ends (env : GstEnv) (s : Stage) : Prop :=
  (s = .avHls ∧
    (∀ f ∈ ["hlssink", "h264parse", "queue", "mpegtsmux"], env.installed (ofString f)) ∧
    getHardwareH264Encoder env.toEncoderEnv = none) ∨
  (asksDriver env.toEncoderEnv ∧ env.driver = none ∧
    ∃ fs ∈ s.beforeEncoder, ∀ f ∈ fs, env.installed f.2)

/-- **A branch.** Where the driver cannot be told, what counts is what the branch makes before it
asks. Elsewhere only `av_hlssink` can end the program. -/
theorem branch_faults_iff (hacc : ∀ a b, env.accepts a b) (hi : initialDevice env cfg = .ok i)
    (hinit : i.isInitial) {s : Stage} {cs : List Call} (hb : (s, cs) ∈ branches env cfg i.audio)
    (hown : i.pipeline.Untouched s p)
    (hsame : ∀ t, t = .videoSrc ∨ t = .encoderSrc ∨ t = .audioSrc → i.pipeline.Untouched t p) :
    (∃ f, runCalls env s cs p = .faults f) ↔ s.Ends env := by
  obtain ⟨-, -, haudio, hfar⟩ := holds_of_initialDevice hi hinit
  have hcs := calls_of_mem_branches env cfg i.audio hb
  have hasks : .getVideoDriverName ∈ cs → s.beforeEncoder.isSome ∧ asksDriver env.toEncoderEnv :=
    fun h ↦ asks_of_mem_calls env cfg i.audio (hcs ▸ h)
  rw [Stage.Ends]
  by_cases hmissing : asksDriver env.toEncoderEnv ∧ env.driver = none
  · obtain ⟨hask, hnone⟩ := hmissing
    have henc : getHardwareH264Encoder env.toEncoderEnv ≠ none := by
      intro henc
      simp [asksDriver, henc] at hask
    rw [or_iff_right fun h ↦ henc h.2.2]
    cases hbefore : s.beforeEncoder with
    | none =>
      have hs : s ≠ .avHls := by
        rintro rfl
        cases hbefore
      refine iff_of_false ?_ (by simp)
      rintro ⟨f, hf⟩
      refine branch_safe hacc hi hinit hb hs hown hsame (fun h ↦ ?_) f hf
      have hsome := (hasks h).1
      rw [hbefore] at hsome
      cases hsome
    | some fs =>
      obtain ⟨rest, hrest⟩ := calls_beforeEncoder env cfg i.audio hbefore
      rw [hcs, hrest, encoderCalls_asks hask, List.cons_append, makes_faults_iff hnone]
      simp [hask, hnone]
  · have hdriver : asksDriver env.toEncoderEnv → env.driver.isSome := fun hask ↦
      Option.isSome_iff_ne_none.mpr fun hnone ↦ hmissing ⟨hask, hnone⟩
    rw [or_iff_left fun h ↦ hmissing ⟨h.1, h.2.1⟩]
    by_cases hs : s = .avHls
    · subst hs
      have hsound : i.audio → p.holds audioSource := fun ha ↦ by
        rw [Pipeline.holds, (hsame _ (.inr (.inr rfl))).value audioSource rfl]
        exact haudio ha
      subst hcs
      rw [Stage.calls, av_faults_iff hacc ((hfar .avHls (by simp)).trans hown) hsound
        fun h ↦ hdriver (hasks h).2]
      simp
    · refine iff_of_false ?_ fun h ↦ hs h.1
      rintro ⟨f, hf⟩
      exact branch_safe hacc hi hinit hb hs hown hsame (fun h ↦ hdriver (hasks h).2) f hf

theorem runBranches_error_iff (hacc : ∀ a b, env.accepts a b) (hi : initialDevice env cfg = .ok i)
    (hinit : i.isInitial) :
    (∃ f, runBranches env (branches env cfg i.audio) i.pipeline = .error f) ↔
      ∃ b ∈ branches env cfg i.audio, b.1.Ends env := by
  have hinto := callLinks_into env cfg i.audio
  have hdistinct := branches_pairwise env cfg i.audio
  constructor
  · rintro ⟨f, hf⟩
    obtain ⟨b, hb, p₁, hsame, hown, hfault⟩ := runBranches_error hinto hdistinct hf
    exact ⟨b, hb, (branch_faults_iff hacc hi hinit hb hown fun t ht ↦
      hsame t (ne_stage_of_source env cfg i.audio ht)).mp ⟨f, hfault⟩⟩
  · rintro ⟨b, hb, hends⟩
    rcases hrun : runBranches env (branches env cfg i.audio) i.pipeline with f | p'
    · exact ⟨f, rfl⟩
    · obtain ⟨p₁, p₂, hsame, hown, hp₂, -⟩ := (runBranches_at hinto hdistinct hrun).2 _ hb
      obtain ⟨f, hf⟩ := (branch_faults_iff hacc hi hinit hb hown fun t ht ↦
        hsame t (ne_stage_of_source env cfg i.audio ht)).mpr hends
      simp only [hf] at hp₂
      cases hp₂

/-- **What ends the program.** Where no pad is refused, `create_instance` ends the program in three
cases exactly: it has an encoder and cannot show the system information, it is to write the video to
`hlssink` and has no H.264 encoder, or its encoder depends on a driver that the camera does not
tell. -/
theorem createInstance_error_iff (env : GstEnv) (cfg : PipelineConfig)
    (hacc : ∀ a b, env.accepts a b) :
    (∃ f, createInstance env cfg = .error f) ↔
      OverlayMissing env cfg ∨ EncoderMissing env cfg ∨ DriverMissing env cfg := by
  have hdevice := initialDevice_error_iff cfg hacc
  rw [createInstance, EncoderMissing, DriverMissing]
  rcases hi : initialDevice env cfg with f | i
  · refine iff_of_true ⟨f, rfl⟩ ((hdevice.mp ⟨f, hi⟩).imp_right fun h ↦ ?_)
    exact .inr ⟨h.1, h.2.1, .inl h.2.2⟩
  · have hfine := (not_congr hdevice).mp (by simp [hi])
    obtain ⟨hoverlay, hfamily⟩ := not_or.mp hfine
    have hav := mem_branches_avHls env cfg i.audio
    simp only [bind, Except.bind, hoverlay, false_or, Except.ok.injEq, exists_eq_left']
    by_cases hinit : i.isInitial
    · rw [if_pos hinit, runBranches_error_iff hacc hi hinit]
      constructor
      · rintro ⟨⟨s, cs⟩, hb, ⟨rfl, hfour, hnone⟩ | ⟨hask, hnone, hbefore⟩⟩
        · exact .inl ⟨hinit, hav.mp ⟨cs, hb⟩, hfour, hnone⟩
        · exact .inr ⟨hask, hnone, .inr ⟨hinit, (s, cs), hb, hbefore⟩⟩
      · rintro (⟨-, hon, hfour, hnone⟩ | ⟨hask, hnone, hboth | ⟨-, b, hb, hbefore⟩⟩)
        · obtain ⟨cs, hb⟩ := hav.mpr hon
          exact ⟨_, hb, .inl ⟨rfl, hfour, hnone⟩⟩
        · exact absurd ⟨hask, hnone, hboth⟩ hfamily
        · exact ⟨b, hb, .inr ⟨hask, hnone, hbefore⟩⟩
    · rw [if_neg hinit]
      refine iff_of_false ?_ ?_
      · rintro ⟨f, hf⟩
        cases hf
      · rintro (h | ⟨hask, hnone, hboth | h⟩)
        · exact hinit h.1
        · exact hfamily ⟨hask, hnone, hboth⟩
        · exact hinit h.1

/-- Each of the three ways, the last in a branch. -/
theorem createInstance_error_without :
    (∃ f, createInstance (without ["textoverlay"]) richConfig = .error f) ∧
      (∃ f, createInstance (without (desktopH264 ++ boardH264))
        { richConfig with videnc := ofString "vp9", avHlssink := true } = .error f) ∧
      ∃ f, createInstance { without desktopH264 with driver := none }
        { richConfig with videnc := ofString "vp9" } = .error f := by
  refine ⟨?overlay, ?encoder, ?driver⟩
  case overlay =>
    exact (createInstance_error_iff _ _ fun _ _ ↦ rfl).mpr (.inl (by decide +kernel))
  case encoder =>
    exact (createInstance_error_iff _ _ fun _ _ ↦ rfl).mpr (.inr (.inl (by decide +kernel)))
  case driver =>
    exact (createInstance_error_iff _ _ fun _ _ ↦ rfl).mpr (.inr (.inr (by decide +kernel)))

end Faults

end GstWebrtcCamera

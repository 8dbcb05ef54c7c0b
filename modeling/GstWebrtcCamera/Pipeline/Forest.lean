import GstWebrtcCamera.Pipeline.Stages

/-!
# The shape of the pipeline

Whatever is missing and whatever is refused, the links of the pipeline are some of those the calls
ask for, in their order. So what can be said of the calls, pair by pair, can be said of the
pipeline: it has no cycle, and no pad is linked twice. Only a `tee` feeds two elements, and only a
muxer is fed by two.
-/

namespace GstWebrtcCamera

open Flow CString

/-! ## The links that are asked for -/

/-- The links a call asks for. -/
def Call.links (s : Stage) : Call → List (Elem × Elem)
  | linkMany vs _ => pairs (vs.map (⟨s, ·⟩))
  | linkRequestSrcPad src dst | linkRequestSrcPadWithDstName src dst => [(src, ⟨s, dst⟩)]
  | _ => []

/-- The links a function asks for. -/
def callLinks (s : Stage) (cs : List Call) : List (Elem × Elem) := cs.flatMap (Call.links s)

/-- The pipeline that is left behind, unless the program comes to an end. -/
def BuildOutcome.pipeline? : BuildOutcome → Option Pipeline
  | goesOn p | leaves p => some p
  | faults _ => none

theorem mem_of_goesOn {o : BuildOutcome} {p : Pipeline} (h : o = .goesOn p) :
    p ∈ o.pipeline? := by
  rw [h]
  rfl

theorem mem_of_leaves {o : BuildOutcome} {p : Pipeline} (h : o = .leaves p) :
    p ∈ o.pipeline? := by
  rw [h]
  rfl

/-- The links of `p'` are those of `p` and then some of these, in their order. -/
def Pipeline.Grows (p p' : Pipeline) (asked : List (Elem × Elem)) : Prop :=
  ∃ added, p'.links = p.links ++ added ∧ added.Sublist asked

namespace Pipeline.Grows

variable {p p' p'' : Pipeline} {l l' : List (Elem × Elem)}

theorem of_links_eq (h : p'.links = p.links) : p.Grows p' l :=
  ⟨[], by rw [h, List.append_nil], List.nil_sublist l⟩

theorem trans (h : p.Grows p' l) (h' : p'.Grows p'' l') : p.Grows p'' (l ++ l') := by
  obtain ⟨added, hlinks, hsub⟩ := h
  obtain ⟨added', hlinks', hsub'⟩ := h'
  exact ⟨added ++ added', by rw [hlinks', hlinks, List.append_assoc], hsub.append hsub'⟩

theorem mono (h : p.Grows p' l) (hl : l.Sublist l') : p.Grows p' l' := by
  obtain ⟨added, hlinks, hsub⟩ := h
  exact ⟨added, hlinks, hsub.trans hl⟩

end Pipeline.Grows

section Calls

variable {env : GstEnv} {s : Stage} {p p' : Pipeline}

theorem linkLoop_links (env : GstEnv) (es : List Elem) :
    ∀ (p : Pipeline) (a : Elem), ∃ l, l <+: a :: es ∧
      (linkLoop env p a es).1.links = p.links ++ pairs l := by
  induction es with
  | nil => exact fun p a ↦ ⟨[], List.nil_prefix, by simp [linkLoop]⟩
  | cons b rest ih =>
    intro p a
    rw [linkLoop]
    split
    · split
      · obtain ⟨l, hl, hlinks⟩ := ih (p.link a b) b
        cases l with
        | nil =>
          refine ⟨[a, b], ?_, by rw [hlinks]; simp [Pipeline.link]⟩
          exact List.cons_prefix_cons.mpr ⟨rfl, List.cons_prefix_cons.mpr ⟨rfl, List.nil_prefix⟩⟩
        | cons c l =>
          obtain ⟨rfl, hl'⟩ := List.cons_prefix_cons.mp hl
          refine ⟨a :: c :: l, ?_, by rw [hlinks]; simp [Pipeline.link]⟩
          exact List.cons_prefix_cons.mpr ⟨rfl, hl⟩
      · exact ⟨[], List.nil_prefix, by simp⟩
    · exact ⟨[], List.nil_prefix, by simp⟩

theorem elementLinkMany_links (env : GstEnv) (p : Pipeline) (es : List Elem) :
    p.Grows (elementLinkMany env p es).1 (pairs es) := by
  have hnone : p.Grows p (pairs es) := .of_links_eq rfl
  rcases es with _ | ⟨a, _ | ⟨b, rest⟩⟩
  · exact hnone
  · exact hnone
  · rw [elementLinkMany]
    split
    · obtain ⟨l, hl, hlinks⟩ := linkLoop_links env (b :: rest) p a
      exact ⟨pairs l, hlinks, (pairs_isPrefix hl).sublist⟩
    · exact hnone

theorem requestLink_links {src dst : Elem} {links : Bool}
    (h : p' ∈ (requestLink p src dst links).pipeline?) : p.Grows p' [(src, dst)] := by
  rw [requestLink] at h
  split at h
  · rw [BuildOutcome.pipeline?, Option.mem_some_iff] at h
    cases links with
    | true => exact ⟨[(src, dst)], by rw [← h]; rfl, List.Sublist.refl _⟩
    | false => exact .of_links_eq (by rw [← h]; rfl)
  all_goals simp [BuildOutcome.pipeline?] at h

theorem Call.exec_links {c : Call} (h : p' ∈ (c.exec env s p).pipeline?) :
    p.Grows p' (c.links s) := by
  cases c with
  | factoryMake v f =>
    cases h
    exact .of_links_eq rfl
  | setNull v =>
    cases h
    exact .of_links_eq rfl
  | binAddMany parent vs =>
    cases h
    exact .of_links_eq rfl
  | binAddBin =>
    cases h
    exact .of_links_eq rfl
  | require vs =>
    rw [exec] at h
    split at h <;> cases h <;> exact .of_links_eq rfl
  | assertNonnull v =>
    rw [exec] at h
    split at h
    · cases h
      exact .of_links_eq rfl
    · cases h
  | linkMany vs fatal =>
    rw [exec] at h
    split at h
    · cases h
    · have hgrows := elementLinkMany_links env p (vs.map (⟨s, ·⟩))
      split at h
      · next heq =>
        cases h
        rw [heq] at hgrows
        exact hgrows
      · next heq =>
        rw [heq] at hgrows
        split at h
        · cases h
        · cases h
          exact hgrows
  | getVideoDriverName =>
    rw [exec] at h
    split at h
    · cases h
      exact .of_links_eq rfl
    · cases h
  | linkRequestSrcPad src dst => exact requestLink_links h
  | linkRequestSrcPadWithDstName src dst => exact requestLink_links h

theorem runCalls_links {cs : List Call} (h : p' ∈ (runCalls env s cs p).pipeline?) :
    p.Grows p' (callLinks s cs) := by
  induction cs generalizing p with
  | nil =>
    cases h
    exact .of_links_eq rfl
  | cons c cs ih =>
    rw [runCalls] at h
    rw [callLinks, List.flatMap_cons]
    split at h
    · next p₁ hexec =>
      have hfirst : p.Grows p₁ (c.links s) := Call.exec_links (mem_of_goesOn hexec)
      exact hfirst.trans (ih h)
    · exact (Call.exec_links h).mono (List.sublist_append_left _ _)

theorem runBranches_links {bs : List (Stage × List Call)}
    (h : runBranches env bs p = .ok p') :
    p.Grows p' (bs.flatMap fun b ↦ callLinks b.1 b.2) := by
  induction bs generalizing p with
  | nil =>
    cases h
    exact .of_links_eq rfl
  | cons b bs ih =>
    rw [runBranches] at h
    rw [List.flatMap_cons]
    split at h
    · cases h
    all_goals
      next p₁ hrun =>
      have hfirst : p.Grows p₁ (callLinks b.1 b.2) := runCalls_links (by rw [hrun]; rfl)
      exact hfirst.trans (ih h)

end Calls

/-- Every function that may be called, in the order of the calls. -/
def plan (env : GstEnv) (cfg : PipelineConfig) (audio : Bool) : List (Stage × List Call) :=
  [(.videoSrc, getVideoSrc env cfg), (.encoderSrc, getEncoderSrc env cfg),
    (.audioSrc, getAudioSrc env)] ++ branches env cfg audio

/-- The links of the plan. -/
def planLinks (env : GstEnv) (cfg : PipelineConfig) (audio : Bool) : List (Elem × Elem) :=
  (plan env cfg audio).flatMap fun b ↦ callLinks b.1 b.2

section Plan

variable {env : GstEnv} {cfg : PipelineConfig} {p : Pipeline} {i : Initialized}

theorem initialDevice_links (h : initialDevice env cfg = .ok i) :
    ({} : Pipeline).Grows i.pipeline
      (callLinks .videoSrc (getVideoSrc env cfg) ++ (callLinks .encoderSrc (getEncoderSrc env cfg) ++
        callLinks .audioSrc (getAudioSrc env))) := by
  rw [initialDevice] at h
  split at h
  · cases h
  · next p₁ hvideo =>
    cases h
    refine (runCalls_links (mem_of_leaves hvideo)).mono (List.sublist_append_left _ _)
  · next p₁ hvideo =>
    refine (runCalls_links (mem_of_goesOn hvideo)).trans ?_
    split at h
    · cases h
    · next p₂ hencoder =>
      cases h
      exact (runCalls_links (mem_of_leaves hencoder)).mono (List.sublist_append_left _ _)
    · next p₂ hencoder =>
      refine (runCalls_links (mem_of_goesOn hencoder)).trans ?_
      split at h
      · split at h
        · cases h
        all_goals
          next haudio =>
          cases h
          exact runCalls_links (by rw [haudio]; rfl)
      · cases h
        exact .of_links_eq rfl

theorem createInstance_links (h : createInstance env cfg = .ok p) :
    ∃ i, initialDevice env cfg = .ok i ∧ p.links.Sublist (planLinks env cfg i.audio) := by
  rw [createInstance] at h
  rcases hinit : initialDevice env cfg with f | i
  · rw [hinit] at h
    cases h
  · have hgrows := initialDevice_links hinit
    rw [hinit] at h
    simp only [bind, Except.bind] at h
    refine ⟨i, rfl, ?_⟩
    have hplan : ({} : Pipeline).Grows p (planLinks env cfg i.audio) := by
      have heq : planLinks env cfg i.audio
          = (callLinks .videoSrc (getVideoSrc env cfg) ++
              (callLinks .encoderSrc (getEncoderSrc env cfg) ++
                callLinks .audioSrc (getAudioSrc env))) ++
            (branches env cfg i.audio).flatMap fun b ↦ callLinks b.1 b.2 := by
        simp [planLinks, plan]
      rw [heq]
      split at h
      · exact hgrows.trans (runBranches_links h)
      · cases h
        exact hgrows.mono (List.sublist_append_left _ _)
    obtain ⟨added, hlinks, hsub⟩ := hplan
    rw [hlinks]
    exact hsub

end Plan

/-! ## What the plan looks like -/

/-- The elements of a function, in the order the data takes. -/
def Stage.order : Stage → List Var
  | videoSrc => [.source, .capsfilter, .jpegparse, .jpegdec, .vapp, .queue, .teesrc]
  | encoderSrc => [.videoconvert, .textoverlay, .clock, .encoder, .h264Caps, .teesrc]
  | audioSrc => [.source, .amp, .filter, .postconv, .enc, .teesrc]
  | splitfile => [.vqueue, .clock, .textoverlay, .encoder, .videoparse, .splitmuxsink]
  | udpMulticast => [.vqueue, .cparse, .aqueue, .mpegtsmux, .rtpmp2tpay, .udpsink]
  | avHls => [.encoder, .vqueue, .videoparse, .aqueue, .opusparse, .mpegtsmux, .hlssink]
  | edgeHls => [.preConvert, .edgedetect, .postConvert, .textoverlay, .clock, .encoder, .postQueue,
      .videoparse, .mpegtsmux, .hlssink]
  | cvtrackerHls => [.preConvert, .cvtracker, .postConvert, .textoverlay, .clock, .encoder, .queue,
      .videoparse, .mpegtsmux, .hlssink]
  | facedetectHls => [.queue, .preConvert, .facedetect, .postConvert, .textoverlay, .encoder,
      .postQueue, .videoparse, .mpegtsmux, .hlssink]
  | motionHls => [.preConvert, .motioncells, .postConvert, .textoverlay, .clock, .encoder, .queue,
      .videoparse, .mpegtsmux, .hlssink]
  | avAppsink | avUdpsink => [.vqueue, .videoparse, .videoPay, .videoSink, .aqueue, .audioPay,
      .audioSink]

/-- The video comes before the encoder, and both before the branches. -/
def Stage.level : Stage → ℕ
  | videoSrc => 0
  | encoderSrc => 1
  | audioSrc => 1
  | _ => 2

/-- How far down an element is. -/
def Elem.rank (e : Elem) : ℕ := 64 * e.stage.level + e.stage.order.idxOf e.var

/-- The links of one function: they lead into it, down, from its own elements or a `tee`, and use no
pad twice. -/
def Placed (s : Stage) (links : List (Elem × Elem)) : Prop :=
  (∀ l ∈ links, l.2.stage = s ∧ (l.1.stage = s ∨ l.1.var = .teesrc) ∧ l.1.rank < l.2.rank) ∧
    (links.Pairwise fun a b ↦ a.2 = b.2 → a.2.var = .mpegtsmux) ∧
    links.Pairwise fun a b ↦ a.1 = b.1 → a.1.var = .teesrc

instance (s : Stage) (links : List (Elem × Elem)) : Decidable (Placed s links) :=
  inferInstanceAs (Decidable (_ ∧ _ ∧ _))

section Placed

variable (env : GstEnv) (cfg : PipelineConfig) (audio : Bool)

@[simp] theorem callLinks_nil (s : Stage) : callLinks s [] = [] := rfl

theorem callLinks_cons (s : Stage) (c : Call) (cs : List Call) :
    callLinks s (c :: cs) = c.links s ++ callLinks s cs := rfl

@[simp] theorem callLinks_append (s : Stage) (cs cs' : List Call) :
    callLinks s (cs ++ cs') = callLinks s cs ++ callLinks s cs' := List.flatMap_append

@[simp] theorem callLinks_encoderCalls (s : Stage) (family : EncoderFamily) :
    callLinks s (encoderCalls env family) = [] := by
  rw [encoderCalls, callLinks_append]
  split_ifs <;> cases family.build env.toEncoderEnv <;> rfl

@[simp] theorem callLinks_makeElementAndAdd (s : Stage) (v : Var) (f : CString) :
    callLinks s (makeElementAndAdd v f) = [] := rfl

@[simp] theorem callLinks_subBinMakeElementAndAdd (s : Stage) (v : Var) (f : CString) :
    callLinks s (subBinMakeElementAndAdd v f) = [] := rfl

@[simp] theorem callLinks_postprocCalls (s : Stage) : callLinks s (postprocCalls env) = [] := by
  rw [postprocCalls]
  split_ifs <;> rfl

theorem placed_getVideoSrc : Placed .videoSrc (callLinks .videoSrc (getVideoSrc env cfg)) := by
  have hpostproc : postproc env = [.vapp] ∨ postproc env = [] := by
    rw [postproc]
    split_ifs
    · exact .inl rfl
    · exact .inr rfl
  rw [getVideoSrc, callLinks_append]
  split_ifs
  · cases hsoft : softwareDecodes env <;> cases hparse : env.installed (.ofString "jpegparse") <;>
      rcases hpostproc with hpost | hpost <;>
      simp [jpegCalls, hsoft, hparse, hpost, callLinks_cons, Call.links] <;> decide
  · rcases hpostproc with hpost | hpost <;> simp [rawCalls, hpost] <;> decide

theorem placed_getEncoderSrc :
    Placed .encoderSrc (callLinks .encoderSrc (getEncoderSrc env cfg)) := by
  cases hsys : cfg.sysinfo <;> cases hcodec : isH264 cfg <;>
    simp [getEncoderSrc, hsys, hcodec] <;> decide

theorem placed_getAudioSrc : Placed .audioSrc (callLinks .audioSrc (getAudioSrc env)) := by
  simp only [callLinks, getAudioSrc, List.flatMap_cons, Call.links]
  decide

theorem placed_splitfileSink : Placed .splitfile (callLinks .splitfile (splitfileSink env)) := by
  simp only [splitfileSink, callLinks_append, callLinks_encoderCalls, callLinks_makeElementAndAdd]
  decide

theorem placed_udpMulticastsink :
    Placed .udpMulticast (callLinks .udpMulticast (udpMulticastsink audio)) := by
  cases audio <;> decide

theorem placed_avHlssink : Placed .avHls (callLinks .avHls (avHlssink env audio)) := by
  cases audio <;>
    simp only [avHlssink, callLinks_append, callLinks_encoderCalls, callLinks_makeElementAndAdd] <;>
    decide

theorem placed_edgedectHlssink :
    Placed .edgeHls (callLinks .edgeHls (edgedectHlssink env cfg)) := by
  cases hshow : cfg.showtext <;> simp [edgedectHlssink, hshow] <;> decide

theorem placed_cvtrackerHlssink :
    Placed .cvtrackerHls (callLinks .cvtrackerHls (cvtrackerHlssink env cfg)) := by
  cases hshow : cfg.showtext <;> simp [cvtrackerHlssink, hshow] <;> decide

theorem placed_facedetectHlssink :
    Placed .facedetectHls (callLinks .facedetectHls (facedetectHlssink env cfg)) := by
  cases hshow : cfg.showtext <;> simp [facedetectHlssink, hshow] <;> decide

theorem placed_motionHlssink : Placed .motionHls (callLinks .motionHls (motionHlssink env cfg)) := by
  cases hshow : cfg.showtext <;> simp [motionHlssink, hshow] <;> decide

theorem placed_parseAndLink {s : Stage} (hs : s = .avAppsink ∨ s = .avUdpsink) :
    Placed s (callLinks s (parseAndLink cfg) ++ [(videoEncoder, ⟨s, .vqueue⟩),
      (⟨s, .aqueue⟩, ⟨s, .audioPay⟩), (⟨s, .audioPay⟩, ⟨s, .audioSink⟩),
      (audioSource, ⟨s, .aqueue⟩)]) := by
  rw [parseAndLink]
  split_ifs
  · rw [callLinks_append, callLinks_makeElementAndAdd]
    rcases hs with rfl | rfl <;> decide
  · rcases hs with rfl | rfl <;> decide

theorem Placed.sublist {s : Stage} {l l' : List (Elem × Elem)} (h : Placed s l)
    (hsub : l'.Sublist l) : Placed s l' :=
  ⟨fun x hx ↦ h.1 x (hsub.subset hx), h.2.1.sublist hsub, h.2.2.sublist hsub⟩

theorem placed_startAvAppsink :
    Placed .avAppsink (callLinks .avAppsink (startAvAppsink cfg audio)) := by
  refine (placed_parseAndLink cfg (.inl rfl)).sublist ?_
  simp only [startAvAppsink, callLinks_append, callLinks_makeElementAndAdd, List.nil_append]
  cases audio <;> simp [callLinks_cons, Call.links]

theorem placed_startAvUdpsink :
    Placed .avUdpsink (callLinks .avUdpsink (startAvUdpsink cfg audio)) := by
  refine (placed_parseAndLink cfg (.inr rfl)).sublist ?_
  simp only [startAvUdpsink, callLinks_append, callLinks_makeElementAndAdd, List.nil_append]
  cases audio <;> simp [callLinks_cons, Call.links]

theorem placed_branches : ∀ b ∈ branches env cfg audio, Placed b.1 (callLinks b.1 b.2) := by
  intro b hb
  simp only [branches, List.mem_filterMap, List.mem_cons, List.not_mem_nil, or_false] at hb
  obtain ⟨c, hc, hcb⟩ := hb
  split at hcb
  · cases hcb
    rcases hc with rfl | rfl | rfl | rfl | rfl | rfl | rfl | rfl | rfl
    · exact placed_splitfileSink env
    · exact placed_udpMulticastsink audio
    · exact placed_avHlssink env audio
    · exact placed_edgedectHlssink env cfg
    · exact placed_cvtrackerHlssink env cfg
    · exact placed_facedetectHlssink env cfg
    · exact placed_motionHlssink env cfg
    · exact placed_startAvAppsink cfg audio
    · exact placed_startAvUdpsink cfg audio
  · cases hcb

theorem placed_plan : ∀ b ∈ plan env cfg audio, Placed b.1 (callLinks b.1 b.2) := by
  intro b hb
  simp only [plan, List.cons_append, List.nil_append, List.mem_cons] at hb
  rcases hb with rfl | rfl | rfl | hb
  · exact placed_getVideoSrc env cfg
  · exact placed_getEncoderSrc env cfg
  · exact placed_getAudioSrc env
  · exact placed_branches env cfg audio b hb

theorem branches_stage :
    ∀ b ∈ branches env cfg audio, b.1 ≠ .videoSrc ∧ b.1 ≠ .encoderSrc ∧ b.1 ≠ .audioSrc := by
  intro b hb
  simp only [branches, List.mem_filterMap, List.mem_cons, List.not_mem_nil, or_false] at hb
  obtain ⟨c, hc, hcb⟩ := hb
  split at hcb
  · cases hcb
    rcases hc with rfl | rfl | rfl | rfl | rfl | rfl | rfl | rfl | rfl <;> simp
  · cases hcb

theorem ne_stage_of_source {t : Stage} (ht : t = .videoSrc ∨ t = .encoderSrc ∨ t = .audioSrc) :
    ∀ b ∈ branches env cfg audio, t ≠ b.1 := by
  intro b hb
  obtain ⟨hvideo, hencoder, haudio⟩ := branches_stage env cfg audio b hb
  rcases ht with rfl | rfl | rfl
  · exact hvideo.symm
  · exact hencoder.symm
  · exact haudio.symm

theorem branches_pairwise : (branches env cfg audio).Pairwise fun b c ↦ b.1 ≠ c.1 := by
  refine List.Pairwise.filterMap _ (R := fun b c ↦ b.2.1 ≠ c.2.1) ?_ (by simp)
  rintro ⟨on, b⟩ ⟨on', c⟩ hbc b' hb c' hc
  simp only at hb hc
  split_ifs at hb hc
  cases hb
  cases hc
  exact hbc

theorem plan_pairwise : (plan env cfg audio).Pairwise fun b c ↦ b.1 ≠ c.1 := by
  have hstage := branches_stage env cfg audio
  simp only [plan, List.cons_append, List.nil_append, List.pairwise_cons, List.mem_cons]
  refine ⟨?_, ?_, fun b hb ↦ (hstage b hb).2.2.symm, branches_pairwise env cfg audio⟩
  · rintro b (rfl | rfl | hb)
    · simp
    · simp
    · exact (hstage b hb).1.symm
  · rintro b (rfl | hb)
    · simp
    · exact (hstage b hb).2.1.symm

end Placed

/-! ## The pipeline -/

/-- Data flows one way, and no pad is linked twice: only a muxer has two inputs and only a `tee` two
outputs. -/
structure Pipeline.Forest (p : Pipeline) : Prop where
  acyclic : Acyclic p.links
  oneInput : p.links.Pairwise fun a b ↦ a.2 = b.2 → a.2.var = .mpegtsmux
  oneOutput : p.links.Pairwise fun a b ↦ a.1 = b.1 → a.1.var = .teesrc

/-- **The shape of the pipeline.** Whatever is missing and whatever is refused, the pipeline that is
built has no cycle and no pad that is linked twice. -/
theorem forest_of_createInstance (env : GstEnv) (cfg : PipelineConfig) :
    ∀ p, createInstance env cfg = .ok p → p.Forest := by
  intro p h
  obtain ⟨i, -, hsub⟩ := createInstance_links h
  have hplaced := placed_plan env cfg i.audio
  have hstages := plan_pairwise env cfg i.audio
  refine ⟨acyclic_of_rank Elem.rank fun l hl ↦ ?_, List.Pairwise.sublist hsub ?_,
    List.Pairwise.sublist hsub ?_⟩
  · obtain ⟨b, hb, hl⟩ := List.mem_flatMap.mp (hsub.subset hl)
    exact ((hplaced b hb).1 l hl).2.2
  · refine List.pairwise_flatMap.mpr ⟨fun b hb ↦ (hplaced b hb).2.1, ?_⟩
    refine hstages.imp_of_mem fun {b c} hb hc hbc x hx y hy hxy ↦ ?_
    -- the links of two functions lead into two functions
    have hx' := ((hplaced b hb).1 x hx).1
    have hy' := ((hplaced c hc).1 y hy).1
    exact absurd (hx'.symm.trans (hxy ▸ hy')) hbc
  · refine List.pairwise_flatMap.mpr ⟨fun b hb ↦ (hplaced b hb).2.2, ?_⟩
    refine hstages.imp_of_mem fun {b c} hb hc hbc x hx y hy hxy ↦ ?_
    rcases ((hplaced b hb).1 x hx).2.1 with hx' | hx'
    · rcases ((hplaced c hc).1 y hy).2.1 with hy' | hy'
      · exact absurd (hx'.symm.trans (hxy ▸ hy')) hbc
      · exact hxy ▸ hy'
    · exact hx'

/-- A machine on which everything is there, and everything can be linked. -/
def fullGst : GstEnv := { bareEnv with installed := fun _ ↦ true, accepts := fun _ _ ↦ true }

/-- Everything is switched on but the branch that gets nothing. -/
def richConfig : PipelineConfig where
  type := ofString "image/jpeg"
  videnc := ofString "h264"
  sysinfo := true
  audioEnable := true
  showtext := true
  splitfileSink := true
  udp := true
  avHlssink := false
  edgeHlssink := true
  cvtrackerHlssink := true
  facedetectHlssink := true
  motionHlssink := true
  appSink := true
  webrtc := true

/-- How many links a run makes, if it comes to an end. -/
def linkCount (env : GstEnv) (cfg : PipelineConfig) : Option ℕ :=
  match createInstance env cfg with
  | .ok p => some p.links.length
  | .error _ => none

theorem createInstance_richConfig :
    ∃ p, createInstance fullGst richConfig = .ok p ∧ p.links.length = 83 := by
  have hcount : linkCount fullGst richConfig = some 83 := by decide +kernel
  rw [linkCount] at hcount
  split at hcount
  · next p h => exact ⟨p, h, Option.some.inj hcount⟩
  · cases hcount

theorem forest_richConfig :
    ∃ p, createInstance fullGst richConfig = .ok p ∧ p.links.length = 83 ∧ p.Forest := by
  obtain ⟨p, h, hcount⟩ := createInstance_richConfig
  exact ⟨p, h, hcount, forest_of_createInstance _ _ p h⟩

end GstWebrtcCamera

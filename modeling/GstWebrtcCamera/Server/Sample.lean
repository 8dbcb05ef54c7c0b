import GstWebrtcCamera.Http.Request
import GstWebrtcCamera.Server.State

/-!
# Samples for everyone

One capture pipeline serves all clients. Its appsink calls `on_new_sample_from_sink`, which copies
the buffer of the sample and emits `push-buffer` on a source of every pair in `G_AppsrcList`. The
result of the callback is the verdict of the capture pipeline on itself, and the variable it is
kept in is also where every emission writes the answer of its client.
-/

namespace GstWebrtcCamera

open CString

/-- `GstFlowReturn`. -/
inductive GstFlowReturn
  | ok
  | notLinked
  | flushing
  | eos
  | notNegotiated
  | error
  | notSupported
  deriving DecidableEq, Repr

/-- A buffer. A timestamp may be `GST_CLOCK_TIME_NONE`. -/
structure Buffer where
  pts : Option ℕ
  dts : Option ℕ
  data : List UInt8
  deriving DecidableEq, Repr

structure Sample where
  buffer : Option Buffer
  /-- `gst_segment_to_running_time` on its segment. -/
  toRunningTime : ℕ → Option ℕ

/-- A registered pair, and what its source answers to a push. -/
structure AvClient where
  pair : AvPair
  flow : GstFlowReturn
  deriving DecidableEq, Repr

namespace AvClient

/-- The source for a kind of buffer, which may be `NULL`. -/
def source (isVideo : Bool) (c : AvClient) : Option ℕ :=
  if isVideo then c.pair.videoSrc else c.pair.audioSrc

end AvClient

/-- The buffer that is pushed: a copy in running time. -/
def Sample.copyBuffer (sample : Sample) (buffer : Buffer) : Buffer :=
  { buffer with
    pts := buffer.pts.bind sample.toRunningTime
    dts := buffer.dts.bind sample.toRunningTime }

/-- The loop over `G_AppsrcList`, with the answers and what has been pushed to which source. An
emission on `NULL` writes no answer. -/
def pushBuffers (isVideo : Bool) (buffer : Buffer) :
    GstFlowReturn × List (ℕ × Buffer) → List AvClient → GstFlowReturn × List (ℕ × Buffer)
  | st, [] => st
  | st, c :: l =>
    match c.source isVideo with
    | some src => pushBuffers isVideo buffer (c.flow, st.2 ++ [(src, buffer)]) l
    | none => pushBuffers isVideo buffer st l

/-- `on_new_sample_from_sink`. The timestamps are read before it is known that there is a buffer. -/
def onNewSampleFromSink (sinkName : CString) (clients : List AvClient) (sample : Option Sample) :
    Except Fault (GstFlowReturn × List (ℕ × Buffer)) :=
  let isVideo := (lit "video").isPrefixOf sinkName.chars
  match sample with
  | none => .ok (.error, [])
  | some sample =>
    match sample.buffer with
    | none => .error .nullDeref
    | some buffer => .ok (pushBuffers isVideo (sample.copyBuffer buffer) (.ok, []) clients)

/-! ## What is pushed and what is returned -/

section

variable {isVideo : Bool} {buffer : Buffer} {st : GstFlowReturn × List (ℕ × Buffer)}
  {l : List AvClient}

/-- The sources of the list, in order. -/
def sources (isVideo : Bool) (l : List AvClient) : List ℕ := l.filterMap (AvClient.source isVideo)

theorem pushBuffers_snd :
    (pushBuffers isVideo buffer st l).2 =
      st.2 ++ (sources isVideo l).map fun src ↦ (src, buffer) := by
  induction l generalizing st with
  | nil => simp [pushBuffers, sources]
  | cons c l ih =>
    rw [pushBuffers]
    cases hsrc : c.source isVideo with
    | some src => simp [ih, sources, hsrc]
    | none => simp [ih, sources, hsrc]

theorem pushBuffers_append {l' : List AvClient} :
    pushBuffers isVideo buffer st (l ++ l') =
      pushBuffers isVideo buffer (pushBuffers isVideo buffer st l) l' := by
  induction l generalizing st with
  | nil => rfl
  | cons c l ih =>
    rw [List.cons_append, pushBuffers, pushBuffers]
    split <;> exact ih

theorem pushBuffers_of_forall_none (h : ∀ d ∈ l, d.source isVideo = none) :
    pushBuffers isVideo buffer st l = st := by
  induction l with
  | nil => rfl
  | cons c l ih =>
    rw [List.forall_mem_cons] at h
    rw [pushBuffers, h.1]
    exact ih h.2

/-- A client with a source forgets the answers before it. -/
theorem pushBuffers_fst_congr {st' : GstFlowReturn × List (ℕ × Buffer)}
    (h : ∃ d ∈ l, (d.source isVideo).isSome) :
    (pushBuffers isVideo buffer st l).1 = (pushBuffers isVideo buffer st' l).1 := by
  induction l generalizing st st' with
  | nil => exact absurd h (by simp)
  | cons c l ih =>
    rw [pushBuffers, pushBuffers]
    by_cases hl : ∃ d ∈ l, (d.source isVideo).isSome
    · split <;> exact ih hl
    · have hlast : (c.source isVideo).isSome := by
        obtain ⟨d, hd, hsome⟩ := h
        rcases List.mem_cons.mp hd with rfl | hd
        · exact hsome
        · exact absurd ⟨d, hd, hsome⟩ hl
      have hnone : ∀ d ∈ l, d.source isVideo = none := fun d hd ↦
        Option.not_isSome_iff_eq_none.mp fun hsome ↦ hl ⟨d, hd, hsome⟩
      obtain ⟨src, hsrc⟩ := Option.isSome_iff_exists.mp hlast
      simp only [hsrc]
      rw [pushBuffers_of_forall_none hnone, pushBuffers_of_forall_none hnone]

end

/-- A client does not disturb the others: they get the buffer once, and neither what they get nor
what the capture pipeline is told depends on what this one answers. -/
structure Isolated (sinkName : CString) (sample : Option Sample) (before : List AvClient)
    (c : AvClient) (behind : List AvClient) : Prop where
  pushed : ∀ s b, sample = some s → s.buffer = some b → ∃ ret,
    onNewSampleFromSink sinkName (before ++ c :: behind) sample =
      .ok (ret, (sources ((lit "video").isPrefixOf sinkName.chars) (before ++ c :: behind)).map
        fun src ↦ (src, s.copyBuffer b))
  same : ∀ flow,
    onNewSampleFromSink sinkName (before ++ { c with flow := flow } :: behind) sample =
      onNewSampleFromSink sinkName (before ++ c :: behind) sample

theorem forall_flow_eq_iff {isVideo : Bool} (buffer : Buffer) {before behind : List AvClient}
    {c : AvClient} :
    (∀ flow, pushBuffers isVideo buffer (.ok, []) (before ++ { c with flow := flow } :: behind) =
        pushBuffers isVideo buffer (.ok, []) (before ++ c :: behind)) ↔
      c.source isVideo = none ∨ ∃ d ∈ behind, (d.source isVideo).isSome := by
  have hsource : ∀ flow, ({ c with flow := flow } : AvClient).source isVideo = c.source isVideo :=
    fun flow ↦ rfl
  simp only [pushBuffers_append, pushBuffers, hsource]
  obtain ⟨st, hst⟩ : ∃ st, st = pushBuffers isVideo buffer (.ok, []) before := ⟨_, rfl⟩
  rw [← hst]
  cases hsrc : c.source isVideo with
  | none => simp
  | some src =>
    rw [or_iff_right (by simp)]
    constructor
    · intro h
      by_contra hlast
      have hnone : ∀ d ∈ behind, d.source isVideo = none := fun d hd ↦
        Option.not_isSome_iff_eq_none.mp fun hsome ↦ hlast ⟨d, hd, hsome⟩
      simp only [pushBuffers_of_forall_none hnone, Prod.mk.injEq, and_true] at h
      exact absurd ((h .ok).trans (h .error).symm) (by decide)
    · intro hlater flow
      exact Prod.ext (pushBuffers_fst_congr hlater) (by simp only [pushBuffers_snd])

/-- **Isolation.** A client disturbs the others exactly if it is the last one that gets the
buffer. -/
theorem isolated_iff (sinkName : CString) (sample : Option Sample) (before : List AvClient)
    (c : AvClient) (behind : List AvClient) :
    Isolated sinkName sample before c behind ↔
      (∀ s, sample = some s → s.buffer = none) ∨
        c.source ((lit "video").isPrefixOf sinkName.chars) = none ∨
        ∃ d ∈ behind, (d.source ((lit "video").isPrefixOf sinkName.chars)).isSome := by
  cases sample with
  | none => exact iff_of_true ⟨nofun, fun _ ↦ rfl⟩ (.inl nofun)
  | some s =>
    cases hbuffer : s.buffer with
    | none =>
      refine iff_of_true ⟨?_, fun flow ↦ ?_⟩ (.inl fun s' hs' ↦ ?_)
      · rintro s' b ⟨⟩ hb
        rw [hbuffer] at hb
        contradiction
      · simp only [onNewSampleFromSink, hbuffer]
      · obtain rfl := Option.some.inj hs'
        exact hbuffer
    | some b =>
      rw [or_iff_right (by simp [hbuffer]), ← forall_flow_eq_iff (s.copyBuffer b)]
      constructor
      · intro h flow
        have hsame := h.same flow
        simp only [onNewSampleFromSink, hbuffer] at hsame
        exact Except.ok.inj hsame
      · intro h
        constructor
        · rintro s' b' ⟨⟩ hb'
          obtain rfl := Option.some.inj (hbuffer.symm.trans hb')
          simp only [onNewSampleFromSink, hbuffer]
          exact ⟨_, congrArg Except.ok (Prod.ext rfl (by simp [pushBuffers_snd]))⟩
        · intro flow
          simp only [onNewSampleFromSink, hbuffer, h flow]

/-- A sample with an empty buffer. -/
def emptySample : Sample where
  buffer := some { pts := none, dts := none, data := [] }
  toRunningTime := some

/-- The only client, whose pipeline is being stopped. -/
theorem exists_not_isolated :
    ∃ (sinkName : CString) (sample : Option Sample) (before : List AvClient) (c : AvClient)
      (behind : List AvClient), ¬ Isolated sinkName sample before c behind := by
  refine ⟨ofString "video_sink", some emptySample, [],
    { pair := { videoSrc := some 0 }, flow := .flushing }, [], fun h ↦ ?_⟩
  exact absurd (congrArg (Except.map Prod.fst) (h.same .ok)) (by decide +kernel)

end GstWebrtcCamera

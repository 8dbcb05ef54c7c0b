import GstWebrtcCamera.Pipeline.Locals

/-!
# Branches

Where the functions stand in a run, and what a branch is: a chain of elements, linked as a whole, and
then a pad of a source for the first of them. What comes out of the source comes to the end of the
chain exactly if nothing was missing.
-/

namespace GstWebrtcCamera

open Flow CString

/-! ## A function in its place -/

section Place

variable {env : GstEnv} {cfg : PipelineConfig} {p p' : Pipeline} {i : Initialized}

theorem runBranches_at {bs : List (Stage × List Call)}
    (hinto : ∀ b ∈ bs, ∀ l ∈ callLinks b.1 b.2, l.2.stage = b.1)
    (hdistinct : bs.Pairwise fun b c ↦ b.1 ≠ c.1) (h : runBranches env bs p = .ok p') :
    (∀ t, (∀ b ∈ bs, t ≠ b.1) → p.Untouched t p') ∧
      ∀ b ∈ bs, ∃ p₁ p₂, (∀ t, (∀ b ∈ bs, t ≠ b.1) → p.Untouched t p₁) ∧ p.Untouched b.1 p₁ ∧
        p₂ ∈ (runCalls env b.1 b.2 p₁).pipeline? ∧ p₂.Untouched b.1 p' := by
  induction bs generalizing p with
  | nil =>
    cases h
    exact ⟨fun t _ ↦ .refl t _, fun b hb ↦ absurd hb List.not_mem_nil⟩
  | cons c bs ih =>
    obtain ⟨hc, hbs⟩ := List.pairwise_cons.mp hdistinct
    have hrun : ∃ q, q ∈ (runCalls env c.1 c.2 p).pipeline? ∧ runBranches env bs q = .ok p' := by
      rw [runBranches] at h
      split at h
      · cases h
      · next q heq => exact ⟨q, by rw [heq]; rfl, h⟩
      · next q heq => exact ⟨q, by rw [heq]; rfl, h⟩
    obtain ⟨q, hq, hrest⟩ := hrun
    obtain ⟨hother, hat⟩ := ih (fun b hb ↦ hinto b (List.mem_cons_of_mem c hb)) hbs hrest
    have hfirst : ∀ t, t ≠ c.1 → p.Untouched t q :=
      fun t ht ↦ runCalls_untouched hq (hinto c List.mem_cons_self) ht
    have hsplit : ∀ t, (∀ b ∈ c :: bs, t ≠ b.1) → t ≠ c.1 ∧ ∀ b ∈ bs, t ≠ b.1 :=
      fun t ht ↦ ⟨ht c List.mem_cons_self, fun b hb ↦ ht b (List.mem_cons_of_mem c hb)⟩
    refine ⟨fun t ht ↦ (hfirst t (hsplit t ht).1).trans (hother t (hsplit t ht).2), fun b hb ↦ ?_⟩
    rcases List.mem_cons.mp hb with rfl | hb
    · exact ⟨p, q, fun t _ ↦ .refl t p, .refl _ p, hq, hother _ fun d hd ↦ hc d hd⟩
    · obtain ⟨p₁, p₂, htsame, hsame, hrun, hafter⟩ := hat b hb
      refine ⟨p₁, p₂, fun t ht ↦ ?_, ?_, hrun, hafter⟩
      · exact (hfirst t (hsplit t ht).1).trans (htsame t (hsplit t ht).2)
      · exact (hfirst b.1 (hc b hb).symm).trans hsame

theorem callLinks_into (env : GstEnv) (cfg : PipelineConfig) (audio : Bool) :
    ∀ b ∈ branches env cfg audio, ∀ l ∈ callLinks b.1 b.2, l.2.stage = b.1 :=
  fun b hb l hl ↦ ((placed_branches env cfg audio b hb).1 l hl).1

theorem asked_of_mem (h : createInstance env cfg = .ok p) (hi : initialDevice env cfg = .ok i)
    {b : Stage × List Call} (hb : b ∈ plan env cfg i.audio) {l : Elem × Elem} (hl : l ∈ p.links)
    (hstage : l.2.stage = b.1) : l ∈ callLinks b.1 b.2 := by
  obtain ⟨i', hi', hsub⟩ := createInstance_links h
  cases hi'.symm.trans hi
  obtain ⟨c, hc, hlc⟩ := List.mem_flatMap.mp (hsub.subset hl)
  have hcb : c = b := by
    by_contra hne
    have hsymm : Std.Symm fun b c : Stage × List Call ↦ b.1 ≠ c.1 := ⟨fun _ _ h ↦ h.symm⟩
    refine (plan_pairwise env cfg i.audio).forall hc hb hne ?_
    exact (((placed_plan env cfg i.audio c hc).1 l hlc).1).symm.trans hstage
  exact hcb ▸ hlc

theorem initialDevice_cases (h : initialDevice env cfg = .ok i) (hi : i.isInitial) :
    ∃ p₁ p₂, runCalls env .videoSrc (getVideoSrc env cfg) {} = .goesOn p₁ ∧
      runCalls env .encoderSrc (getEncoderSrc env cfg) p₁ = .goesOn p₂ ∧
      (∀ s, s ≠ .audioSrc → p₂.Untouched s i.pipeline) ∧
      (i.audio → runCalls env .audioSrc (getAudioSrc env) p₂ = .goesOn i.pipeline) := by
  have hinto : ∀ l ∈ callLinks .audioSrc (getAudioSrc env), l.2.stage = .audioSrc :=
    fun l hl ↦ ((placed_getAudioSrc env).1 l hl).1
  rw [initialDevice] at h
  split at h
  · cases h
  · cases h
    cases hi
  · next p₁ hvideo =>
    split at h
    · cases h
    · cases h
      cases hi
    · next p₂ hencoder =>
      refine ⟨p₁, p₂, hvideo, hencoder, ?_⟩
      split_ifs at h
      · split at h
        · cases h
        · next haudio =>
          cases h
          exact ⟨fun s hs ↦ runCalls_untouched (mem_of_leaves haudio) hinto hs, fun h ↦ by cases h⟩
        · next haudio =>
          cases h
          exact ⟨fun s hs ↦ runCalls_untouched (mem_of_goesOn haudio) hinto hs, fun _ ↦ haudio⟩
      · cases h
        exact ⟨fun s _ ↦ .refl s _, fun h ↦ by cases h⟩

theorem createInstance_cases (h : createInstance env cfg = .ok p) :
    ∃ i, initialDevice env cfg = .ok i ∧
      (i.isInitial = false ∧ p = i.pipeline ∨
        i.isInitial ∧ runBranches env (branches env cfg i.audio) i.pipeline = .ok p) := by
  rw [createInstance] at h
  rcases hi : initialDevice env cfg with f | i
  · rw [hi] at h
    cases h
  · rw [hi] at h
    simp only [bind, Except.bind] at h
    split_ifs at h with hinit
    · exact ⟨i, rfl, .inr ⟨hinit, h⟩⟩
    · cases h
      exact ⟨i, rfl, .inl ⟨Bool.not_eq_true _ ▸ hinit, rfl⟩⟩

/-- The places of the functions, once the device has been initialised. -/
structure Places (env : GstEnv) (cfg : PipelineConfig) (i : Initialized) (p : Pipeline) : Prop where
  video : ∃ p₁, runCalls env .videoSrc (getVideoSrc env cfg) {} = .goesOn p₁ ∧
    p₁.Untouched .videoSrc p
  encoder : ∃ p₁ p₂, ({} : Pipeline).Untouched .encoderSrc p₁ ∧
    runCalls env .encoderSrc (getEncoderSrc env cfg) p₁ = .goesOn p₂ ∧
    p₂.Untouched .encoderSrc p ∧ p₁.Untouched .videoSrc p
  audio : i.audio → ∃ p₁ p₂, ({} : Pipeline).Untouched .audioSrc p₁ ∧
    runCalls env .audioSrc (getAudioSrc env) p₁ = .goesOn p₂ ∧ p₂.Untouched .audioSrc p
  branch : ∀ b ∈ branches env cfg i.audio, ∃ p₁ p₂, ({} : Pipeline).Untouched b.1 p₁ ∧
    p₂ ∈ (runCalls env b.1 b.2 p₁).pipeline? ∧ p₂.Untouched b.1 p ∧
    ∀ t, t = .videoSrc ∨ t = .encoderSrc ∨ t = .audioSrc → p₁.Untouched t p

theorem places_of_createInstance (hi : initialDevice env cfg = .ok i) (hinit : i.isInitial)
    (h : runBranches env (branches env cfg i.audio) i.pipeline = .ok p) : Places env cfg i p := by
  obtain ⟨p₁, p₂, hvideo, hencoder, hother, haudio⟩ := initialDevice_cases hi hinit
  have hstage := branches_stage env cfg i.audio
  obtain ⟨hend, hat⟩ := runBranches_at (callLinks_into env cfg i.audio)
    (branches_pairwise env cfg i.audio) h
  have hfar : ∀ t, t = .videoSrc ∨ t = .encoderSrc ∨ t = .audioSrc →
      ∀ b ∈ branches env cfg i.audio, t ≠ b.1 := fun t ↦ ne_stage_of_source env cfg i.audio
  have hvideoFar : ∀ s, s ≠ .videoSrc → ({} : Pipeline).Untouched s p₁ := fun s hs ↦
    runCalls_untouched (mem_of_goesOn hvideo)
      (fun l hl ↦ ((placed_getVideoSrc env cfg).1 l hl).1) hs
  have hencoderFar : ∀ s, s ≠ .encoderSrc → p₁.Untouched s p₂ := fun s hs ↦
    runCalls_untouched (mem_of_goesOn hencoder)
      (fun l hl ↦ ((placed_getEncoderSrc env cfg).1 l hl).1) hs
  refine ⟨⟨p₁, hvideo, ?_⟩, ⟨p₁, p₂, hvideoFar _ (by simp), hencoder, ?_, ?_⟩, fun ha ↦ ?_,
    fun b hb ↦ ?_⟩
  · exact ((hencoderFar _ (by simp)).trans (hother _ (by simp))).trans
      (hend _ (hfar _ (.inl rfl)))
  · exact (hother _ (by simp)).trans (hend _ (hfar _ (.inr (.inl rfl))))
  · exact ((hencoderFar _ (by simp)).trans (hother _ (by simp))).trans
      (hend _ (hfar _ (.inl rfl)))
  · exact ⟨p₂, i.pipeline, (hvideoFar _ (by simp)).trans (hencoderFar _ (by simp)), haudio ha,
      hend _ (hfar _ (.inr (.inr rfl)))⟩
  · obtain ⟨q₁, q₂, hsame, hbefore, hrun, hafter⟩ := hat b hb
    obtain ⟨hb₁, hb₂, hb₃⟩ := hstage b hb
    have hinit := (((hvideoFar b.1 hb₁).trans (hencoderFar b.1 hb₂)).trans (hother b.1 hb₃))
    refine ⟨q₁, q₂, hinit.trans hbefore, hrun, hafter, fun t ht ↦ ?_⟩
    exact (hsame t (hfar t ht)).symm.trans (hend t (hfar t ht))

end Place

/-! ## Branches -/

theorem complete_append {env : GstEnv} (cs cs' : List Call) :
    complete env (cs ++ cs') = (complete env cs && complete env cs') := List.all_append

theorem complete_fullGst {env : GstEnv} {cs : List Call} (h : complete env cs) :
    complete fullGst cs := by
  rw [complete, List.all_eq_true] at h ⊢
  intro c hc
  have hthere := h c hc
  cases c with
  | setNull v => cases hthere
  | _ => rfl

theorem knows_nil {s : Stage} {par : Parent} {p : Pipeline} (h : ({} : Pipeline).Untouched s p) :
    Knows s par {} p where
  holds v hv := absurd hv List.not_mem_nil
  inside v hv := absurd hv List.not_mem_nil
  outside v _ := h.parent ⟨s, v⟩ rfl
  bin h := by cases h

/-- How a function asks for data: a chain of its elements is linked, and then a pad of the source for
the first of them. -/
structure Branch where
  stage : Stage
  source : Elem
  chain : List Var
  /-- The calls up to the link to the source. -/
  body : List Call
  /-- The link to the source. -/
  entry : Call
  /-- The calls behind it. -/
  post : List Call

namespace Branch

variable (b : Branch)

def calls : List Call := b.body ++ b.entry :: b.post

def elems : List Elem := b.chain.map (⟨b.stage, ·⟩)

/-- The first element of the chain. -/
def first : Elem := ⟨b.stage, b.chain.headD .source⟩

/-- The last element of the chain. -/
def sink : Elem := (b.source :: b.elems).getLast (List.cons_ne_nil _ _)

/-- What is the same on every machine: each variable gets its value once and is either checked or in
the chain, nothing is used too early, and into the chain there is one way, but for data that comes
over an `aqueue`. -/
structure Ok (par : Parent) : Prop where
  nonempty : b.chain ≠ []
  linked : Call.linkMany b.chain true ∈ b.body ∨ Call.linkMany b.chain false ∈ b.body
  isEntry : b.entry = .linkRequestSrcPad b.source b.first.var ∨
    b.entry = .linkRequestSrcPadWithDstName b.source b.first.var
  nodup : (b.calls.filterMap Call.var?).Nodup
  needed : ∀ v ∈ b.body.filterMap Call.var?, v ∈ b.chain ∨ ∃ c ∈ b.body, v ∈ c.required
  once : (b.source, b.first) ∉ callLinks b.stage b.body
  oneWay : ∀ pr ∈ pairs (b.source :: b.elems), ∀ l ∈ callLinks b.stage b.calls, l.2 = pr.2 →
    l.1 = pr.1 ∨ l.1 = ⟨b.stage, .aqueue⟩
  ready : !complete fullGst b.body || ready fullGst par {} (b.body ++ [b.entry])

instance (par : Parent) : Decidable (b.Ok par) :=
  decidable_of_iff (_ ∧ _ ∧ _ ∧ _ ∧ _ ∧ _ ∧ _ ∧ _)
    ⟨fun ⟨h₁, h₂, h₃, h₄, h₅, h₆, h₇, h₈⟩ ↦ ⟨h₁, h₂, h₃, h₄, h₅, h₆, h₇, h₈⟩,
      fun ⟨h₁, h₂, h₃, h₄, h₅, h₆, h₇, h₈⟩ ↦ ⟨h₁, h₂, h₃, h₄, h₅, h₆, h₇, h₈⟩⟩

variable {b}

theorem stage_of_mem {e : Elem} (he : e ∈ b.elems) : e.stage = b.stage := by
  obtain ⟨v, -, rfl⟩ := List.mem_map.mp he
  rfl

theorem pairs_elems (hchain : b.chain ≠ []) :
    pairs (b.source :: b.elems) = (b.source, b.first) :: pairs b.elems := by
  rw [first, elems]
  cases hc : b.chain with
  | nil => exact absurd hc hchain
  | cons v vs => rfl

theorem granted_entry {env : GstEnv} {par : Parent} (hok : b.Ok par) :
    b.entry.granted env b.stage
      = if env.accepts b.source b.first then [(b.source, b.first)] else [] := by
  rcases hok.isEntry with h | h <;> rw [h] <;> rfl

end Branch

section Branch

variable {env : GstEnv} {par : Parent} {b : Branch} {p p₁ p₂ : Pipeline} {u : Elem}

/-- **What is reached is complete.** -/
theorem Branch.complete_of_reaches (hok : b.Ok par)
    (hfresh : ({} : Pipeline).Untouched b.stage p₁)
    (hrun : p₂ ∈ (runCalls env b.stage b.calls p₁).pipeline?) (hafter : p₂.Untouched b.stage p)
    (hasked : ∀ l ∈ p.links, l.2.stage = b.stage → l ∈ callLinks b.stage b.calls)
    (haudio : ¬ Reaches p.links u ⟨b.stage, .aqueue⟩) (hu : u.stage ≠ b.stage)
    (h : Reaches p.links u b.sink) :
    Reaches p.links u b.source ∧ complete env b.body ∧ env.accepts b.source b.first := by
  have hinto : ∀ pr ∈ pairs (b.source :: b.elems), pr.2.stage = b.stage :=
    fun pr hpr ↦ stage_of_mem (mem_of_mem_pairs hpr).2
  obtain ⟨hsrc, hlinks⟩ := chain_of_reaches (fun hmem ↦ hu (stage_of_mem hmem))
    (fun x y hxy q hq hreach ↦ by
      have hmem := hasked (q, y) hq (hinto (x, y) hxy)
      rcases hok.oneWay (x, y) hxy (q, y) hmem rfl with hqx | hqa
      · exact hqx
      · exact absurd (hqa ▸ hreach) haudio) h
  have hlinked : ∀ l ∈ pairs (b.source :: b.elems), l ∈ p₂.links ∧ l ∉ p₁.links := fun l hl ↦
    ⟨(hafter.links l (hinto l hl)).mp (hlinks l hl),
      fun hl₁ ↦ List.not_mem_nil ((hfresh.links l (hinto l hl)).mp hl₁)⟩
  have hval : ∀ v, p₁.holds ⟨b.stage, v⟩ → Installed env b.calls v := by
    intro v hv
    rw [Pipeline.holds, hfresh.value ⟨b.stage, v⟩ rfl] at hv
    cases hv
  have hbodySub : ∀ c ∈ b.body, c ∈ b.calls := fun c hc ↦ List.mem_append_left _ hc
  have hnew := (runCalls_installed (fun c hc ↦ hc) hval hrun).1
  have hentry : (b.source, b.first) ∈ pairs (b.source :: b.elems) := by
    rw [pairs_elems hok.nonempty]
    exact List.mem_cons_self
  -- the link to the source is there, so nothing made the function leave before
  have hgoes : ∃ q, runCalls env b.stage b.body p₁ = .goesOn q := by
    rw [Branch.calls, runCalls_append] at hrun
    rcases hbody : runCalls env b.stage b.body p₁ with q | q | f
    · exact ⟨q, rfl⟩
    · rw [hbody] at hrun
      cases hrun
      obtain ⟨added, hadded, hsub⟩ := runCalls_links (mem_of_leaves hbody)
      have hmem := hadded ▸ (hlinked _ hentry).1
      rcases List.mem_append.mp hmem with hold | hold
      · exact absurd hold (hlinked _ hentry).2
      · exact absurd (hsub.subset hold) hok.once
    · rw [hbody] at hrun
      cases hrun
  obtain ⟨q, hq⟩ := hgoes
  have hrequired := (runCalls_installed hbodySub hval (mem_of_goesOn hq)).2 hq
  refine ⟨hsrc, complete_of_installed hbodySub hok.nodup fun v hv ↦ ?_, ?_⟩
  · rcases hok.needed v hv with hchain | ⟨c, hc, hreq⟩
    · obtain ⟨w, hw⟩ := exists_mem_pairs (v := b.source) (w := (⟨b.stage, v⟩ : Elem)) (l := b.elems)
        (List.mem_map_of_mem hchain)
      rcases hnew _ (hlinked _ hw).1 with hold | ⟨-, hinst⟩
      · exact absurd hold (hlinked _ hw).2
      · exact hinst v (.inr rfl)
    · exact hrequired c hc v hreq
  · rcases hnew _ (hlinked _ hentry).1 with hold | ⟨haccepts, -⟩
    · exact absurd hold (hlinked _ hentry).2
    · exact haccepts

theorem Branch.Ok.ready_of_complete (hok : b.Ok par) (hcomplete : complete env b.body) :
    GstWebrtcCamera.ready env par {} (b.body ++ [b.entry]) := by
  have hall : complete env (b.body ++ [b.entry]) := by
    rw [complete_append, hcomplete, Bool.true_and]
    rcases hok.isEntry with he | he <;> rw [he] <;> rfl
  exact GstWebrtcCamera.ready_of_complete hall
    (by simpa [complete_fullGst hcomplete] using hok.ready)

/-- What is complete asks its source, unless it ends the program. -/
theorem Branch.goesOn_of_complete (hok : b.Ok par)
    (hfresh : ({} : Pipeline).Untouched b.stage p₁)
    (hrun : p₂ ∈ (runCalls env b.stage b.calls p₁).pipeline?)
    (hsrc : ∀ c ∈ b.body ++ [b.entry], ∀ src ∈ c.source?,
      src.stage ≠ b.stage ∧ p₁.parent src = some .pipeline)
    (hquits : ∀ c ∈ b.calls, c.quits = false) (hcomplete : complete env b.body) :
    ∃ q, runCalls env b.stage (b.body ++ [b.entry]) p₁ = .goesOn q := by
  have hcalls : b.calls = (b.body ++ [b.entry]) ++ b.post := by simp [Branch.calls]
  have hready := hok.ready_of_complete hcomplete
  have hstay : ∀ q ∈ (runCalls env b.stage (b.body ++ [b.entry]) p₁).pipeline?,
      runCalls env b.stage (b.body ++ [b.entry]) p₁ = .goesOn q := fun q hq ↦
    runCalls_stays (knows_nil hfresh) hready hsrc
      (fun c hc ↦ hquits c (hcalls ▸ List.mem_append_left _ hc)) hq
  rw [hcalls, runCalls_append] at hrun
  rcases hout : runCalls env b.stage (b.body ++ [b.entry]) p₁ with q | q | f
  · exact ⟨q, rfl⟩
  · exact ⟨q, hout ▸ hstay q (mem_of_leaves hout)⟩
  · rw [hout] at hrun
    cases hrun

/-- **What is complete is reached**, if the function gets that far and its source is fed. -/
theorem Branch.reaches_of_complete (hok : b.Ok par)
    (hfresh : ({} : Pipeline).Untouched b.stage p₁)
    (hrun : p₂ ∈ (runCalls env b.stage b.calls p₁).pipeline?) (hafter : p₂.Untouched b.stage p)
    (hgoes : ∃ q, runCalls env b.stage (b.body ++ [b.entry]) p₁ = .goesOn q)
    (hsrc : ∀ c ∈ b.body ++ [b.entry], ∀ src ∈ c.source?,
      src.stage ≠ b.stage ∧ p₁.parent src = some .pipeline)
    (hcomplete : complete env b.body) (haccepts : env.accepts b.source b.first)
    (h : Reaches p.links u b.source) : Reaches p.links u b.sink := by
  obtain ⟨q, hq⟩ := hgoes
  have hlinks := (runCalls_ready (knows_nil hfresh) (hok.ready_of_complete hcomplete) hsrc hq).2
  have hgrows : q.Grows p₂ (callLinks b.stage b.post) := by
    have hcalls : b.calls = (b.body ++ [b.entry]) ++ b.post := by simp [Branch.calls]
    rw [hcalls, runCalls_append, hq] at hrun
    exact runCalls_links hrun
  obtain ⟨added, hadded, -⟩ := hgrows
  have hmem : ∀ l ∈ pairs (b.source :: b.elems), l ∈ p.links := by
    intro l hl
    have hstage : l.2.stage = b.stage := stage_of_mem (mem_of_mem_pairs hl).2
    rw [hafter.links l hstage, hadded, hlinks]
    refine List.mem_append_left _ (List.mem_append_right _ (List.mem_flatMap.mpr ?_))
    rw [pairs_elems hok.nonempty] at hl
    rcases List.mem_cons.mp hl with rfl | hl
    · refine ⟨b.entry, by simp, ?_⟩
      rw [granted_entry hok, if_pos haccepts]
      exact List.mem_singleton_self _
    · rcases hok.linked with hlink | hlink <;> exact ⟨_, List.mem_append_left _ hlink, hl⟩
  exact h.trans (reaches_of_pairs hmem _ (List.getLast_mem _))

end Branch

/-! ## Names of factories

What a function uses when does not depend on what its elements are made from. -/

/-- The call without the name of the factory. -/
def Call.shape : Call → Call
  | factoryMake v _ => factoryMake v (ofString "")
  | c => c

/-- A branch without the names of its factories. -/
def Branch.shape (b : Branch) : Branch :=
  { b with body := b.body.map Call.shape, entry := b.entry.shape, post := b.post.map Call.shape }

section Shape

variable {c : Call} {cs : List Call}

@[simp] theorem Call.var?_shape : c.shape.var? = c.var? := by cases c <;> rfl

@[simp] theorem Call.required_shape : c.shape.required = c.required := by cases c <;> rfl

@[simp] theorem Call.source?_shape : c.shape.source? = c.source? := by cases c <;> rfl

@[simp] theorem Call.quits_shape : c.shape.quits = c.quits := by cases c <;> rfl

@[simp] theorem Call.links_shape (s : Stage) : c.shape.links s = c.links s := by cases c <;> rfl

theorem Call.eq_of_shape {d : Call} (hd : d.var? = none) (h : c.shape = d) : c = d := by
  cases c with
  | factoryMake v f =>
    rw [← h] at hd
    cases hd
  | _ => exact h

theorem callLinks_shape (s : Stage) : callLinks s (cs.map Call.shape) = callLinks s cs := by
  simp [callLinks, List.flatMap_map]

theorem filterMap_shape : (cs.map Call.shape).filterMap Call.var? = cs.filterMap Call.var? := by
  rw [List.filterMap_map]
  exact List.filterMap_congr fun c _ ↦ Call.var?_shape

theorem complete_shape : complete fullGst (cs.map Call.shape) = complete fullGst cs := by
  rw [complete, complete, List.all_map]
  congr 1
  funext c
  cases c <;> rfl

theorem ready_shape (par : Parent) :
    ∀ {l : Locals}, ready fullGst par l (cs.map Call.shape) = ready fullGst par l cs := by
  induction cs with
  | nil => exact rfl
  | cons c cs ih =>
    intro l
    rw [List.map_cons, ready, ready, ih]
    cases c <;> rfl

/-- There is no encoder, or one, or one that takes the driver of the camera. -/
theorem shape_encoderCalls (env : GstEnv) (family : EncoderFamily) :
    (encoderCalls env family).map Call.shape = [.setNull .encoder] ∨
      (encoderCalls env family).map Call.shape
        = [.factoryMake .encoder (ofString ""), .binAddMany .pipeline [.encoder]] ∨
      (encoderCalls env family).map Call.shape = [.getVideoDriverName,
        .factoryMake .encoder (ofString ""), .binAddMany .pipeline [.encoder]] := by
  rw [encoderCalls]
  split_ifs with hasks
  · obtain ⟨rfl, hdriver⟩ := hasks
    obtain ⟨e, he, -⟩ := Option.any_eq_true _ _ |>.mp hdriver
    rw [EncoderFamily.build, he]
    exact .inr (.inr rfl)
  · cases family.build env.toEncoderEnv with
    | none => exact .inl rfl
    | some e => exact .inr (.inl rfl)

theorem shape_makeElementAndAdd (v : Var) (f : CString) :
    (makeElementAndAdd v f).map Call.shape = makeElementAndAdd v (ofString "") := rfl

namespace Branch

variable {b : Branch} {par : Parent}

theorem calls_shape : b.shape.calls = b.calls.map Call.shape := by
  simp [calls, shape]

theorem Ok.of_shape (h : b.shape.Ok par) : b.Ok par where
  nonempty := h.nonempty
  linked := by
    refine h.linked.imp (fun hmem ↦ ?_) fun hmem ↦ ?_ <;>
    · obtain ⟨c, hc, heq⟩ := List.mem_map.mp hmem
      exact Call.eq_of_shape rfl heq ▸ hc
  isEntry := h.isEntry.imp (Call.eq_of_shape rfl) (Call.eq_of_shape rfl)
  nodup := by
    rw [← filterMap_shape, ← calls_shape]
    exact h.nodup
  needed := by
    intro v hv
    rw [← filterMap_shape] at hv
    refine (h.needed v hv).imp_right fun ⟨d, hd, hreq⟩ ↦ ?_
    obtain ⟨c, hc, rfl⟩ := List.mem_map.mp hd
    exact ⟨c, hc, Call.required_shape ▸ hreq⟩
  once := by
    rw [← callLinks_shape]
    exact h.once
  oneWay := by
    rw [← callLinks_shape, ← calls_shape]
    exact h.oneWay
  ready := by
    have hready := h.ready
    have hsplit : b.shape.body ++ [b.shape.entry] = (b.body ++ [b.entry]).map Call.shape := by
      simp [shape]
    rw [hsplit, ready_shape] at hready
    rw [← complete_shape]
    exact hready

end Branch

end Shape

end GstWebrtcCamera

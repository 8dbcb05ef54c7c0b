import GstWebrtcCamera.Pipeline.Served

/-!
# Calls that cannot fail

What a function knows of its variables tells which of its calls cannot end the program. It is worked
out once, on a machine where nothing is installed, and holds on any other. What is left are the two
functions whose calls can fail, `get_encoder_src` and `av_hlssink`, and the question for the driver
of the camera.
-/

namespace GstWebrtcCamera

open Flow CString

/-! ## Calls that cannot fail -/

/-- What is known of the variables of a function. -/
structure Known where
  assigned : List Var := []
  /-- Those that hold an element. -/
  sure : List Var := []
  /-- Those that are in the parent, if they hold an element. -/
  offered : List Var := []
  /-- Those that may be in a parent. -/
  touched : List Var := []

/-- The call does not end the program, in a function whose elements go into `par`, on a machine
whose camera names its driver. -/
def Call.safe (s : Stage) (par : Parent) (l : Known) : Call → Bool
  | factoryMake v _ | setNull v => v ∉ l.assigned
  | require _ | binAddBin | getVideoDriverName => true
  | assertNonnull v => v ∈ l.sure
  | binAddMany par' vs =>
    par' = par && vs.all (· ∈ l.assigned) && vs.all (· ∉ l.touched)
  | linkMany vs fatal =>
    vs.all (· ∈ l.assigned) &&
      (!fatal || 2 ≤ vs.length && (vs.take 2).all (· ∈ l.sure) && vs.all (· ∈ l.offered))
  | linkRequestSrcPad src dst | linkRequestSrcPadWithDstName src dst =>
    (src.stage ≠ s || src.var ∈ l.sure) && dst ∈ l.sure

def Call.learn (env : GstEnv) (l : Known) : Call → Known
  | factoryMake v f =>
    { l with assigned := v :: l.assigned
             sure := if env.installed f then v :: l.sure else l.sure }
  | setNull v => { l with assigned := v :: l.assigned, offered := v :: l.offered }
  | require vs => { l with sure := vs ++ l.sure }
  | assertNonnull v => { l with sure := v :: l.sure }
  | binAddMany _ vs =>
    -- behind a variable that holds `NULL` nothing is added
    { l with offered := if vs.length ≤ 1 || vs.all (· ∈ l.sure) then vs ++ l.offered else l.offered
             touched := vs ++ l.touched }
  | linkMany vs _ => { l with sure := vs.take 2 ++ l.sure }
  | _ => l

/-- None of the calls ends the program. -/
def safe (env : GstEnv) (s : Stage) (par : Parent) : Known → List Call → Bool
  | _, [] => true
  | ⟨assigned, sure, offered, touched⟩, c :: cs =>
    c.safe s par ⟨assigned, sure, offered, touched⟩ &&
      safe env s par (c.learn env ⟨assigned, sure, offered, touched⟩) cs

/-- What is known is so. -/
structure Agrees (s : Stage) (par : Parent) (l : Known) (p : Pipeline) : Prop where
  assigned : ∀ v, v ∈ l.assigned ↔ (p.value ⟨s, v⟩).isSome
  sure : ∀ v ∈ l.sure, p.holds ⟨s, v⟩
  offered : ∀ v ∈ l.offered, v ∈ l.assigned ∧ (p.holds ⟨s, v⟩ → p.parent ⟨s, v⟩ = some par)
  untouched : ∀ v, v ∉ l.touched → p.parent ⟨s, v⟩ = none

section Safe

variable {env : GstEnv} {s : Stage} {par : Parent} {l : Known} {p p' : Pipeline} {c : Call}
  {cs : List Call}

theorem linkLoop_safe (hacc : ∀ a b, env.accepts a b) {es : List Elem} :
    ∀ {p : Pipeline} {a : Elem}, p.holds a →
      (∀ e ∈ a :: es, p.holds e → p.parent e = some par) → (linkLoop env p a es).2 := by
  induction es with
  | nil => exact fun _ _ ↦ rfl
  | cons b rest ih =>
    intro p a ha hparent
    rw [linkLoop]
    split_ifs with hb hlink
    · exact ih hb fun e he ↦ hparent e (List.mem_cons_of_mem a he)
    · refine absurd ?_ hlink
      rw [Pipeline.linkable, hparent a List.mem_cons_self ha,
        hparent b (List.mem_cons_of_mem a List.mem_cons_self) hb, hacc, decide_eq_true rfl]
      rfl
    · rfl

theorem elementLinkMany_first (env : GstEnv) (p : Pipeline) (es : List Elem)
    (h : (elementLinkMany env p es).2) :
    ∀ e ∈ es.take 2, p.holds e := by
  rcases es with _ | ⟨a, _ | ⟨b, rest⟩⟩
  · cases h
  · cases h
  · rw [elementLinkMany] at h
    split_ifs at h with hab
    obtain ⟨ha, hb⟩ := (Bool.and_eq_true _ _).mp hab
    intro e he
    rcases List.mem_cons.mp he with rfl | he
    · exact ha
    · rw [List.mem_singleton.mp he]
      exact hb

theorem Agrees.of_frame (hl : Agrees s par l p)
    (hsame : ∀ e, p'.value e = p.value e ∧ p'.parent e = p.parent e) : Agrees s par l p' where
  assigned v := by rw [(hsame _).1]; exact hl.assigned v
  sure v hv := by rw [Pipeline.holds, (hsame _).1]; exact hl.sure v hv
  offered v hv := by
    rw [Pipeline.holds, (hsame _).1, (hsame _).2]
    exact hl.offered v hv
  untouched v hv := (hsame _).2.trans (hl.untouched v hv)

theorem Agrees.of_sure (hl : Agrees s par l p) (vs : List Var) (hvs : ∀ v ∈ vs, p.holds ⟨s, v⟩) :
    Agrees s par { l with sure := vs ++ l.sure } p where
  assigned := hl.assigned
  sure v hv := (List.mem_append.mp hv).elim (hvs v) (hl.sure v)
  offered := hl.offered
  untouched := hl.untouched

theorem Agrees.set (hl : Agrees s par l p) {v : Var} (hv : v ∉ l.assigned) (x : Option CString) :
    Agrees s par { l with assigned := v :: l.assigned } (p.set ⟨s, v⟩ x) where
  assigned w := by
    rw [List.mem_cons, hl.assigned, Pipeline.value_set]
    by_cases hwv : w = v
    · simp [hwv]
    · simp [hwv]
  sure w hw := by
    have hne : w ≠ v := by
      rintro rfl
      obtain ⟨f, hf⟩ := Pipeline.holds_iff.mp (hl.sure w hw)
      exact hv ((hl.assigned w).mpr (by rw [hf]; rfl))
    rw [Pipeline.holds, Pipeline.value_set, if_neg (by simpa using hne)]
    exact hl.sure w hw
  offered w hw := by
    obtain ⟨hassigned, hparent⟩ := hl.offered w hw
    have hne : w ≠ v := fun heq ↦ hv (heq ▸ hassigned)
    rw [Pipeline.holds, Pipeline.value_set, if_neg (by simpa using hne)]
    exact ⟨List.mem_cons_of_mem v hassigned, hparent⟩
  untouched := hl.untouched

theorem Agrees.add (hl : Agrees s par l p) {vs : List Var} (hassigned : ∀ v ∈ vs, v ∈ l.assigned)
    (htouched : ∀ v ∈ vs, v ∉ l.touched) :
    Agrees s par (Call.learn env l (.binAddMany par vs))
      (p.add par ((vs.map (⟨s, ·⟩ : Var → Elem)).takeWhile p.holds)) where
  assigned := hl.assigned
  sure := hl.sure
  offered v hv := by
    have hmem : v ∈ l.offered ∨ v ∈ vs ∧ (vs.length ≤ 1 ∨ ∀ w ∈ vs, w ∈ l.sure) := by
      rw [Call.learn] at hv
      simp only [Bool.or_eq_true, decide_eq_true_eq, List.all_eq_true] at hv
      split_ifs at hv with hvs
      · rcases List.mem_append.mp hv with hv | hv
        · exact .inr ⟨hv, hvs⟩
        · exact .inl hv
      · exact .inl hv
    rcases hmem with hv | ⟨hv, hvs⟩
    · obtain ⟨ha, hparent⟩ := hl.offered v hv
      refine ⟨ha, fun hholds ↦ ?_⟩
      rw [Pipeline.parent_add, hparent hholds, Option.some_or]
    · refine ⟨hassigned v hv, fun hholds ↦ ?_⟩
      have hin : (⟨s, v⟩ : Elem) ∈ (vs.map (⟨s, ·⟩ : Var → Elem)).takeWhile p.holds := by
        rcases hvs with hlen | hsure
        · obtain ⟨w, rfl⟩ := List.length_eq_one_iff.mp
            (Nat.le_antisymm hlen (List.length_pos_of_mem hv))
          rw [List.mem_singleton] at hv
          subst hv
          have hv' : p.holds ⟨s, v⟩ := hholds
          simp [hv']
        · rw [List.takeWhile_eq_self_iff.mpr]
          · exact List.mem_map_of_mem hv
          · rintro e he
            obtain ⟨w, hw, rfl⟩ := List.mem_map.mp he
            exact hl.sure w (hsure w hw)
      rw [Pipeline.parent_add, hl.untouched v (htouched v hv), Option.none_or, if_pos hin]
  untouched v hv := by
    have hv' := not_or.mp fun h ↦ hv (List.mem_append.mpr h)
    have hnotin : (⟨s, v⟩ : Elem) ∉ (vs.map (⟨s, ·⟩ : Var → Elem)).takeWhile p.holds := by
      intro hmem
      obtain ⟨w, hw, heq⟩ := List.mem_map.mp ((List.takeWhile_prefix _).subset hmem)
      cases heq
      exact hv'.1 hw
    rw [Pipeline.parent_add, hl.untouched v hv'.2, if_neg hnotin]
    rfl

theorem Call.exec_safe (hacc : ∀ a b, env.accepts a b) (hl : Agrees s par l p)
    (hc : c.safe s par l) (hsrc : ∀ src ∈ c.source?, src.stage ≠ s → p.holds src)
    (hdriver : c = .getVideoDriverName → env.driver.isSome) :
    (∀ f, c.exec env s p ≠ .faults f) ∧
      ∀ p', c.exec env s p = .goesOn p' → Agrees s par (c.learn env l) p' := by
  have hrequest : ∀ {src : Elem} {dst : Var} {b : Bool}, (src.stage ≠ s → p.holds src) →
      ((src.stage ≠ s || src.var ∈ l.sure) && dst ∈ l.sure) →
      (∀ f, requestLink p src ⟨s, dst⟩ b ≠ .faults f) ∧
        ∀ p', requestLink p src ⟨s, dst⟩ b = .goesOn p' → Agrees s par l p' := by
    intro src dst b hs hsafe
    obtain ⟨hsource, hdst⟩ := (Bool.and_eq_true _ _).mp hsafe
    have hholds : p.holds src := by
      by_cases hstage : src.stage = s
      · have hvar : src.var ∈ l.sure := by simpa [hstage] using hsource
        rw [← hstage] at hl
        exact hl.sure src.var hvar
      · exact hs hstage
    obtain ⟨f, hf⟩ := Pipeline.holds_iff.mp hholds
    obtain ⟨g, hg⟩ := Pipeline.holds_iff.mp (hl.sure dst (of_decide_eq_true hdst))
    constructor
    · intro f h
      rw [requestLink, hf, hg] at h
      cases h
    · intro q h
      have hframe := fun e ↦ requestLink_frame e (mem_of_goesOn h)
      exact hl.of_frame fun e ↦ ⟨(hframe e).1, (hframe e).2.1⟩
  cases c with
  | factoryMake v f =>
    refine ⟨fun f h ↦ (by cases h), fun p' h ↦ ?_⟩
    cases h
    have hset := hl.set (of_decide_eq_true hc) (if env.installed f then some f else none)
    refine ⟨hset.assigned, fun w hw ↦ ?_, hset.offered, hset.untouched⟩
    rw [learn] at hw
    by_cases hf : env.installed f
    · rw [if_pos hf] at hw
      rcases List.mem_cons.mp hw with rfl | hw
      · simp [Pipeline.holds, hf]
      · exact hset.sure w hw
    · rw [if_neg hf] at hw
      exact hset.sure w hw
  | setNull v =>
    refine ⟨fun f h ↦ (by cases h), fun p' h ↦ ?_⟩
    cases h
    have hset := hl.set (of_decide_eq_true hc) none
    refine ⟨hset.assigned, hset.sure, fun w hw ↦ ?_, hset.untouched⟩
    rcases List.mem_cons.mp hw with rfl | hw
    · refine ⟨List.mem_cons_self, fun hholds ↦ ?_⟩
      rw [Pipeline.holds, Pipeline.value_set, if_pos rfl] at hholds
      cases hholds
    · exact hset.offered w hw
  | require vs =>
    rw [exec]
    split_ifs with hall
    · refine ⟨fun f h ↦ (by cases h), fun p' h ↦ ?_⟩
      cases h
      exact hl.of_sure _ fun v hv ↦ List.all_eq_true.mp hall v hv
    · exact ⟨fun f h ↦ (by cases h), fun p' h ↦ by cases h⟩
  | assertNonnull v =>
    have hv : p.holds ⟨s, v⟩ := hl.sure v (of_decide_eq_true hc)
    rw [exec, if_pos hv]
    refine ⟨fun f h ↦ (by cases h), fun p' h ↦ ?_⟩
    cases h
    exact hl.of_sure [v] fun w hw ↦ List.mem_singleton.mp hw ▸ hv
  | binAddMany par' vs =>
    obtain ⟨hfirst, htouched⟩ := (Bool.and_eq_true _ _).mp hc
    obtain ⟨hpar, hassigned⟩ := (Bool.and_eq_true _ _).mp hfirst
    cases of_decide_eq_true hpar
    refine ⟨fun f h ↦ (by cases h), fun p' h ↦ ?_⟩
    cases h
    exact hl.add (fun v hv ↦ of_decide_eq_true (List.all_eq_true.mp hassigned v hv))
      fun v hv ↦ of_decide_eq_true (List.all_eq_true.mp htouched v hv)
  | binAddBin =>
    refine ⟨fun f h ↦ (by cases h), fun p' h ↦ ?_⟩
    cases h
    exact hl.of_frame fun e ↦ ⟨rfl, rfl⟩
  | linkMany vs fatal =>
    obtain ⟨hassigned, hfatal⟩ := (Bool.and_eq_true _ _).mp hc
    have hany : ¬ vs.any fun v ↦ (p.value ⟨s, v⟩).isNone := by
      simp only [List.any_eq_true, not_exists, not_and]
      intro v hv hnone
      have hsome := (hl.assigned v).mp (of_decide_eq_true (List.all_eq_true.mp hassigned v hv))
      rw [Option.isNone_iff_eq_none.mp hnone] at hsome
      cases hsome
    have hlinked : fatal → (elementLinkMany env p (vs.map (⟨s, ·⟩))).2 := by
      rintro rfl
      simp only [Bool.not_true, Bool.false_or, Bool.and_eq_true, decide_eq_true_eq,
        List.all_eq_true] at hfatal
      obtain ⟨⟨hlen, hsure⟩, hoffered⟩ := hfatal
      rcases vs with _ | ⟨a, _ | ⟨b, rest⟩⟩
      · cases hlen
      · exact absurd hlen (by simp)
      · have ha := hl.sure a (hsure a (by simp))
        have hb := hl.sure b (hsure b (by simp))
        have hparent : ∀ e ∈ (a :: b :: rest).map (⟨s, ·⟩ : Var → Elem), p.holds e →
            p.parent e = some par := by
          intro e he hholds
          obtain ⟨v, hv, rfl⟩ := List.mem_map.mp he
          exact (hl.offered v (hoffered v hv)).2 hholds
        rw [List.map_cons, List.map_cons, elementLinkMany,
          if_pos ((Bool.and_eq_true _ _).mpr ⟨ha, hb⟩)]
        exact linkLoop_safe hacc ha hparent
    have hframe := fun e ↦ elementLinkMany_frame env p (vs.map (⟨s, ·⟩)) e
    have hfirst := elementLinkMany_first env p (vs.map (⟨s, ·⟩))
    rw [exec, if_neg hany]
    split
    · next q heq =>
      refine ⟨fun f h ↦ (by cases h), fun p' h ↦ ?_⟩
      cases h
      rw [heq] at hframe
      refine Agrees.of_frame (hl.of_sure (vs.take 2) fun v hv ↦ ?_)
        fun e ↦ ⟨(hframe e).1, (hframe e).2.1⟩
      refine hfirst (by rw [heq]) ⟨s, v⟩ ?_
      rw [← List.map_take]
      exact List.mem_map_of_mem hv
    · next q heq =>
      split_ifs with hf
      · have htrue := hlinked hf
        rw [heq] at htrue
        cases htrue
      · exact ⟨fun f h ↦ (by cases h), fun p' h ↦ by cases h⟩
  | linkRequestSrcPad src dst => exact hrequest (hsrc src rfl) hc
  | linkRequestSrcPadWithDstName src dst => exact hrequest (hsrc src rfl) hc
  | getVideoDriverName =>
    rw [exec, if_pos (hdriver rfl)]
    refine ⟨fun f h ↦ (by cases h), fun p' h ↦ ?_⟩
    cases h
    exact hl

/-- **Calls that cannot fail.** The sources must be there, and the driver if it is asked for. -/
theorem runCalls_safe (hacc : ∀ a b, env.accepts a b) (hl : Agrees s par l p)
    (hcs : safe env s par l cs) (hsrc : ∀ c ∈ cs, ∀ src ∈ c.source?, src.stage ≠ s → p.holds src)
    (hdriver : .getVideoDriverName ∈ cs → env.driver.isSome) :
    ∀ f, runCalls env s cs p ≠ .faults f := by
  induction cs generalizing p l with
  | nil => exact fun f h ↦ by cases h
  | cons c cs ih =>
    intro f h
    obtain ⟨hc, hrest⟩ := (Bool.and_eq_true _ _).mp hcs
    obtain ⟨hnot, hgoes⟩ := Call.exec_safe hacc hl hc (hsrc c List.mem_cons_self)
      fun hask ↦ hdriver (hask ▸ List.mem_cons_self)
    rw [runCalls] at h
    split at h
    · next q hexec =>
      refine ih (hgoes q hexec) hrest (fun d hd src hs hstage ↦ ?_)
        (fun hask ↦ hdriver (List.mem_cons_of_mem c hask)) f h
      have hne : ∀ v ∈ c.var?, src ≠ ⟨s, v⟩ := fun v _ heq ↦ hstage (by rw [heq])
      rw [Pipeline.holds, Call.exec_value (mem_of_goesOn hexec) hne]
      exact hsrc d (List.mem_cons_of_mem c hd) src hs hstage
    · exact hnot f h

theorem agrees_nil (h : ({} : Pipeline).Untouched s p) : Agrees s par {} p where
  assigned v := by
    rw [h.value ⟨s, v⟩ rfl]
    exact iff_of_false List.not_mem_nil (by simp [Pipeline.value])
  sure v hv := absurd hv List.not_mem_nil
  offered v hv := absurd hv List.not_mem_nil
  untouched v _ := h.parent ⟨s, v⟩ rfl

end Safe

/-! ## Machines

What cannot fail where nothing is installed cannot fail anywhere. -/

/-- More is known. -/
structure Known.Le (l l' : Known) : Prop where
  assigned : l'.assigned = l.assigned
  sure : ∀ v ∈ l.sure, v ∈ l'.sure
  offered : ∀ v ∈ l.offered, v ∈ l'.offered
  touched : l'.touched = l.touched

/-- A machine on which nothing is there. -/
def bareGst : GstEnv := { bareEnv with accepts := fun _ _ ↦ true }

section Machines

variable {env : GstEnv} {s : Stage} {par : Parent} {l l' : Known} {c : Call} {cs : List Call}

theorem Call.safe_mono (hle : l.Le l') (h : c.safe s par l) : c.safe s par l' := by
  cases c with
  | factoryMake v f | setNull v =>
    rw [Call.safe, hle.assigned]
    exact h
  | require vs | binAddBin | getVideoDriverName => rfl
  | assertNonnull v => exact decide_eq_true (hle.sure v (of_decide_eq_true h))
  | binAddMany par' vs =>
    rw [Call.safe, hle.assigned, hle.touched]
    exact h
  | linkMany vs fatal =>
    rw [Call.safe, hle.assigned]
    simp only [Call.safe, Bool.and_eq_true, Bool.or_eq_true, List.all_eq_true,
      decide_eq_true_eq] at h ⊢
    refine ⟨h.1, h.2.imp_right fun ⟨⟨hlen, hsure⟩, hoffered⟩ ↦ ⟨⟨hlen, ?_⟩, ?_⟩⟩
    · exact fun v hv ↦ hle.sure v (hsure v hv)
    · exact fun v hv ↦ hle.offered v (hoffered v hv)
  | linkRequestSrcPad src dst | linkRequestSrcPadWithDstName src dst =>
    simp only [Call.safe, Bool.and_eq_true, Bool.or_eq_true, decide_eq_true_eq] at h ⊢
    exact ⟨h.1.imp_right (hle.sure _), hle.sure _ h.2⟩

theorem Call.learn_mono (hle : l.Le l') : (c.learn bareGst l).Le (c.learn env l') := by
  have happend : ∀ vs : List Var, ∀ v ∈ vs ++ l.sure, v ∈ vs ++ l'.sure := fun vs v hv ↦
    List.mem_append.mpr ((List.mem_append.mp hv).imp_right (hle.sure v))
  cases c with
  | factoryMake v f =>
    refine ⟨congrArg (v :: ·) hle.assigned, fun w hw ↦ ?_, hle.offered, hle.touched⟩
    have hw' : w ∈ l'.sure := hle.sure w hw
    rw [Call.learn]
    split_ifs
    · exact List.mem_cons_of_mem v hw'
    · exact hw'
  | setNull v =>
    refine ⟨congrArg (v :: ·) hle.assigned, hle.sure, fun w hw ↦ ?_, hle.touched⟩
    exact List.mem_cons.mpr ((List.mem_cons.mp hw).imp_right (hle.offered w))
  | require vs => exact ⟨hle.assigned, happend vs, hle.offered, hle.touched⟩
  | assertNonnull v => exact ⟨hle.assigned, happend [v], hle.offered, hle.touched⟩
  | binAddMany par' vs =>
    refine ⟨hle.assigned, hle.sure, fun w hw ↦ ?_, congrArg (vs ++ ·) hle.touched⟩
    simp only [Call.learn, Bool.or_eq_true, decide_eq_true_eq, List.all_eq_true] at hw ⊢
    split_ifs at hw with hvs
    · rw [if_pos (hvs.imp_right fun h v hv ↦ hle.sure v (h v hv))]
      exact List.mem_append.mpr ((List.mem_append.mp hw).imp_right (hle.offered w))
    · split_ifs
      · exact List.mem_append_right _ (hle.offered w hw)
      · exact hle.offered w hw
  | linkMany vs fatal => exact ⟨hle.assigned, happend (vs.take 2), hle.offered, hle.touched⟩
  | binAddBin | linkRequestSrcPad | linkRequestSrcPadWithDstName | getVideoDriverName => exact hle

theorem safe_mono : ∀ {l l' : Known}, l.Le l' → safe bareGst s par l cs → safe env s par l' cs := by
  induction cs with
  | nil => exact fun _ _ ↦ rfl
  | cons c cs ih =>
    intro l l' hle h
    obtain ⟨hc, hrest⟩ := (Bool.and_eq_true _ _).mp h
    exact (Bool.and_eq_true _ _).mpr
      ⟨Call.safe_mono hle hc, ih (Call.learn_mono hle) hrest⟩

theorem safe_shape : ∀ {l : Known},
    safe bareGst s par l (cs.map Call.shape) = safe bareGst s par l cs := by
  induction cs with
  | nil => exact rfl
  | cons c cs ih =>
    intro l
    rw [List.map_cons, safe, safe, ih]
    cases c <;> rfl

theorem safe_of_shape (h : safe bareGst s par {} (cs.map Call.shape)) : safe env s par {} cs :=
  safe_mono ⟨rfl, fun _ h ↦ h, fun _ h ↦ h, rfl⟩ (safe_shape ▸ h)

end Machines

/-! ## The functions -/

section Functions

variable (env : GstEnv) (cfg : PipelineConfig) (audio : Bool)

theorem safe_getVideoSrc : safe env .videoSrc .pipeline {} (getVideoSrc env cfg) := by
  refine safe_of_shape ?_
  rw [getVideoSrc, List.map_append]
  split_ifs
  · rw [jpegCalls, postprocCalls, postproc]
    cases softwareDecodes env <;> cases env.installed (ofString "jpegparse") <;>
      cases env.installed (ofString "vaapipostproc") <;>
      simp only [List.map_append, List.map_cons, Call.shape] <;> decide +kernel
  · rw [rawCalls, postprocCalls, postproc]
    cases env.installed (ofString "vaapipostproc") <;> decide +kernel

theorem safe_getAudioSrc : safe env .audioSrc .pipeline {} (getAudioSrc env) := by
  refine safe_of_shape ?_
  simp only [getAudioSrc, List.map_cons, Call.shape]
  decide +kernel

theorem safe_branch {s : Stage} (hs : s ≠ .avHls) :
    ∃ par, safe env s par {} (s.calls env cfg audio) := by
  cases s with
  | avHls => exact absurd rfl hs
  | udpMulticast =>
    refine ⟨.udpBin, safe_of_shape ?_⟩
    rw [Stage.calls]
    cases audio <;> decide +kernel
  | avAppsink | avUdpsink =>
    refine ⟨.pipeline, safe_of_shape ?_⟩
    simp only [Stage.calls, startAvAppsink, startAvUdpsink, parseAndLink]
    cases audio <;> split_ifs <;> simp only [List.map_append, shape_makeElementAndAdd] <;>
      decide +kernel
  | splitfile =>
    refine ⟨.pipeline, safe_of_shape ?_⟩
    rw [Stage.calls, splitfileSink]
    rcases shape_encoderCalls env .h264 with h | h | h <;>
      simp only [List.map_append, h] <;> decide +kernel
  | edgeHls | cvtrackerHls | facedetectHls | motionHls =>
    refine ⟨.pipeline, safe_of_shape ?_⟩
    simp only [Stage.calls, edgedectHlssink, cvtrackerHlssink, facedetectHlssink, motionHlssink]
    rcases shape_encoderCalls env .h264 with h | h | h <;> cases cfg.showtext <;>
      simp only [List.map_append, h] <;> decide +kernel
  | videoSrc | encoderSrc | audioSrc => exact ⟨.pipeline, rfl⟩

theorem mem_sure {c : Prop} [Decidable c] {v w : Var} {l : List Var} :
    v ∈ (if c then w :: l else l) ↔ c ∧ v = w ∨ v ∈ l := by
  by_cases h : c <;> simp [h]

/-- The question for the driver tells a function nothing of its variables. -/
theorem safe_encoderCalls (s : Stage) (par : Parent) (l : Known) (family : EncoderFamily)
    (cs : List Call) :
    safe env s par l (encoderCalls env family ++ cs)
      = safe env s par l (addEncoder (family.build env.toEncoderEnv) ++ cs) := by
  rw [encoderCalls]
  split_ifs
  · cases l
    rfl
  · rfl

theorem safe_avHlssink {e : BuiltEncoder} (he : getHardwareH264Encoder env.toEncoderEnv = some e)
    (hinst : env.installed e.factory) : safe env .avHls .pipeline {} (avHlssink env audio) := by
  simp only [avHlssink, List.append_assoc]
  rw [safe_encoderCalls, EncoderFamily.build, he]
  cases audio <;>
    simp [addEncoder, makeElementAndAdd, safe, Call.safe, Call.learn, mem_sure, hinst, audioSource]

theorem safe_getEncoderSrc (h : cfg.sysinfo → env.installed (ofString "textoverlay")) :
    safe env .encoderSrc .pipeline {} (getEncoderSrc env cfg) := by
  simp only [getEncoderSrc, List.append_assoc]
  rw [safe_encoderCalls]
  cases (videoEncoderFamily cfg.videnc).build env.toEncoderEnv <;> cases hsys : cfg.sysinfo <;>
    cases isH264 cfg <;>
    simp [addEncoder, safe, Call.safe, Call.learn, mem_sure, videoSource, hsys] at h ⊢ <;> simp [h]

end Functions

/-! ## The sources are there -/

section Sources

variable {env : GstEnv} {cfg : PipelineConfig} {s : Stage} {p p' : Pipeline} {cs : List Call}
  {i : Initialized}

theorem holds_of_goesOn (hnodup : (cs.filterMap Call.var?).Nodup) {v : Var} {f : CString}
    (hmem : .factoryMake v f ∈ cs) (hf : env.installed f)
    (h : runCalls env s cs p = .goesOn p') : p'.holds ⟨s, v⟩ := by
  obtain ⟨before, after, rfl⟩ := List.append_of_mem hmem
  rw [runCalls_append] at h
  rcases hbefore : runCalls env s before p with q | q | g
  · simp only [hbefore, runCalls, Call.exec, if_pos hf] at h
    have hafter : ∀ c ∈ after, ∀ w ∈ c.var?, (⟨s, v⟩ : Elem) ≠ ⟨s, w⟩ := by
      intro c hc w hw heq
      cases heq
      rw [List.filterMap_append, List.filterMap_cons_some (f := Call.var?) (b := v) rfl] at hnodup
      refine (List.nodup_cons.mp (List.nodup_append.mp hnodup).2.1).1 ?_
      exact List.mem_filterMap.mpr ⟨c, hc, hw⟩
    have hvalue := runCalls_value (mem_of_goesOn h) hafter
    rw [Pipeline.holds, hvalue]
    simp
  · rw [hbefore] at h
    cases h
  · rw [hbefore] at h
    cases h

theorem nodup_getVideoSrc : ((getVideoSrc env cfg).filterMap Call.var?).Nodup := by
  rw [← filterMap_shape, getVideoSrc, List.map_append]
  split_ifs
  · rw [jpegCalls, postprocCalls, postproc]
    cases softwareDecodes env <;> cases env.installed (ofString "jpegparse") <;>
      cases env.installed (ofString "vaapipostproc") <;>
      simp only [List.map_append, List.map_cons, Call.shape] <;> decide +kernel
  · rw [rawCalls, postprocCalls, postproc]
    cases env.installed (ofString "vaapipostproc") <;> decide +kernel

theorem nodup_getEncoderSrc : ((getEncoderSrc env cfg).filterMap Call.var?).Nodup := by
  rw [← filterMap_shape, getEncoderSrc]
  rcases shape_encoderCalls env (videoEncoderFamily cfg.videnc) with h | h | h <;>
    cases cfg.sysinfo <;> cases isH264 cfg <;>
    simp only [List.map_append, h] <;> decide +kernel

theorem nodup_getAudioSrc : ((getAudioSrc env).filterMap Call.var?).Nodup := by
  rw [← filterMap_shape]
  simp only [getAudioSrc, List.map_cons, Call.shape]
  decide

theorem installed_of_goesOn (hfresh : ({} : Pipeline).Untouched s p)
    (h : runCalls env s cs p = .goesOn p') :
    ∀ c ∈ cs, ∀ v ∈ c.required, Installed env cs v := by
  have hval : ∀ v, p.holds ⟨s, v⟩ → Installed env cs v := by
    intro v hv
    rw [Pipeline.holds, hfresh.value ⟨s, v⟩ rfl] at hv
    cases hv
  exact (runCalls_installed (fun c hc ↦ hc) hval (mem_of_goesOn h)).2 h

theorem installed_tee (h : runCalls env .videoSrc (getVideoSrc env cfg) {} = .goesOn p) :
    env.installed (ofString "tee") := by
  have hreq := installed_of_goesOn (.refl _ _) h (.require [.teesrc, .source, .capsfilter, .queue])
    (by rw [getVideoSrc]; exact List.mem_append_left _ (by simp)) .teesrc (by simp [Call.required])
  cases himage : (lit "image").isPrefixOf cfg.type.chars <;>
    cases hpost : env.installed (ofString "vaapipostproc") <;>
    cases hsoft : softwareDecodes env <;>
    cases hparse : env.installed (ofString "jpegparse") <;>
    simpa [getVideoSrc, jpegCalls, rawCalls, postprocCalls, postproc, himage, hpost, hsoft, hparse,
      Installed] using hreq

theorem holds_videoSource (h : runCalls env .videoSrc (getVideoSrc env cfg) {} = .goesOn p) :
    p.holds videoSource := by
  refine holds_of_goesOn nodup_getVideoSrc ?_ (installed_tee h) h
  rw [getVideoSrc]
  exact List.mem_append_left _ (by simp)

theorem holds_videoEncoder (htee : env.installed (ofString "tee"))
    (h : runCalls env .encoderSrc (getEncoderSrc env cfg) p = .goesOn p') :
    p'.holds videoEncoder :=
  holds_of_goesOn nodup_getEncoderSrc (by simp [getEncoderSrc]) htee h

theorem holds_audioSource (htee : env.installed (ofString "tee"))
    (h : runCalls env .audioSrc (getAudioSrc env) p = .goesOn p') : p'.holds audioSource :=
  holds_of_goesOn nodup_getAudioSrc (by simp [getAudioSrc]) htee h

/-- Where the branches begin. -/
theorem holds_of_initialDevice (h : initialDevice env cfg = .ok i) (hi : i.isInitial) :
    i.pipeline.holds videoSource ∧ i.pipeline.holds videoEncoder ∧
      (i.audio → i.pipeline.holds audioSource) ∧
      ∀ s, s ≠ .videoSrc ∧ s ≠ .encoderSrc ∧ s ≠ .audioSrc →
        ({} : Pipeline).Untouched s i.pipeline := by
  obtain ⟨p₁, p₂, hvideo, hencoder, hother, haudio⟩ := initialDevice_cases h hi
  have htee := installed_tee hvideo
  have hvideoFar : ∀ s, s ≠ .videoSrc → ({} : Pipeline).Untouched s p₁ := fun s hs ↦
    runCalls_untouched (mem_of_goesOn hvideo)
      (fun l hl ↦ ((placed_getVideoSrc env cfg).1 l hl).1) hs
  have hencoderFar : ∀ s, s ≠ .encoderSrc → p₁.Untouched s p₂ := fun s hs ↦
    runCalls_untouched (mem_of_goesOn hencoder)
      (fun l hl ↦ ((placed_getEncoderSrc env cfg).1 l hl).1) hs
  refine ⟨?_, ?_, fun ha ↦ holds_audioSource htee (haudio ha), fun s hs ↦ ?_⟩
  · have hsame := (hencoderFar .videoSrc (by simp)).trans (hother .videoSrc (by simp))
    rw [Pipeline.holds, hsame.value videoSource rfl]
    exact holds_videoSource hvideo
  · rw [Pipeline.holds, (hother .encoderSrc (by simp)).value videoEncoder rfl]
    exact holds_videoEncoder htee hencoder
  · exact ((hvideoFar s hs.1).trans (hencoderFar s hs.2.1)).trans (hother s hs.2.2)

end Sources

end GstWebrtcCamera

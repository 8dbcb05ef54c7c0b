import GstWebrtcCamera.Pipeline.Forest
import Mathlib.Data.List.Pairwise

/-!
# What a function does with its elements

Two readings of a straight line of calls. If everything that is used has been made and added before,
and everything that is made is installed, then the function links whatever it asks for. And the
other way round: what a function has linked, and what it has required, is installed.

A function touches its own elements only, so what is found out about one holds in the pipeline that
all of them leave behind.
-/

namespace GstWebrtcCamera

open Flow CString

/-! ## Elements of other functions -/

/-- Nothing happens to the elements of a function, and nothing new is linked to them. -/
structure Pipeline.Untouched (s : Stage) (p p' : Pipeline) : Prop where
  value : ∀ e : Elem, e.stage = s → p'.value e = p.value e
  parent : ∀ e : Elem, e.stage = s → p'.parent e = p.parent e
  links : ∀ l : Elem × Elem, l.2.stage = s → (l ∈ p'.links ↔ l ∈ p.links)

namespace Pipeline.Untouched

variable {s : Stage} {p p' p'' : Pipeline}

theorem refl (s : Stage) (p : Pipeline) : p.Untouched s p :=
  ⟨fun _ _ ↦ rfl, fun _ _ ↦ rfl, fun _ _ ↦ Iff.rfl⟩

theorem symm (h : p.Untouched s p') : p'.Untouched s p where
  value e he := (h.value e he).symm
  parent e he := (h.parent e he).symm
  links l hl := (h.links l hl).symm

theorem trans (h : p.Untouched s p') (h' : p'.Untouched s p'') : p.Untouched s p'' where
  value e he := (h'.value e he).trans (h.value e he)
  parent e he := (h'.parent e he).trans (h.parent e he)
  links l hl := (h'.links l hl).trans (h.links l hl)

end Pipeline.Untouched

namespace Pipeline

variable {p p' : Pipeline} {e e' : Elem} {v : Option CString}

@[simp] theorem value_set : (p.set e v).value e' = if e' = e then some v else p.value e' := by
  rw [value, set, List.lookup_cons]
  by_cases h : e' = e
  · simp [h]
  · have hbeq : (e' == e) = false := beq_eq_false_iff_ne.mpr h
    rw [hbeq, if_neg h, value]

@[simp] theorem parent_set : (p.set e v).parent e' = p.parent e' := rfl

@[simp] theorem links_set : (p.set e v).links = p.links := rfl

@[simp] theorem value_add (par : Parent) (es : List Elem) : (p.add par es).value e = p.value e :=
  rfl

@[simp] theorem links_add (par : Parent) (es : List Elem) : (p.add par es).links = p.links := rfl

@[simp] theorem udpBin_add (par : Parent) (es : List Elem) : (p.add par es).udpBin = p.udpBin :=
  rfl

theorem parent_add (par : Parent) (es : List Elem) :
    (p.add par es).parent e = (p.parent e).or (if e ∈ es then some par else none) := by
  have hlookup : ∀ es : List Elem,
      (es.map (·, par)).lookup e = if e ∈ es then some par else none := by
    intro es
    induction es with
    | nil => rfl
    | cons a es ih =>
      rw [List.map_cons, List.lookup_cons]
      by_cases h : e = a
      · simp [h]
      · have hbeq : (e == a) = false := beq_eq_false_iff_ne.mpr h
        simp [hbeq, h, ih]
  rw [parent, parent, add, List.lookup_append, hlookup]

@[simp] theorem value_link (a b : Elem) : (p.link a b).value e = p.value e := rfl

@[simp] theorem parent_link (a b : Elem) : (p.link a b).parent e = p.parent e := rfl

@[simp] theorem holds_link (a b : Elem) : (p.link a b).holds e = p.holds e := rfl

theorem holds_iff : p.holds e = true ↔ ∃ f, p.value e = some (some f) := by
  rw [holds]
  rcases p.value e with _ | _ | f <;> simp

end Pipeline

/-- The variable that gets a value. -/
def Call.var? : Call → Option Var
  | factoryMake v _ | setNull v => some v
  | _ => none

section Frame

variable {env : GstEnv} {s t : Stage} {p p' : Pipeline} {c : Call} {cs : List Call}

theorem linkLoop_frame (es : List Elem) (e : Elem) : ∀ (p : Pipeline) (a : Elem),
    (linkLoop env p a es).1.value e = p.value e ∧
      (linkLoop env p a es).1.parent e = p.parent e ∧
      (linkLoop env p a es).1.udpBin = p.udpBin := by
  induction es with
  | nil => exact fun p a ↦ ⟨rfl, rfl, rfl⟩
  | cons b rest ih =>
    intro p a
    rw [linkLoop]
    split
    · split
      · exact ih (p.link a b) b
      · exact ⟨rfl, rfl, rfl⟩
    · exact ⟨rfl, rfl, rfl⟩

theorem elementLinkMany_frame (env : GstEnv) (p : Pipeline) (es : List Elem) (e : Elem) :
    (elementLinkMany env p es).1.value e = p.value e ∧
      (elementLinkMany env p es).1.parent e = p.parent e ∧
      (elementLinkMany env p es).1.udpBin = p.udpBin := by
  rcases es with _ | ⟨a, _ | ⟨b, rest⟩⟩
  · exact ⟨rfl, rfl, rfl⟩
  · exact ⟨rfl, rfl, rfl⟩
  · rw [elementLinkMany]
    split
    · exact linkLoop_frame (b :: rest) e p a
    · exact ⟨rfl, rfl, rfl⟩

theorem requestLink_frame {src dst : Elem} {links : Bool} (e : Elem)
    (h : p' ∈ (requestLink p src dst links).pipeline?) :
    p'.value e = p.value e ∧ p'.parent e = p.parent e ∧ p'.udpBin = p.udpBin := by
  rw [requestLink] at h
  split at h
  · cases h
    split_ifs <;> exact ⟨rfl, rfl, rfl⟩
  all_goals cases h

theorem Call.exec_value (h : p' ∈ (c.exec env s p).pipeline?) {e : Elem}
    (hne : ∀ v ∈ c.var?, e ≠ ⟨s, v⟩) : p'.value e = p.value e := by
  cases c with
  | factoryMake v f =>
    cases h
    rw [Pipeline.value_set, if_neg (hne v rfl)]
  | setNull v =>
    cases h
    rw [Pipeline.value_set, if_neg (hne v rfl)]
  | binAddMany | binAddBin =>
    cases h
    rfl
  | require vs =>
    rw [exec] at h
    split at h <;> cases h <;> rfl
  | assertNonnull | getVideoDriverName =>
    rw [exec] at h
    split at h <;> cases h
    rfl
  | linkMany vs fatal =>
    have hframe := (elementLinkMany_frame env p (vs.map (⟨s, ·⟩)) e).1
    rw [exec] at h
    split at h
    · cases h
    · split at h
      · next heq =>
        cases h
        rw [heq] at hframe
        exact hframe
      · next heq =>
        rw [heq] at hframe
        split at h <;> cases h
        exact hframe
  | linkRequestSrcPad src dst => exact (requestLink_frame e h).1
  | linkRequestSrcPadWithDstName src dst => exact (requestLink_frame e h).1

theorem Call.exec_parent (h : p' ∈ (c.exec env s p).pipeline?) {e : Elem} (he : e.stage ≠ s) :
    p'.parent e = p.parent e := by
  cases c with
  | factoryMake | setNull | binAddBin =>
    cases h
    rfl
  | binAddMany par vs =>
    cases h
    have hnotin : e ∉ (vs.map (⟨s, ·⟩ : Var → Elem)).takeWhile p.holds := by
      intro hmem
      obtain ⟨v, -, rfl⟩ := List.mem_map.mp ((List.takeWhile_prefix _).subset hmem)
      exact he rfl
    rw [Pipeline.parent_add, if_neg hnotin, Option.or_none]
  | require vs =>
    rw [exec] at h
    split at h <;> cases h <;> rfl
  | assertNonnull | getVideoDriverName =>
    rw [exec] at h
    split at h <;> cases h
    rfl
  | linkMany vs fatal =>
    have hframe := (elementLinkMany_frame env p (vs.map (⟨s, ·⟩)) e).2.1
    rw [exec] at h
    split at h
    · cases h
    · split at h
      · next heq =>
        cases h
        rw [heq] at hframe
        exact hframe
      · next heq =>
        rw [heq] at hframe
        split at h <;> cases h
        exact hframe
  | linkRequestSrcPad src dst => exact (requestLink_frame e h).2.1
  | linkRequestSrcPadWithDstName src dst => exact (requestLink_frame e h).2.1

theorem runCalls_value (h : p' ∈ (runCalls env s cs p).pipeline?) {e : Elem}
    (hne : ∀ c ∈ cs, ∀ v ∈ c.var?, e ≠ ⟨s, v⟩) : p'.value e = p.value e := by
  induction cs generalizing p with
  | nil =>
    cases h
    rfl
  | cons c cs ih =>
    have hfirst := hne c List.mem_cons_self
    rw [runCalls] at h
    split at h
    · next p₁ hexec =>
      have hvalue : p₁.value e = p.value e := Call.exec_value (mem_of_goesOn hexec) hfirst
      exact (ih h fun d hd ↦ hne d (List.mem_cons_of_mem c hd)).trans hvalue
    · exact Call.exec_value h hfirst

theorem runCalls_parent (h : p' ∈ (runCalls env s cs p).pipeline?) {e : Elem} (he : e.stage ≠ s) :
    p'.parent e = p.parent e := by
  induction cs generalizing p with
  | nil =>
    cases h
    rfl
  | cons c cs ih =>
    rw [runCalls] at h
    split at h
    · next p₁ hexec =>
      have hparent : p₁.parent e = p.parent e := Call.exec_parent (mem_of_goesOn hexec) he
      exact (ih h).trans hparent
    · exact Call.exec_parent h he

theorem runCalls_untouched (h : p' ∈ (runCalls env t cs p).pipeline?)
    (hinto : ∀ l ∈ callLinks t cs, l.2.stage = t) (hst : s ≠ t) : p.Untouched s p' := by
  refine ⟨fun e he ↦ runCalls_value h fun _ _ v _ heq ↦ hst ?_,
    fun e he ↦ runCalls_parent h (he ▸ hst), fun l hl ↦ ?_⟩
  · rw [← he, heq]
  · obtain ⟨added, hlinks, hsub⟩ := runCalls_links h
    rw [hlinks, List.mem_append, or_iff_left]
    exact fun hmem ↦ hst (hl.symm.trans (hinto l (hsub.subset hmem)))

theorem runCalls_append (cs cs' : List Call) (p : Pipeline) :
    runCalls env s (cs ++ cs') p
      = match runCalls env s cs p with
        | .goesOn q => runCalls env s cs' q
        | o => o := by
  induction cs generalizing p with
  | nil => rfl
  | cons c cs ih =>
    rw [List.cons_append, runCalls, runCalls]
    rcases c.exec env s p with q | q | f
    · exact ih q
    · rfl
    · rfl

end Frame

/-! ## A function that has everything -/

/-- What the call makes is installed. -/
def Call.there (env : GstEnv) : Call → Bool
  | factoryMake _ f => env.installed f
  | setNull _ => false
  | _ => true

/-- Everything the calls make is installed. -/
def complete (env : GstEnv) (cs : List Call) : Bool := cs.all (Call.there env)

/-- The `tee` that a pad is requested from. -/
def Call.source? : Call → Option Elem
  | linkRequestSrcPad src _ | linkRequestSrcPadWithDstName src _ => some src
  | _ => none

/-- The links of a call that finds everything it needs. -/
def Call.granted (env : GstEnv) (s : Stage) : Call → List (Elem × Elem)
  | linkMany vs _ => pairs (vs.map (⟨s, ·⟩))
  | linkRequestSrcPad src dst | linkRequestSrcPadWithDstName src dst =>
    if env.accepts src ⟨s, dst⟩ then [(src, ⟨s, dst⟩)] else []
  | _ => []

/-- How far a function has come. -/
structure Locals where
  made : List Var := []
  added : List Var := []
  bin : Bool := false

/-- The call finds what it needs, in a function whose elements go into `par`. -/
def Call.ready (par : Parent) (l : Locals) : Call → Bool
  | factoryMake v _ | setNull v => v ∉ l.made
  | require vs | linkMany vs _ => vs.all (· ∈ l.made)
  | assertNonnull v => v ∈ l.made
  | binAddMany par' vs => par' = par && vs.all (· ∈ l.made)
  | binAddBin | getVideoDriverName => true
  | linkRequestSrcPad _ dst => par = .pipeline && dst ∈ l.added
  | linkRequestSrcPadWithDstName _ _ => par = .udpBin && l.bin

def Call.next (env : GstEnv) (l : Locals) : Call → Locals
  | factoryMake v f => if env.installed f then { l with made := v :: l.made } else l
  | binAddMany _ vs => { l with added := vs ++ l.added }
  | binAddBin => { l with bin := true }
  | _ => l

/-- Every call finds what it needs. -/
def ready (env : GstEnv) (par : Parent) : Locals → List Call → Bool
  | _, [] => true
  -- taken apart here, so that no update is left for later when this is computed
  | ⟨made, added, bin⟩, c :: cs =>
    c.ready par ⟨made, added, bin⟩ && ready env par (c.next env ⟨made, added, bin⟩) cs

/-- The pipeline has what the function has made. -/
structure Knows (s : Stage) (par : Parent) (l : Locals) (p : Pipeline) : Prop where
  holds : ∀ v ∈ l.made, p.holds ⟨s, v⟩
  inside : ∀ v ∈ l.added, p.parent ⟨s, v⟩ = some par
  outside : ∀ v, v ∉ l.added → p.parent ⟨s, v⟩ = none
  bin : l.bin → p.udpBin

/-- With everything installed it is the same for every function that has everything. -/
theorem ready_of_complete {env : GstEnv} {par : Parent} {cs : List Call} :
    ∀ {l : Locals}, complete env cs → ready fullGst par l cs → ready env par l cs := by
  induction cs with
  | nil => exact fun _ _ ↦ rfl
  | cons c cs ih =>
    intro l hcomplete hready
    obtain ⟨hc, hcs⟩ := (Bool.and_eq_true _ _).mp hcomplete
    obtain ⟨hfirst, hrest⟩ := (Bool.and_eq_true _ _).mp hready
    have hnext : c.next env l = c.next fullGst l := by
      cases c with
      | factoryMake v f =>
        have hf : env.installed f := hc
        have hf' : fullGst.installed f := rfl
        rw [Call.next, Call.next, if_pos hf, if_pos hf']
      | _ => rfl
    exact (Bool.and_eq_true _ _).mpr ⟨hfirst, ih hcs (hnext ▸ hrest)⟩

section Ready

variable {env : GstEnv} {s : Stage} {par : Parent} {l : Locals} {p p' : Pipeline} {c : Call}
  {cs : List Call}

theorem linkLoop_all {es : List Elem} : ∀ {p : Pipeline} {a : Elem}, (∀ e ∈ es, p.holds e) →
    (linkLoop env p a es).2 → (linkLoop env p a es).1.links = p.links ++ pairs (a :: es) := by
  induction es with
  | nil => exact fun _ _ ↦ by simp [linkLoop]
  | cons b rest ih =>
    intro p a hholds hlinked
    have hb : p.holds b := hholds b List.mem_cons_self
    rw [linkLoop, if_pos hb] at hlinked ⊢
    split_ifs at hlinked ⊢
    have hrest : ∀ e ∈ rest, (p.link a b).holds e :=
      fun e he ↦ hholds e (List.mem_cons_of_mem b he)
    rw [ih hrest hlinked, Pipeline.link, pairs_cons_cons, List.append_assoc, List.singleton_append]

theorem elementLinkMany_all {es : List Elem} (hholds : ∀ e ∈ es, p.holds e)
    (hlinked : (elementLinkMany env p es).2) :
    (elementLinkMany env p es).1.links = p.links ++ pairs es := by
  rcases es with _ | ⟨a, _ | ⟨b, rest⟩⟩
  · cases hlinked
  · cases hlinked
  · rw [elementLinkMany] at hlinked ⊢
    split_ifs at hlinked ⊢
    exact linkLoop_all (fun e he ↦ hholds e (List.mem_cons_of_mem a he)) hlinked

theorem requestLink_goesOn {src dst : Elem} {links : Bool}
    (h : requestLink p src dst links = .goesOn p') :
    p' = (if links then p.link src dst else p) ∧ p.holds src ∧ p.holds dst := by
  rw [requestLink] at h
  split at h
  · next hsrc hdst =>
    cases h
    exact ⟨rfl, Pipeline.holds_iff.mpr ⟨_, hsrc⟩, Pipeline.holds_iff.mpr ⟨_, hdst⟩⟩
  all_goals cases h

theorem Knows.of_frame (hk : Knows s par l p)
    (hsame : ∀ e, p'.value e = p.value e ∧ p'.parent e = p.parent e)
    (hbin : p'.udpBin = p.udpBin) : Knows s par l p' where
  holds v hv := by rw [Pipeline.holds, (hsame ⟨s, v⟩).1, ← Pipeline.holds]; exact hk.holds v hv
  inside v hv := (hsame ⟨s, v⟩).2.trans (hk.inside v hv)
  outside v hv := (hsame ⟨s, v⟩).2.trans (hk.outside v hv)
  bin h := hbin.trans (hk.bin h)

theorem Call.exec_ready (hk : Knows s par l p) (hready : c.ready par l)
    (hsrc : ∀ src ∈ c.source?, p.parent src = some .pipeline)
    (h : c.exec env s p = .goesOn p') :
    Knows s par (c.next env l) p' ∧ p'.links = p.links ++ c.granted env s := by
  have hrequest : ∀ {src dst : Elem} {b : Bool}, requestLink p src dst b = .goesOn p' →
      Knows s par l p' := by
    intro src dst b hreq
    have hframe := fun e ↦ requestLink_frame e (mem_of_goesOn hreq)
    exact hk.of_frame (fun e ↦ ⟨(hframe e).1, (hframe e).2.1⟩) (hframe src).2.2
  cases c with
  | factoryMake v f =>
    cases h
    refine ⟨?_, (List.append_nil _).symm⟩
    have hv : v ∉ l.made := of_decide_eq_true hready
    have hold : ∀ w ∈ l.made, ∀ x, (p.set ⟨s, v⟩ x).holds ⟨s, w⟩ := by
      intro w hw x
      have hne : (⟨s, w⟩ : Elem) ≠ ⟨s, v⟩ := fun heq ↦ hv (by cases heq; exact hw)
      rw [Pipeline.holds, Pipeline.value_set, if_neg hne]
      exact hk.holds w hw
    rw [next]
    split_ifs with hf
    · refine ⟨fun w hw ↦ ?_, hk.inside, hk.outside, hk.bin⟩
      rcases List.mem_cons.mp hw with rfl | hw
      · simp [Pipeline.holds]
      · exact hold w hw _
    · exact ⟨fun w hw ↦ hold w hw _, hk.inside, hk.outside, hk.bin⟩
  | setNull v =>
    cases h
    refine ⟨⟨fun w hw ↦ ?_, hk.inside, hk.outside, hk.bin⟩, (List.append_nil _).symm⟩
    have hv : v ∉ l.made := of_decide_eq_true hready
    have hne : (⟨s, w⟩ : Elem) ≠ ⟨s, v⟩ := fun heq ↦ hv (by cases heq; exact hw)
    rw [Pipeline.holds, Pipeline.value_set, if_neg hne]
    exact hk.holds w hw
  | require vs =>
    rw [exec] at h
    split_ifs at h
    cases h
    exact ⟨hk, (List.append_nil _).symm⟩
  | assertNonnull | getVideoDriverName =>
    rw [exec] at h
    split_ifs at h
    cases h
    exact ⟨hk, (List.append_nil _).symm⟩
  | binAddMany par' vs =>
    obtain ⟨hpar, hvs⟩ := (Bool.and_eq_true _ _).mp hready
    cases of_decide_eq_true hpar
    cases h
    have hmade : ∀ v ∈ vs, v ∈ l.made := fun v hv ↦ of_decide_eq_true (List.all_eq_true.mp hvs v hv)
    have hall : (vs.map (⟨s, ·⟩ : Var → Elem)).takeWhile p.holds = vs.map (⟨s, ·⟩) := by
      rw [List.takeWhile_eq_self_iff]
      intro e he
      obtain ⟨v, hv, rfl⟩ := List.mem_map.mp he
      exact hk.holds v (hmade v hv)
    have hmem : ∀ v, (⟨s, v⟩ : Elem) ∈ vs.map (⟨s, ·⟩ : Var → Elem) ↔ v ∈ vs := by simp
    refine ⟨⟨hk.holds, fun v hv ↦ ?_, fun v hv ↦ ?_, hk.bin⟩, (List.append_nil _).symm⟩
    · rw [hall, Pipeline.parent_add]
      by_cases hin : v ∈ l.added
      · rw [hk.inside v hin, Option.some_or]
      · have hv' : v ∈ vs := (List.mem_append.mp hv).resolve_right hin
        rw [hk.outside v hin, Option.none_or, if_pos ((hmem v).mpr hv')]
    · have hv' := not_or.mp fun h ↦ hv (List.mem_append.mpr h)
      rw [hall, Pipeline.parent_add, hk.outside v hv'.2, Option.none_or,
        if_neg fun h ↦ hv'.1 ((hmem v).mp h)]
  | binAddBin =>
    cases h
    exact ⟨⟨hk.holds, hk.inside, hk.outside, fun _ ↦ rfl⟩, (List.append_nil _).symm⟩
  | linkMany vs fatal =>
    rw [exec] at h
    split at h
    · cases h
    · have hframe := fun e ↦ elementLinkMany_frame env p (vs.map (⟨s, ·⟩)) e
      have hmade : ∀ v ∈ vs, v ∈ l.made :=
        fun v hv ↦ of_decide_eq_true (List.all_eq_true.mp hready v hv)
      have hholds : ∀ e ∈ vs.map (⟨s, ·⟩ : Var → Elem), p.holds e := by
        intro e he
        obtain ⟨v, hv, rfl⟩ := List.mem_map.mp he
        exact hk.holds v (hmade v hv)
      split at h
      · next q heq =>
        cases h
        have hlinks := elementLinkMany_all hholds (by rw [heq])
        rw [heq] at hframe hlinks
        exact ⟨hk.of_frame (fun e ↦ ⟨(hframe e).1, (hframe e).2.1⟩) (hframe ⟨s, .source⟩).2.2,
          hlinks⟩
      · split at h <;> cases h
  | linkRequestSrcPad src dst =>
    refine ⟨hrequest h, ?_⟩
    obtain ⟨rfl, -, -⟩ := requestLink_goesOn h
    obtain ⟨hpar, hdst⟩ := (Bool.and_eq_true _ _).mp hready
    have hparent : p.parent ⟨s, dst⟩ = some .pipeline := by
      rw [hk.inside dst (of_decide_eq_true hdst), of_decide_eq_true hpar]
    rw [Pipeline.linkable, hsrc src rfl, hparent, decide_eq_true rfl, Bool.true_and, granted]
    split_ifs
    · rfl
    · exact (List.append_nil _).symm
  | linkRequestSrcPadWithDstName src dst =>
    refine ⟨hrequest h, ?_⟩
    obtain ⟨rfl, -, -⟩ := requestLink_goesOn h
    obtain ⟨-, hbin⟩ := (Bool.and_eq_true _ _).mp hready
    rw [hsrc src rfl, hk.bin hbin, decide_eq_true rfl, Bool.true_and, Bool.true_and, granted]
    split_ifs
    · rfl
    · exact (List.append_nil _).symm

/-- **A function that has everything.** It links all it asks for, except for pads that do not go
together. -/
theorem runCalls_ready (hk : Knows s par l p) (hready : ready env par l cs)
    (hsrc : ∀ c ∈ cs, ∀ src ∈ c.source?, src.stage ≠ s ∧ p.parent src = some .pipeline)
    (h : runCalls env s cs p = .goesOn p') :
    Knows s par (cs.foldl (Call.next env) l) p' ∧
      p'.links = p.links ++ cs.flatMap (Call.granted env s) := by
  induction cs generalizing p l with
  | nil =>
    cases h
    exact ⟨hk, (List.append_nil _).symm⟩
  | cons c cs ih =>
    obtain ⟨hc, hcs⟩ := (Bool.and_eq_true _ _).mp hready
    rw [runCalls] at h
    split at h
    · next q hexec =>
      obtain ⟨hkq, hlinks⟩ := Call.exec_ready hk hc
        (fun src hs ↦ (hsrc c List.mem_cons_self src hs).2) hexec
      have hsrcq : ∀ c ∈ cs, ∀ src ∈ c.source?,
          src.stage ≠ s ∧ q.parent src = some .pipeline := by
        intro d hd src hs
        obtain ⟨hstage, hparent⟩ := hsrc d (List.mem_cons_of_mem c hd) src hs
        exact ⟨hstage, (Call.exec_parent (mem_of_goesOn hexec) hstage).trans hparent⟩
      obtain ⟨hkp, hlinks'⟩ := ih hkq hcs hsrcq h
      exact ⟨hkp, by rw [hlinks', hlinks, List.flatMap_cons, List.append_assoc]⟩
    · next hnot => exact absurd h (hnot p')

theorem mem_added (cs : List Call) {v : Var} : ∀ {l : Locals},
    (v ∈ l.added ∨ ∃ par vs, Call.binAddMany par vs ∈ cs ∧ v ∈ vs) →
      v ∈ (cs.foldl (Call.next env) l).added := by
  induction cs with
  | nil => simp
  | cons c cs ih =>
    rintro l (hv | ⟨par, vs, hc, hv⟩)
    · refine ih (.inl ?_)
      cases c with
      | factoryMake w f =>
        rw [Call.next]
        split_ifs <;> exact hv
      | binAddMany par vs => exact List.mem_append_right _ hv
      | _ => exact hv
    · rcases List.mem_cons.mp hc with rfl | hc
      · exact ih (.inl (List.mem_append_left _ hv))
      · exact ih (.inr ⟨par, vs, hc, hv⟩)

/-- The call may leave the function when nothing is missing. -/
def Call.quits : Call → Bool
  | linkMany _ fatal => !fatal
  | _ => false

theorem runCalls_stays (hk : Knows s par l p) (hready : ready env par l cs)
    (hsrc : ∀ c ∈ cs, ∀ src ∈ c.source?, src.stage ≠ s ∧ p.parent src = some .pipeline)
    (hquits : ∀ c ∈ cs, c.quits = false) (h : p' ∈ (runCalls env s cs p).pipeline?) :
    runCalls env s cs p = .goesOn p' := by
  induction cs generalizing p l with
  | nil =>
    cases h
    rfl
  | cons c cs ih =>
    obtain ⟨hc, hcs⟩ := (Bool.and_eq_true _ _).mp hready
    rw [runCalls] at h ⊢
    rcases hexec : c.exec env s p with q | q | f
    · rw [hexec] at h
      obtain ⟨hkq, -⟩ := Call.exec_ready hk hc
        (fun src hs ↦ (hsrc c List.mem_cons_self src hs).2) hexec
      refine ih hkq hcs (fun d hd src hs ↦ ?_)
        (fun d hd ↦ hquits d (List.mem_cons_of_mem c hd)) h
      obtain ⟨hstage, hparent⟩ := hsrc d (List.mem_cons_of_mem c hd) src hs
      exact ⟨hstage, (Call.exec_parent (mem_of_goesOn hexec) hstage).trans hparent⟩
    · exfalso
      cases c with
      | require vs =>
        rw [Call.exec] at hexec
        split_ifs at hexec with hall
        refine hall (List.all_eq_true.mpr fun v hv ↦ hk.holds v ?_)
        exact of_decide_eq_true (List.all_eq_true.mp hc v hv)
      | linkMany vs fatal =>
        have hfatal : fatal = true := by simpa [Call.quits] using hquits _ List.mem_cons_self
        rw [Call.exec] at hexec
        split at hexec
        · cases hexec
        · split at hexec
          · cases hexec
          · cases hexec
      | assertNonnull | getVideoDriverName =>
        rw [Call.exec] at hexec
        split_ifs at hexec
      | factoryMake | setNull | binAddMany | binAddBin => cases hexec
      | linkRequestSrcPad | linkRequestSrcPadWithDstName =>
        rw [Call.exec, requestLink] at hexec
        split at hexec <;> cases hexec
    · rw [hexec] at h
      cases h

end Ready

/-! ## What is installed -/

/-- What the function makes the variable from is installed. -/
def Installed (env : GstEnv) (cs : List Call) (v : Var) : Prop :=
  ∃ f, Call.factoryMake v f ∈ cs ∧ env.installed f

/-- The variables that must hold an element for the function to go on. -/
def Call.required : Call → List Var
  | require vs => vs
  | assertNonnull v => [v]
  | _ => []

section Installed

variable {env : GstEnv} {s : Stage} {p p' : Pipeline} {c : Call} {cs cs₀ : List Call}

theorem linkLoop_new {es : List Elem} : ∀ {p : Pipeline} {a : Elem}, p.holds a →
    ∀ l ∈ (linkLoop env p a es).1.links,
      l ∈ p.links ∨ env.accepts l.1 l.2 ∧ p.holds l.1 ∧ p.holds l.2 := by
  induction es with
  | nil => exact fun _ l hl ↦ .inl hl
  | cons b rest ih =>
    intro p a ha l hl
    rw [linkLoop] at hl
    split_ifs at hl with hb hlink
    · rcases ih (p := p.link a b) (a := b) hb l hl with hl | hl
      · rcases List.mem_append.mp hl with hl | hl
        · exact .inl hl
        · cases List.mem_singleton.mp hl
          exact .inr ⟨((Bool.and_eq_true _ _).mp hlink).2, ha, hb⟩
      · exact .inr hl
    · exact .inl hl
    · exact .inl hl

theorem Call.exec_new (h : p' ∈ (c.exec env s p).pipeline?) :
    ∀ l ∈ p'.links, l ∈ p.links ∨ env.accepts l.1 l.2 ∧ p.holds l.1 ∧ p.holds l.2 := by
  intro l hl
  have hrequest : ∀ {src dst : Elem} {b : Bool}, (b → env.accepts src dst) →
      p' ∈ (requestLink p src dst b).pipeline? →
      l ∈ p.links ∨ env.accepts l.1 l.2 ∧ p.holds l.1 ∧ p.holds l.2 := by
    intro src dst b hb hreq
    rcases hout : requestLink p src dst b with q | q | f
    · rw [hout] at hreq
      cases hreq
      obtain ⟨rfl, hsrc, hdst⟩ := requestLink_goesOn hout
      split_ifs at hl with hlinks
      · rcases List.mem_append.mp hl with hl | hl
        · exact .inl hl
        · cases List.mem_singleton.mp hl
          exact .inr ⟨hb hlinks, hsrc, hdst⟩
      · exact .inl hl
    · rw [requestLink] at hout
      split at hout <;> cases hout
    · rw [hout] at hreq
      cases hreq
  cases c with
  | factoryMake | setNull | binAddMany | binAddBin =>
    cases h
    exact .inl hl
  | require vs =>
    rw [exec] at h
    split_ifs at h <;> cases h <;> exact .inl hl
  | assertNonnull | getVideoDriverName =>
    rw [exec] at h
    split_ifs at h
    · cases h
      exact .inl hl
    · cases h
  | linkMany vs fatal =>
    have hnew : ∀ l ∈ (elementLinkMany env p (vs.map (⟨s, ·⟩))).1.links,
        l ∈ p.links ∨ env.accepts l.1 l.2 ∧ p.holds l.1 ∧ p.holds l.2 := by
      rcases vs.map (⟨s, ·⟩ : Var → Elem) with _ | ⟨a, _ | ⟨b, rest⟩⟩
      · exact fun l hl ↦ .inl hl
      · exact fun l hl ↦ .inl hl
      · rw [elementLinkMany]
        split_ifs with hab
        · exact linkLoop_new ((Bool.and_eq_true _ _).mp hab).1
        · exact fun l hl ↦ .inl hl
    rw [exec] at h
    split at h
    · cases h
    · split at h
      · next heq =>
        cases h
        rw [heq] at hnew
        exact hnew l hl
      · next heq =>
        rw [heq] at hnew
        split_ifs at h
        · cases h
        · cases h
          exact hnew l hl
  | linkRequestSrcPad src dst => exact hrequest (fun h ↦ ((Bool.and_eq_true _ _).mp h).2) h
  | linkRequestSrcPadWithDstName src dst =>
    exact hrequest (fun h ↦ ((Bool.and_eq_true _ _).mp h).2) h

theorem Call.exec_installed (hc : c ∈ cs₀)
    (hval : ∀ v, p.holds ⟨s, v⟩ → Installed env cs₀ v) (h : p' ∈ (c.exec env s p).pipeline?) :
    ∀ v, p'.holds ⟨s, v⟩ → Installed env cs₀ v := by
  intro v hv
  cases c with
  | factoryMake w f =>
    cases h
    rw [Pipeline.holds, Pipeline.value_set] at hv
    by_cases hvw : (⟨s, v⟩ : Elem) = ⟨s, w⟩
    · cases hvw
      by_cases hf : env.installed f
      · exact ⟨f, hc, hf⟩
      · simp [hf] at hv
    · rw [if_neg hvw] at hv
      exact hval v hv
  | setNull w =>
    cases h
    rw [Pipeline.holds, Pipeline.value_set] at hv
    by_cases hvw : (⟨s, v⟩ : Elem) = ⟨s, w⟩
    · simp [hvw] at hv
    · rw [if_neg hvw] at hv
      exact hval v hv
  | binAddMany | binAddBin =>
    cases h
    exact hval v hv
  | require vs =>
    rw [exec] at h
    split_ifs at h <;> cases h <;> exact hval v hv
  | assertNonnull | getVideoDriverName =>
    rw [exec] at h
    split_ifs at h
    · cases h
      exact hval v hv
    · cases h
  | linkMany vs fatal =>
    have hframe := (elementLinkMany_frame env p (vs.map (⟨s, ·⟩)) ⟨s, v⟩).1
    refine hval v ?_
    rw [exec] at h
    split at h
    · cases h
    · split at h
      · next heq =>
        cases h
        rw [heq] at hframe
        rwa [Pipeline.holds, hframe] at hv
      · next heq =>
        rw [heq] at hframe
        split_ifs at h
        · cases h
        · cases h
          rwa [Pipeline.holds, hframe] at hv
  | linkRequestSrcPad src dst | linkRequestSrcPadWithDstName src dst =>
    refine hval v ?_
    rwa [Pipeline.holds, (requestLink_frame ⟨s, v⟩ h).1] at hv

/-- **What is linked is installed**, and what was required by a function that did not leave. -/
theorem runCalls_installed (hcs : ∀ c ∈ cs, c ∈ cs₀)
    (hval : ∀ v, p.holds ⟨s, v⟩ → Installed env cs₀ v)
    (h : p' ∈ (runCalls env s cs p).pipeline?) :
    (∀ l ∈ p'.links, l ∈ p.links ∨ env.accepts l.1 l.2 ∧
        ∀ v, ⟨s, v⟩ = l.1 ∨ ⟨s, v⟩ = l.2 → Installed env cs₀ v) ∧
      (runCalls env s cs p = .goesOn p' → ∀ c ∈ cs, ∀ v ∈ c.required, Installed env cs₀ v) := by
  induction cs generalizing p with
  | nil =>
    cases h
    exact ⟨fun l hl ↦ .inl hl, fun _ c hc ↦ absurd hc List.not_mem_nil⟩
  | cons c cs ih =>
    have hnew : ∀ q ∈ (c.exec env s p).pipeline?, ∀ l ∈ q.links, l ∈ p.links ∨
        env.accepts l.1 l.2 ∧ ∀ v, ⟨s, v⟩ = l.1 ∨ ⟨s, v⟩ = l.2 → Installed env cs₀ v := by
      intro q hq l hl
      rcases Call.exec_new hq l hl with hl | ⟨haccepts, h₁, h₂⟩
      · exact .inl hl
      · refine .inr ⟨haccepts, fun v hv ↦ hval v ?_⟩
        rcases hv with hv | hv
        · exact hv ▸ h₁
        · exact hv ▸ h₂
    rw [runCalls] at h ⊢
    split at h
    · next q hexec =>
      have hq : q ∈ (c.exec env s p).pipeline? := by rw [hexec]; rfl
      have hvalq := Call.exec_installed (hcs c List.mem_cons_self) hval hq
      obtain ⟨hlinks, hrequired⟩ := ih (fun d hd ↦ hcs d (List.mem_cons_of_mem c hd)) hvalq h
      refine ⟨fun l hl ↦ ?_, fun hgoes d hd v hv ↦ ?_⟩
      · rcases hlinks l hl with hl | hl
        · exact hnew q hq l hl
        · exact .inr hl
      · rcases List.mem_cons.mp hd with rfl | hd
        · -- the variable held an element when it was checked
          refine hval v ?_
          cases d with
          | require vs =>
            rw [Call.exec] at hexec
            split_ifs at hexec with hall
            exact List.all_eq_true.mp hall v hv
          | assertNonnull w =>
            rw [Call.exec] at hexec
            split_ifs at hexec with hw
            cases List.mem_singleton.mp hv
            exact hw
          | factoryMake | setNull | binAddMany | binAddBin | linkMany | linkRequestSrcPad
          | linkRequestSrcPadWithDstName | getVideoDriverName => exact absurd hv List.not_mem_nil
        · exact hrequired hgoes d hd v hv
    · next hnot => exact ⟨hnew p' h, fun hgoes ↦ absurd hgoes (hnot p')⟩

/-- If every variable gets its value once, and what it is made from is installed, then nothing is
missing. -/
theorem complete_of_installed (hcs : ∀ c ∈ cs, c ∈ cs₀) (hnodup : (cs₀.filterMap Call.var?).Nodup)
    (h : ∀ v ∈ cs.filterMap Call.var?, Installed env cs₀ v) : complete env cs := by
  rw [complete, List.all_eq_true]
  intro c hc
  have huniq : ∀ d ∈ cs₀, ∀ v, c.var? = some v → d.var? = some v → c = d := by
    intro d hd v hcv hdv
    by_contra hne
    have hsymm : Std.Symm fun a b : Call ↦ ∀ x ∈ a.var?, ∀ y ∈ b.var?, x ≠ y :=
      ⟨fun a b hab x hx y hy ↦ (hab y hy x hx).symm⟩
    exact (List.pairwise_filterMap.mp hnodup).forall (hcs c hc) hd hne v hcv v hdv rfl
  cases hv : c.var? with
  | none =>
    cases c with
    | factoryMake v f => cases hv
    | setNull v => cases hv
    | _ => rfl
  | some v =>
    obtain ⟨f, hf, hinst⟩ := h v (List.mem_filterMap.mpr ⟨c, hc, hv⟩)
    rw [huniq _ hf v hv rfl]
    exact hinst

end Installed

end GstWebrtcCamera

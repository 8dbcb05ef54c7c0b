import GstWebrtcCamera.Core.Ownership
import GstWebrtcCamera.Server.Step

/-!
# One recording at a time

`cmd_recording` is a flag shared by all connections, and `record.pipeline` is what each of them has.
Seen from there the server is an `Ownership.Claim`: a start that is not refused is a take, which
succeeds when the launch does; a `record` stop is a drop, whoever sends it; and a close drops only
what the connection has. `claim_step` is that simulation, and the rest is read off the library.
-/

namespace GstWebrtcCamera

open Ownership

namespace Server

variable {env : Env} {s : Server}

/-- The connection has a recording pipeline. -/
def records (s : Server) (c : ℕ) : Bool :=
  match s.table.lookup c with
  | none => false
  | some it => it.record.pipeline.isSome

/-- The server as far as exclusion goes. -/
def claim (s : Server) : Claim ℕ := { flag := s.globals.cmdRecording, owns := s.records }

/-- What an event does to the claim. -/
inductive ClaimOp
  | quiet
  | take (c : ℕ) (ok : Bool)
  | drop (c : ℕ)

/-- What a command means for the recording, by the flag it finds. -/
def commandClaimOp (flag : Bool) (c : ℕ) (launched : Bool) : Command → ClaimOp
  | .recordStart => if flag then .quiet else .take c launched
  | .recordStop => .drop c
  | _ => .quiet

/-- What an event means for the recording. -/
def claimOp (s : Server) : Event → ClaimOp
  | .message c msg launched =>
    if s.aborted = none ∧ c ∈ s.table then
      commandClaimOp s.globals.cmdRecording c launched (commandOf msg)
    else .quiet
  | .close c => if s.aborted = none ∧ s.records c = true then .drop c else .quiet
  | _ => .quiet

def ClaimOp.apply (st : Claim ℕ) : ClaimOp → Claim ℕ
  | quiet => st
  | take c ok => st.take c ok
  | drop c => st.drop c

/-! ## The simulation -/

theorem records_of_lookup {c : ℕ} {it : WebrtcItem} (hit : s.table.lookup c = some it) :
    s.records c = it.record.pipeline.isSome := by
  rw [records, hit]

theorem records_eq (s : Server) :
    s.records = fun c ↦ (s.table.lookup c).elim false (·.record.pipeline.isSome) := by
  funext c
  rw [records]
  cases s.table.lookup c <;> rfl

theorem records_withItem (s : Server) (c : ℕ) (g : Globals) (it : WebrtcItem) :
    (s.withItem c g it).records = Function.update s.records c it.record.pipeline.isSome := by
  rw [records_eq, records_eq]
  exact AList.comp_lookup_insert s.table c it (Option.elim · false (·.record.pipeline.isSome))

theorem claim_withItem_of_eq {c : ℕ} {it it' : WebrtcItem} {g : Globals}
    (hit : s.table.lookup c = some it) (hrec : it'.record.pipeline = it.record.pipeline)
    (hflag : g.cmdRecording = s.globals.cmdRecording) : (s.withItem c g it').claim = s.claim := by
  have hupdate : Function.update s.records c it.record.pipeline.isSome = s.records := by
    rw [← records_of_lookup hit, Function.update_eq_self]
  rw [claim, records_withItem, hrec, hupdate, claim]
  exact congrArg (Claim.mk · s.records) hflag

theorem claim_of_eq {s' : Server} (hflag : s'.globals.cmdRecording = s.globals.cmdRecording)
    (htable : s'.table = s.table) : s'.claim = s.claim := by
  have hrec : s'.records = s.records := by
    funext c
    rw [records, htable, records]
  rw [claim, claim, hflag, hrec]

theorem claim_erase (s : Server) (c : ℕ) (g : Globals) :
    ({ s with globals := g, table := s.table.erase c } : Server).claim
      = { flag := g.cmdRecording, owns := Function.update s.records c false } := by
  rw [claim]
  congr 1
  rw [records_eq, records_eq]
  exact AList.comp_lookup_erase s.table c (Option.elim · false (·.record.pipeline.isSome))

theorem claim_performed {c : ℕ} {it : WebrtcItem} {launched : Bool} {cmd : Command}
    {r : Globals × WebrtcItem} (hit : s.table.lookup c = some it)
    (hr : Performed env s.globals it launched cmd r) :
    (s.withItem c r.1 r.2).claim
      = (commandClaimOp s.globals.cmdRecording c launched cmd).apply s.claim := by
  cases hr with
  | started hrec =>
    obtain ⟨pair, heq⟩ := startRecording_eq env s.globals it launched
    rw [heq, hrec, claim, records_withItem]
    cases launched <;> rfl
  | stopped =>
    rw [stopRecording_eq, claim, records_withItem]
    rfl
  | refused hrec =>
    rw [hrec]
    exact claim_withItem_of_eq hit rfl rfl
  | _ => exact claim_withItem_of_eq hit rfl rfl

theorem mem_of_records {c : ℕ} (h : s.records c = true) : c ∈ s.table := by
  rw [records] at h
  split at h
  · contradiction
  · next it hit => exact AList.lookup_isSome.mp (by rw [hit]; rfl)

theorem claimOp_of_not_enabled {e : Event} (he : ¬ s.Enabled e) : s.claimOp e = .quiet := by
  cases e with
  | message c msg launched => exact if_neg he
  | close c => exact if_neg fun h ↦ he ⟨h.1, mem_of_records h.2⟩
  | _ => rfl

theorem commandClaimOp_of_aborting {cmd : Command} (hcmd : Aborting env cmd) (flag : Bool) (c : ℕ)
    (launched : Bool) : commandClaimOp flag c launched cmd = .quiet := by
  cases cmd with
  | recordStart => exact hcmd.elim
  | recordStop => exact hcmd.elim
  | _ => rfl

/-- **Exclusion is a claim.** Every event of the server is the claim operation it stands for. -/
theorem claim_step (hs : s.Wired env) (e : Event) :
    (s.step env e).claim = (s.claimOp e).apply s.claim := by
  have hstep := hs.stepped e
  obtain ⟨s', hs'⟩ : ∃ s', s' = s.step env e := ⟨_, rfl⟩
  rw [← hs'] at hstep ⊢
  cases hstep with
  | stuck he => rw [claimOp_of_not_enabled he, ClaimOp.apply]
  | @opened hashId launched it hlive hit =>
    have hnew : s.records s.nextConn = false := by
      rw [records, AList.lookup_eq_none.mpr fun h ↦ lt_irrefl _ (hs.fresh _ h)]
    have hopen := records_withItem s s.nextConn s.globals it
    rw [hit.pipeline, Option.isSome_none, ← hnew, Function.update_eq_self] at hopen
    exact congrArg (Claim.mk s.globals.cmdRecording) hopen
  | @performed c msg launched it r hlive hit hr hcmd =>
    have hc : c ∈ s.table := AList.lookup_isSome.mp (by rw [hit]; rfl)
    rw [claim_performed hit hr, claimOp, if_pos ⟨hlive, hc⟩]
  | @aborted c msg launched it a hlive hit hcmd =>
    have hquiet : s.claimOp (.message c msg launched) = .quiet := by
      rw [claimOp]
      split_ifs
      · exact commandClaimOp_of_aborting hcmd _ c launched
      · rfl
    rw [hquiet]
    rfl
  | headed hlive hit hcmd => exact claim_withItem_of_eq hit rfl rfl
  | controlled hlive hit hcmd log => exact claim_withItem_of_eq hit rfl rfl
  | received hlive hit hjobs => exact claim_withItem_of_eq hit rfl rfl
  | negotiated hlive hit => exact claim_withItem_of_eq hit rfl rfl
  | fired hlive hcb =>
    rw [Server.fire, if_pos hcb]
    exact claim_of_eq rfl rfl
  | @closed c it hlive hit =>
    rw [claim_erase, claimOp]
    by_cases hrec : s.records c = true
    · rw [if_pos ⟨hlive, hrec⟩]
      rw [records_of_lookup hit] at hrec
      simp only [closedGlobals, closeRecv, hrec, if_true]
      rfl
    · rw [if_neg fun h ↦ hrec h.2]
      have hfalse : s.records c = false := Bool.not_eq_true _ ▸ hrec
      rw [← hfalse, Function.update_eq_self]
      rw [records_of_lookup hit] at hrec
      simp only [closedGlobals, closeRecv, if_neg hrec]
      rfl
  | watched hlive hb =>
    refine claim_of_eq ?_ rfl
    rw [withGlobals, inotifyEvent]
    split_ifs <;> rfl
  | motionLaunched hlive hr =>
    refine claim_of_eq ?_ rfl
    rw [withGlobals, startAppsrcRecord, if_pos hr]
  | motionAppended hlive hr =>
    refine claim_of_eq ?_ rfl
    rw [withGlobals, appendAppsrcRecord, if_pos hr]
    rfl
  | motionStopped hlive hr =>
    refine claim_of_eq ?_ rfl
    rw [withGlobals, stopAppsrcRec, if_pos hr]
    rfl
  | _ => exact claim_of_eq rfl rfl

/-! ## When exclusion is kept -/

/-- The launch of a start that is not refused succeeds, and a stop comes from the connection that
records, if one does. -/
def RecordsOwn (s : Server) : Event → Prop
  | .message c msg launched =>
    s.aborted = none → c ∈ s.table →
      match commandOf msg with
      | .recordStart => s.globals.cmdRecording = false → launched = true
      | .recordStop => ∀ c', s.records c' = true → c' = c
      | _ => True
  | _ => True

/-- One step keeps the agreement exactly when it meets the condition. -/
theorem exclusive_apply_iff (h : Exclusive s.claim) (e : Event) :
    Exclusive ((s.claimOp e).apply s.claim) ↔ s.RecordsOwn e := by
  cases e with
  | message c msg launched =>
    rw [claimOp, RecordsOwn]
    by_cases hen : s.aborted = none ∧ c ∈ s.table
    · rw [if_pos hen]
      simp only [hen.1, hen.2, forall_const]
      cases commandOf msg with
      | recordStart =>
        cases hflag : s.globals.cmdRecording with
        | true => simpa [commandClaimOp, ClaimOp.apply] using h
        | false =>
          simp only [commandClaimOp, Bool.false_eq_true, if_false, ClaimOp.apply, forall_const]
          exact exclusive_take_iff h hflag launched
      | recordStop => exact exclusive_drop_iff
      | _ => exact iff_of_true h trivial
    · rw [if_neg hen]
      exact iff_of_true h fun hlive hc ↦ absurd ⟨hlive, hc⟩ hen
  | close c =>
    refine iff_of_true ?_ trivial
    rw [claimOp]
    split_ifs with hrec
    · exact h.drop hrec.2
    · exact h
  | _ => exact iff_of_true h trivial

/-- **One recording at a time.** In a run the flag and the recordings agree throughout exactly when
every accepted start launches and every stop comes from the connection that records. -/
theorem always_exclusive_iff (env : Env) (es : List Event) :
    Run.Always (step env) (fun s ↦ Exclusive s.claim) init es
      ↔ Run.Meets (step env) RecordsOwn init es := by
  have hinit : Exclusive init.claim := by
    have hrec : init.records = fun _ ↦ false := rfl
    rw [claim, hrec]
    exact exclusive_none
  refine Run.always_iff_meets (I := fun s ↦ s.Wired env ∧ Exclusive s.claim)
    ⟨wired_init env, hinit⟩ (fun s hs ↦ hs.2) ?_ ?_
  · rintro s e ⟨hs, h⟩ hC
    refine ⟨hs.step e, ?_⟩
    rw [claim_step hs]
    exact (exclusive_apply_iff h e).mpr hC
  · rintro s e ⟨hs, h⟩ hP
    rw [claim_step hs] at hP
    exact (exclusive_apply_iff h e).mp hP

/-- A stop from the second connection lowers the flag under the first one's recording. -/
theorem exists_not_exclusive :
    ∃ s ∈ Run.reachable (step (Env.plain .udpsrc)) init, ¬ Exclusive s.claim := by
  refine ⟨_, ⟨[.connect 1 true, .connect 2 true, .message 0 (pageCommand "record" "start") true,
    .message 1 (pageCommand "record" "stop") true], rfl⟩, fun h ↦ ?_⟩
  exact Bool.false_ne_true (h.flag_iff.mpr ⟨0, by decide +kernel⟩)

/-- While the two agree, a start is refused exactly when some connection records. -/
theorem refused_iff (h : Exclusive s.claim) :
    getRecordState s.globals = true ↔ ∃ c, s.records c = true := h.flag_iff

end Server

end GstWebrtcCamera

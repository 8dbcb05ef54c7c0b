import GstWebrtcCamera.V4l2.Reset
import Mathlib.Data.List.Induction
import Mathlib.Data.List.TakeWhile
import Mathlib.Logic.Basic

/-!
# What the control functions return

`reset_user_ctrls` means to ignore a control that cannot be read because it is unsupported, and one
whose default is refused with `ERANGE`. It goes on after both. But `ret` keeps what the last control
left there, and behind the loop `errno` is what the last failed call left there, whether or not that
call was `VIDIOC_QUERYCTRL`. `set_ctrl_value` computes a result and returns 0.

The loop is read off as a pass over the list of the controls, up to the first that stops it.
-/

namespace GstWebrtcCamera

open V4l2

/-! ## The calls of a run -/

namespace Reset

/-- The controls `loop` asks the driver about. -/
def asked (dev : Device) : ℕ → Reset → ℕ → Bool → List Control
  | 0, _, _, _ => []
  | fuel + 1, r, id, next =>
    match dev.queryCtrl id next with
    | none => []
    | some c =>
      if id2Class c.id ≠ classUser then []
      else if c.disabled then asked dev fuel r c.id false
      else if c.id < cidBase then asked dev fuel r c.id true
      else
        c :: if (r.writeDefault c).2 then asked dev fuel (r.writeDefault c).1 c.id true else []

end Reset

/-- The controls `reset_user_ctrls` asks the driver about. -/
def resetAsked (dev : Option Device) (fuel errno : ℕ) : List Control :=
  match dev with
  | none => []
  | some dev => Reset.asked dev fuel { errno := errno } classUser true

/-- What `open` gives. -/
def Device.opened (dev : Device) (opens : Bool) : Option Device := if opens then some dev else none

/-- A control to reset: enabled, readable, of the user class, from `V4L2_CID_BASE` on. -/
def Control.Wanted (c : Control) : Prop :=
  id2Class c.id = classUser ∧ c.disabled = false ∧ cidBase ≤ c.id ∧ c.getErrno = none

/-- Every control to reset was written, or refused with `ERANGE`. -/
def Device.AllSettled (dev : Device) (asked : List Control) (r : Reset) : Prop :=
  ∀ c ∈ dev.controls, c.Wanted →
    (c.id, c.defaultValue) ∈ r.written ∨ c ∈ asked ∧ c.setErrno = some erange

/-- `ioctl(fd, VIDIOC_G_CTRL, ..)`: the `errno` if it fails. -/
def Device.gCtrl (dev : Device) (id : ℕ) : Option ℕ :=
  match dev.controls.find? (·.id = id) with
  | none => some einval
  | some c => c.getErrno

/-- `ioctl(fd, VIDIOC_S_CTRL, ..)`: the `errno` if it fails. -/
def Device.sCtrl (dev : Device) (id : ℕ) : Option ℕ :=
  match dev.controls.find? (·.id = id) with
  | none => some einval
  | some c => c.setErrno

/-- What `set_ctrl_value` returns, and its calls of `VIDIOC_S_CTRL`. -/
structure SetCtrl where
  ret : ℤ
  /-- Id, value and `errno`. -/
  calls : List (ℕ × ℤ × Option ℕ) := []
  deriving DecidableEq, Repr

/-- The id as `control.id` takes it. -/
def ctrlIdArg (ctrlId : ℤ) : ℕ := (UInt32.ofInt ctrlId).toNat

/-- `set_ctrl_value`. -/
def setCtrlValue (dev : Option Device) (ctrlId ctrlVal : ℤ) : SetCtrl :=
  match dev with
  | none => { ret := -1 }
  | some dev =>
    let id := ctrlIdArg ctrlId
    -- `ret` is set on every path, but 0 is returned
    match dev.gCtrl id with
    | none => { ret := 0, calls := [(id, ctrlVal, dev.sCtrl id)] }
    | some _ => { ret := 0 }

/-- The control was written, or refused with `ERANGE`. -/
def SetCtrl.Settled (s : SetCtrl) (id : ℕ) (val : ℤ) : Prop :=
  (id, val, none) ∈ s.calls ∨ (id, val, some erange) ∈ s.calls

/-! ## The pass over the list -/

/-- The `errno` of the first call on the control that fails. -/
def Control.failure (c : Control) : Option ℕ := c.getErrno.or c.setErrno

/-- `Control.Stops`, computed. -/
def Control.stops (c : Control) : Bool :=
  id2Class c.id != classUser || !c.disabled && decide (cidBase ≤ c.id) &&
    match c.getErrno with
    | some e => e != einval
    | none => c.setErrno.any (· != erange)

theorem Control.stops_iff (c : Control) : c.stops = true ↔ c.Stops := by
  rw [stops, Stops, Refused]
  rcases c.getErrno with _ | e <;> rcases c.setErrno with _ | e' <;> simp [and_assoc]

/-- The controls the loop asks about and gets past. -/
def passed (l : List Control) : List Control :=
  (l.takeWhile fun c ↦ !c.stops).filter (cidBase ≤ ·.id)

/-- The controls from the first that stops the loop. -/
def left (l : List Control) : List Control := l.dropWhile fun c ↦ !c.stops

theorem passed_cons_of_stops {c : Control} (hc : c.Stops) (l : List Control) :
    passed (c :: l) = [] := by
  rw [passed, List.takeWhile_cons_of_neg (by simp [c.stops_iff.mpr hc]), List.filter_nil]

theorem left_cons_of_stops {c : Control} (hc : c.Stops) (l : List Control) :
    left (c :: l) = c :: l := by
  rw [left, List.dropWhile_cons_of_neg (by simp [c.stops_iff.mpr hc])]

theorem passed_cons_of_not_stops {c : Control} (hc : ¬ c.Stops) (l : List Control) :
    passed (c :: l) = if cidBase ≤ c.id then c :: passed l else passed l := by
  have hstops : c.stops = false := by rwa [← Bool.not_eq_true, c.stops_iff]
  rw [passed, List.takeWhile_cons_of_pos (by simp [hstops]), List.filter_cons]
  simp [passed]

theorem left_cons_of_not_stops {c : Control} (hc : ¬ c.Stops) (l : List Control) :
    left (c :: l) = left l := by
  have hstops : c.stops = false := by rwa [← Bool.not_eq_true, c.stops_iff]
  rw [left, List.dropWhile_cons_of_pos (by simp [hstops]), ← left]

theorem mem_of_mem_passed {l : List Control} {c : Control} (hc : c ∈ passed l) :
    c ∈ l ∧ cidBase ≤ c.id ∧ ¬ c.Stops := by
  obtain ⟨htake, hbase⟩ := List.mem_filter.mp hc
  have hstops := List.mem_takeWhile_imp htake
  rw [Bool.not_eq_true', ← Bool.not_eq_true, c.stops_iff] at hstops
  exact ⟨List.takeWhile_subset _ htake, of_decide_eq_true hbase, hstops⟩

theorem mem_passed_or_mem_left {l : List Control} {c : Control} (hc : c ∈ l)
    (hbase : cidBase ≤ c.id) : c ∈ passed l ∨ c ∈ left l := by
  rw [← List.takeWhile_append_dropWhile (p := fun c : Control ↦ !c.stops) (l := l),
    List.mem_append] at hc
  exact hc.imp_left fun h ↦ List.mem_filter.mpr ⟨h, decide_eq_true hbase⟩

theorem stops_of_left {l : List Control} {b : Control} {behind : List Control}
    (h : left l = b :: behind) : b.Stops := by
  have hhead : (left l).head? = some b := by rw [h]; rfl
  have hnot := List.head?_dropWhile_not (fun c : Control ↦ !c.stops) l
  rw [← left, hhead] at hnot
  exact b.stops_iff.mp (by simpa using hnot)

namespace Reset

/-- The defaults written one after the other. -/
def writeAll (r : Reset) (l : List Control) : Reset := l.foldl (fun r c ↦ (r.writeDefault c).1) r

theorem writeAll_concat (r : Reset) (l : List Control) (c : Control) :
    r.writeAll (l ++ [c]) = ((r.writeAll l).writeDefault c).1 := by
  rw [writeAll, writeAll, List.foldl_append, List.foldl_cons, List.foldl_nil]

/-- How the loop is left, before these controls. -/
def leave (r : Reset) : List Control → Reset
  | [] => { r with errno := einval }.finish
  | b :: _ => if id2Class b.id ≠ classUser then r.finish else (r.writeDefault b).1

/-- The control that is asked about last, if the loop is left at it. -/
def refusedHead : List Control → List Control
  | [] => []
  | b :: _ => if id2Class b.id ≠ classUser then [] else [b]

section Turn

variable {dev : Device} {c : Control} {id : ℕ} (hquery : dev.queryCtrl id true = some c)
include hquery

theorem asked_of_refused (hclass : id2Class c.id = classUser) (hdisabled : ¬ c.disabled = true)
    (hrefused : c.Refused) (fuel : ℕ) (r : Reset) : asked dev (fuel + 1) r id true = [c] := by
  have hbase : ¬ c.id < cidBase := Nat.not_lt.mpr hrefused.1
  have hleave : (r.writeDefault c).2 = false := by
    simpa [hrefused] using writeDefault_snd r hrefused.1
  simp [asked, hquery, hclass, hdisabled, hbase, hleave]

theorem asked_of_passes (hclass : id2Class c.id = classUser) (hdisabled : ¬ c.disabled = true)
    (hrefused : ¬ c.Refused) (fuel : ℕ) (r : Reset) :
    asked dev (fuel + 1) r id true
      = if cidBase ≤ c.id then c :: asked dev fuel (r.writeDefault c).1 c.id true
        else asked dev fuel r c.id true := by
  by_cases hbase : cidBase ≤ c.id
  · have hagain : (r.writeDefault c).2 = true := (writeDefault_snd r hbase).mpr hrefused
    simp [asked, hquery, hclass, hdisabled, hbase, Nat.not_lt.mpr hbase, hagain]
  · simp [asked, hquery, hclass, hdisabled, hbase, Nat.not_le.mp hbase]

end Turn

/-- **The loop as a pass over the list.** -/
theorem loop_eq {dev : Device} {l : List Control} :
    ∀ {fuel id : ℕ} {r res : Reset}, dev.after id = l → loop dev fuel r id true = some res →
      res = (r.writeAll (passed l)).leave (left l) ∧
        asked dev fuel r id true = passed l ++ refusedHead (left l) := by
  induction l with
  | nil =>
    intro fuel id r res hl hres
    have hquery : dev.queryCtrl id true = none := by rw [Device.queryCtrl_next, hl]; rfl
    obtain _ | fuel := fuel
    · simp [loop] at hres
    simp only [loop, hquery, Option.some.injEq] at hres
    exact ⟨hres.symm, by simp [asked, hquery, passed, left, refusedHead]⟩
  | cons c l ih =>
    intro fuel id r res hl hres
    have hquery : dev.queryCtrl id true = some c := by rw [Device.queryCtrl_next, hl]; rfl
    have hafter : c ∈ dev.after id := hl ▸ List.mem_cons_self
    obtain _ | fuel := fuel
    · simp [loop] at hres
    by_cases hclass : id2Class c.id = classUser
    · by_cases hdisabled : c.disabled = true
      · -- a run that ends does not come here
        rw [loop_of_disabled hquery (List.mem_of_mem_filter hafter) hclass hdisabled] at hres
        contradiction
      · by_cases hrefused : c.Refused
        · have hstops : c.Stops := .inr ⟨hdisabled, hrefused⟩
          rw [loop_of_refused hquery hclass hdisabled hrefused, Option.some.injEq] at hres
          rw [asked_of_refused hquery hclass hdisabled hrefused, passed_cons_of_stops hstops,
            left_cons_of_stops hstops]
          simp [leave, writeAll, refusedHead, hclass, hres]
        · have hstops : ¬ c.Stops := not_or.mpr ⟨not_not.mpr hclass, fun h ↦ hrefused h.2⟩
          rw [loop_of_passes hquery hclass hdisabled hrefused] at hres
          obtain ⟨hval, hasked⟩ := ih (Device.after_of_cons hl) hres
          rw [asked_of_passes hquery hclass hdisabled hrefused, passed_cons_of_not_stops hstops,
            left_cons_of_not_stops hstops]
          by_cases hbase : cidBase ≤ c.id
          · rw [if_pos hbase] at hval hasked ⊢
            rw [if_pos hbase, hasked]
            exact ⟨hval, rfl⟩
          · rw [if_neg hbase] at hval hasked ⊢
            rw [if_neg hbase]
            exact ⟨hval, hasked⟩
    · -- the first control of another class ends the loop
      have hstops : c.Stops := .inl hclass
      rw [loop_of_class hquery hclass, Option.some.injEq] at hres
      rw [passed_cons_of_stops hstops, left_cons_of_stops hstops]
      simp [asked, hquery, hclass, leave, writeAll, refusedHead, hres]

/-! ## What a pass leaves behind -/

theorem writeDefault_ret (r : Reset) (c : Control) :
    (r.writeDefault c).1.ret = 0 ↔ c.failure = none := by
  rw [writeDefault, Control.failure]
  rcases c.getErrno with _ | e <;> rcases c.setErrno with _ | e' <;> simp

theorem writeDefault_errno (r : Reset) (c : Control) :
    (r.writeDefault c).1.errno = c.failure.getD r.errno := by
  rw [writeDefault, Control.failure]
  rcases c.getErrno with _ | e <;> rcases c.setErrno with _ | e' <;> simp

theorem mem_writeDefault (r : Reset) (c : Control) (p : ℕ × ℤ) :
    p ∈ (r.writeDefault c).1.written
      ↔ p ∈ r.written ∨ c.failure = none ∧ p = (c.id, c.defaultValue) := by
  rw [writeDefault, Control.failure]
  rcases c.getErrno with _ | e <;> rcases c.setErrno with _ | e' <;> simp

theorem writeAll_ret {r : Reset} (hr : r.ret = 0) (l : List Control) :
    (r.writeAll l).ret = 0 ↔ ∀ c ∈ l.getLast?, c.failure = none := by
  rcases List.eq_nil_or_concat l with rfl | ⟨l, c, rfl⟩
  · simp [writeAll, hr]
  · rw [List.concat_eq_append, writeAll_concat, writeDefault_ret]
    simp

theorem writeAll_errno (r : Reset) (l : List Control) :
    (r.writeAll l).errno = (l.filterMap Control.failure).getLast?.getD r.errno := by
  induction l using List.reverseRecOn with
  | nil => rfl
  | append_singleton l c ih =>
    rw [writeAll_concat, writeDefault_errno, ih, List.filterMap_append]
    rcases hc : c.failure with _ | e
    · simp [hc]
    · simp [hc]

theorem mem_writeAll (r : Reset) (l : List Control) (p : ℕ × ℤ) :
    p ∈ (r.writeAll l).written
      ↔ p ∈ r.written ∨ ∃ c ∈ l, c.failure = none ∧ p = (c.id, c.defaultValue) := by
  induction l using List.reverseRecOn with
  | nil => simp [writeAll]
  | append_singleton l c ih =>
    rw [writeAll_concat, mem_writeDefault, ih]
    simp only [List.mem_append, List.mem_singleton, or_and_right, exists_or, exists_eq_left,
      or_assoc]

end Reset

theorem Control.Refused.failure_ne_none {c : Control} (h : c.Refused) : c.failure ≠ none := by
  rw [Control.Refused] at h
  rw [Control.failure]
  rcases hget : c.getErrno with _ | e <;> rcases hset : c.setErrno with _ | e' <;>
    simp_all

theorem Control.Stops.refused {c : Control} (h : c.Stops) (hclass : id2Class c.id = classUser) :
    c.Refused :=
  h.elim (absurd hclass) And.right

/-- A control to reset stops the loop only if its default is refused, and not with `ERANGE`. -/
theorem Control.Wanted.setErrno {c : Control} (hwanted : c.Wanted) (hstops : c.Stops) :
    ∃ e, c.setErrno = some e ∧ e ≠ erange := by
  have hrefused := (hstops.refused hwanted.1).2
  rw [hwanted.2.2.2] at hrefused
  rcases hset : c.setErrno with _ | e
  · simp [hset] at hrefused
  · exact ⟨e, rfl, by simpa [hset] using hrefused⟩

theorem Control.Wanted.passes {c : Control} (hwanted : c.Wanted) (hpasses : ¬ c.Stops) :
    c.failure = none ∨ c.setErrno = some erange := by
  obtain ⟨-, hdisabled, hbase, hget⟩ := hwanted
  rw [Control.failure, hget, Option.none_or]
  rcases hset : c.setErrno with _ | e
  · exact .inl rfl
  · refine .inr (congrArg some (not_not.mp fun he ↦ hpasses ?_))
    refine .inr ⟨by simp [hdisabled], hbase, ?_⟩
    simpa [hget, hset] using he

namespace Reset

theorem leave_ret {r : Reset} {l : List Control} (hl : ∀ b ∈ l.head?, b.Stops) :
    (r.leave l).ret = 0
      ↔ r.ret = 0 ∧ ∀ b ∈ l.head?, id2Class b.id ≠ classUser ∧ r.errno = einval := by
  rcases l with _ | ⟨b, behind⟩
  · simp [leave, finish]
  · by_cases hclass : id2Class b.id = classUser
    · simp [leave, hclass, writeDefault_ret, ((hl b rfl).refused hclass).failure_ne_none]
    · by_cases herrno : r.errno = einval <;> simp [leave, finish, hclass, herrno]

theorem leave_written {r : Reset} {l : List Control} (hl : ∀ b ∈ l.head?, b.Stops) (p : ℕ × ℤ) :
    p ∈ (r.leave l).written ↔ p ∈ r.written := by
  rcases l with _ | ⟨b, behind⟩
  · simp [leave, finish]
  · by_cases hclass : id2Class b.id = classUser
    · simp [leave, hclass, mem_writeDefault, ((hl b rfl).refused hclass).failure_ne_none]
    · by_cases herrno : r.errno = einval <;> simp [leave, finish, hclass, herrno]

end Reset

/-! ## The result -/

namespace Device

variable {dev : Device}

/-- A control to reset is among those the loop does not get past. -/
def SomeLeft (dev : Device) : Prop := ∃ c ∈ left (dev.after classUser), c.Wanted

/-- The last control the loop gets past accepts both calls. What stops the loop, if anything does,
is a control of another class, and the last call that failed, if any, left `EINVAL` in `errno`. -/
def EndsWell (dev : Device) (errno : ℕ) : Prop :=
  (∀ c ∈ (passed (dev.after classUser)).getLast?, c.failure = none) ∧
    ∀ b ∈ (left (dev.after classUser)).head?, id2Class b.id ≠ classUser ∧
      ((passed (dev.after classUser)).filterMap Control.failure).getLast?.getD errno = einval

/-- When `reset_user_ctrls` tells whether all is settled. -/
def ResetTells (dev : Device) (opens : Bool) (errno : ℕ) : Prop :=
  if opens then Xor dev.SomeLeft (dev.EndsWell errno) else ∃ c ∈ dev.controls, c.Wanted

/-- When `set_ctrl_value` tells: the device does not open, or it reads the control and takes the
value or refuses it with `ERANGE`. -/
def SetTells (dev : Device) (opens : Bool) (id : ℕ) : Prop :=
  opens = true → dev.gCtrl id = none ∧ (dev.sCtrl id = none ∨ dev.sCtrl id = some erange)

theorem stops_of_mem_head? {l : List Control} : ∀ b ∈ (left l).head?, b.Stops := by
  intro b hb
  obtain ⟨behind, hleft⟩ := List.head?_eq_some_iff.mp hb
  exact stops_of_left hleft

theorem ret_iff {fuel errno : ℕ} {r : Reset}
    (h : Reset.loop dev fuel { errno := errno } classUser true = some r) :
    r.ret = 0 ↔ dev.EndsWell errno := by
  rw [(Reset.loop_eq rfl h).1, Reset.leave_ret stops_of_mem_head?, Reset.writeAll_ret rfl,
    Reset.writeAll_errno, EndsWell]

theorem lt_of_mem_passed {l : List Control} (hl : l.Pairwise fun c d ↦ c.id < d.id)
    {c d : Control} (hc : c ∈ passed l) (hd : d ∈ left l) : c.id < d.id := by
  rw [← List.takeWhile_append_dropWhile (p := fun c : Control ↦ !c.stops) (l := l),
    List.pairwise_append] at hl
  exact hl.2.2 c (List.mem_of_mem_filter hc) d hd

theorem not_settled_of_left {fuel errno : ℕ} {r : Reset}
    (h : Reset.loop dev fuel { errno := errno } classUser true = some r) {c : Control}
    (hc : c ∈ left (dev.after classUser)) (hwanted : c.Wanted) :
    ¬ ((c.id, c.defaultValue) ∈ r.written ∨
      c ∈ resetAsked (some dev) fuel errno ∧ c.setErrno = some erange) := by
  obtain ⟨hr, hasked⟩ := Reset.loop_eq rfl h
  have hsorted : (dev.after classUser).Pairwise fun c d ↦ c.id < d.id := dev.sorted.filter _
  rintro (hwritten | ⟨hmem, herange⟩)
  · rw [hr, Reset.leave_written stops_of_mem_head?, Reset.mem_writeAll] at hwritten
    rcases hwritten with hnil | ⟨d, hd, -, heq⟩
    · exact absurd hnil List.not_mem_nil
    · have hlt := lt_of_mem_passed hsorted hd hc
      exact absurd (congrArg Prod.fst heq).symm (Nat.ne_of_lt hlt)
  · rw [resetAsked, hasked, List.mem_append] at hmem
    rcases hmem with hpassed | hhead
    · exact Nat.lt_irrefl _ (lt_of_mem_passed hsorted hpassed hc)
    · rcases hleft : left (dev.after classUser) with _ | ⟨b, behind⟩
      · simp [hleft, Reset.refusedHead] at hhead
      · have hcb : c = b := by
          by_cases hclass : id2Class b.id = classUser
          · simpa [hleft, Reset.refusedHead, hclass] using hhead
          · simp [hleft, Reset.refusedHead, hclass] at hhead
        obtain ⟨e, hset, he⟩ := hwanted.setErrno (hcb ▸ stops_of_left hleft)
        exact he (Option.some.inj (hset.symm.trans herange))

theorem allSettled_iff {fuel errno : ℕ} {r : Reset}
    (h : Reset.loop dev fuel { errno := errno } classUser true = some r) :
    dev.AllSettled (resetAsked (some dev) fuel errno) r ↔ ¬ dev.SomeLeft := by
  obtain ⟨hr, hasked⟩ := Reset.loop_eq rfl h
  constructor
  · rintro hall ⟨c, hc, hwanted⟩
    have hmem : c ∈ dev.controls :=
      List.mem_of_mem_filter ((List.dropWhile_suffix _).subset hc)
    exact not_settled_of_left h hc hwanted (hall c hmem hwanted)
  · intro hnone c hmem hwanted
    have hbase : cidBase ≤ c.id := hwanted.2.2.1
    have hafter : c ∈ dev.after classUser :=
      List.mem_filter.mpr ⟨hmem, decide_eq_true (Nat.lt_of_lt_of_le (by decide) hbase)⟩
    have hpassed : c ∈ passed (dev.after classUser) :=
      (mem_passed_or_mem_left hafter hbase).resolve_right fun hc ↦ hnone ⟨c, hc, hwanted⟩
    rcases hwanted.passes (mem_of_mem_passed hpassed).2.2 with hfailure | herange
    · refine .inl ?_
      rw [hr, Reset.leave_written stops_of_mem_head?, Reset.mem_writeAll]
      exact .inr ⟨c, hpassed, hfailure, rfl⟩
    · refine .inr ⟨?_, herange⟩
      rw [resetAsked, hasked]
      exact List.mem_append_left _ hpassed

theorem resetUserCtrls_tells {opens : Bool} {fuel errno : ℕ} {r : Reset}
    (h : resetUserCtrls (dev.opened opens) fuel errno = some r) :
    (r.ret = 0 ↔ dev.AllSettled (resetAsked (dev.opened opens) fuel errno) r)
      ↔ dev.ResetTells opens errno := by
  cases opens with
  | false =>
    obtain rfl : { ret := -1, errno := errno } = r := Option.some.inj h
    simp [ResetTells, AllSettled, opened, resetAsked]
  | true =>
    rw [opened, if_pos rfl] at h ⊢
    rw [ret_iff h, allSettled_iff h, ResetTells, if_pos rfl, xor_iff_iff_not, iff_not_comm]

theorem setCtrlValue_tells (opens : Bool) (ctrlId ctrlVal : ℤ) :
    ((setCtrlValue (dev.opened opens) ctrlId ctrlVal).ret = 0 ↔
        (setCtrlValue (dev.opened opens) ctrlId ctrlVal).Settled (ctrlIdArg ctrlId) ctrlVal)
      ↔ dev.SetTells opens (ctrlIdArg ctrlId) := by
  cases opens with
  | false => simp [setCtrlValue, opened, SetCtrl.Settled, SetTells]
  | true =>
    rcases hget : dev.gCtrl (ctrlIdArg ctrlId) with _ | e
    · simp [setCtrlValue, opened, SetCtrl.Settled, SetTells, hget, eq_comm]
    · simp [setCtrlValue, opened, SetCtrl.Settled, SetTells, hget]

end Device

/-- **What the results say.** `reset_user_ctrls` and `set_ctrl_value`, on the runs that end. -/
theorem ctrlResults_iff (dev : Device) (opens : Bool) :
    (∀ (fuel errno : ℕ) (r : Reset), resetUserCtrls (dev.opened opens) fuel errno = some r →
      ((r.ret = 0 ↔ dev.AllSettled (resetAsked (dev.opened opens) fuel errno) r)
        ↔ dev.ResetTells opens errno)) ∧
    ∀ ctrlId ctrlVal : ℤ,
      (((setCtrlValue (dev.opened opens) ctrlId ctrlVal).ret = 0 ↔
          (setCtrlValue (dev.opened opens) ctrlId ctrlVal).Settled (ctrlIdArg ctrlId) ctrlVal)
        ↔ dev.SetTells opens (ctrlIdArg ctrlId)) :=
  ⟨fun _ _ _ h ↦ Device.resetUserCtrls_tells h, fun ctrlId ctrlVal ↦
    Device.setCtrlValue_tells opens ctrlId ctrlVal⟩

/-- A brightness control that answers writes with this `errno`. -/
def refusingBrightness (errno : ℕ) : Device where
  controls := [{ id := cidBase, disabled := false, defaultValue := 128, setErrno := some errno }]
  sorted := List.pairwise_singleton _ _

/-- A write that fails is told. -/
theorem ctrlResults_iff_eio : (refusingBrightness 5).ResetTells true 0 := by
  have hrun : resetUserCtrls ((refusingBrightness 5).opened true) 1 0
      = some { ret := 1, errno := 5 } := by decide
  refine ((ctrlResults_iff (refusingBrightness 5) true).1 1 0 _ hrun).mp ?_
  refine iff_of_false (by decide) fun h ↦ ?_
  rcases h _ List.mem_cons_self ⟨by decide, rfl, by decide, rfl⟩ with hwritten | ⟨-, hrefused⟩
  · exact absurd hwritten List.not_mem_nil
  · exact absurd hrefused (by decide)

/-- An ignored refusal of the last control is returned, and a failure of the other function is
not. -/
theorem not_ctrlResults :
    (∃ (dev : Device) (fuel errno : ℕ) (r : Reset),
      resetUserCtrls (some dev) fuel errno = some r ∧
        ¬ (r.ret = 0 ↔ dev.AllSettled (resetAsked (some dev) fuel errno) r)) ∧
    ∃ (dev : Device) (ctrlId ctrlVal : ℤ),
      ¬ ((setCtrlValue (some dev) ctrlId ctrlVal).ret = 0 ↔
        (setCtrlValue (some dev) ctrlId ctrlVal).Settled (ctrlIdArg ctrlId) ctrlVal) := by
  constructor
  · refine ⟨refusingBrightness erange, 2, 0, { ret := 1, errno := einval }, by decide, ?_⟩
    intro h
    refine absurd (h.mpr ?_) (by decide)
    intro c hc _
    obtain rfl := List.mem_singleton.mp hc
    exact .inr ⟨by decide, rfl⟩
  · refine ⟨refusingBrightness 5, 0x980900, 0, fun h ↦ ?_⟩
    have hsettled := h.mp (by decide)
    revert hsettled
    rw [SetCtrl.Settled]
    decide

end GstWebrtcCamera

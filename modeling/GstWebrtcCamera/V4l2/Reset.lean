import Mathlib.Data.Int.Notation
import Mathlib.Data.List.Basic

/-!
# Resetting the controls of a camera

`reset_user_ctrls` walks over the controls of a device with `VIDIOC_QUERYCTRL`. With
`V4L2_CTRL_FLAG_NEXT_CTRL` in the id the driver returns the control with the next larger id, without
it the control with exactly that id. The flag is gone from the id that comes back, so the loop has
to put it there again.

It does so on every path but one. A disabled control is skipped before the flag is set, and the next
query returns the same control.
-/

namespace GstWebrtcCamera

/-- A control of a device, and what the driver makes of the two calls on it. -/
structure Control where
  id : ℕ
  /-- `V4L2_CTRL_FLAG_DISABLED`. -/
  disabled : Bool
  defaultValue : ℤ
  /-- The `errno` of `VIDIOC_G_CTRL`, if it fails. -/
  getErrno : Option ℕ := none
  /-- The `errno` of `VIDIOC_S_CTRL`, if it fails. -/
  setErrno : Option ℕ := none
  deriving DecidableEq, Repr

/-- The controls of a device, in the order of their ids. -/
structure Device where
  controls : List Control
  sorted : controls.Pairwise fun c d ↦ c.id < d.id

namespace V4l2

def einval : ℕ := 22

def erange : ℕ := 34

/-- `V4L2_CTRL_CLASS_USER`. -/
def classUser : ℕ := 0x00980000

/-- `V4L2_CID_BASE`. -/
def cidBase : ℕ := classUser + 0x900

/-- `V4L2_CTRL_ID2CLASS`. -/
def id2Class (id : ℕ) : ℕ := id &&& 0x0fff0000

end V4l2

open V4l2

/-- `ioctl(fd, VIDIOC_QUERYCTRL, ..)` with an id and perhaps the flag. -/
def Device.queryCtrl (dev : Device) (id : ℕ) (next : Bool) : Option Control :=
  if next then dev.controls.find? (id < ·.id) else dev.controls.find? (·.id = id)

/-- What the loop of `reset_user_ctrls` has so far. -/
structure Reset where
  ret : ℤ := 0
  errno : ℕ
  /-- The values written. -/
  written : List (ℕ × ℤ) := []
  deriving DecidableEq, Repr

namespace Reset

/-- Reading a control and writing its default. The second component says whether the loop goes on;
otherwise the function is left with what `ret` is. -/
def writeDefault (r : Reset) (c : Control) : Reset × Bool :=
  match c.getErrno with
  | some e => ({ r with ret := -1, errno := e }, e = einval)
  | none =>
    match c.setErrno with
    -- `ret` takes the value of the comparison
    | some e => ({ r with ret := 1, errno := e }, e = erange)
    | none => ({ r with ret := 0, written := r.written ++ [(c.id, c.defaultValue)] }, true)

/-- What follows the loop. -/
def finish (r : Reset) : Reset := if r.errno ≠ einval then { r with ret := -1 } else r

/-- The loop, about to query `id`. It has no result if it is still running when the fuel is gone. -/
def loop (dev : Device) : ℕ → Reset → ℕ → Bool → Option Reset
  | 0, _, _, _ => none
  | fuel + 1, r, id, next =>
    match dev.queryCtrl id next with
    | none => some { r with errno := einval }.finish
    | some c =>
      if id2Class c.id ≠ classUser then some r.finish
      else if c.disabled then loop dev fuel r c.id false
      else if c.id < cidBase then loop dev fuel r c.id true
      else
        let (r, again) := r.writeDefault c
        if again then loop dev fuel r c.id true else some r

end Reset

/-- `reset_user_ctrls`. The device may fail to open. -/
def resetUserCtrls (dev : Option Device) (fuel errno : ℕ) : Option Reset :=
  match dev with
  | none => some { ret := -1, errno := errno }
  | some dev => Reset.loop dev fuel { errno := errno } classUser true

/-! ## When the loop ends -/

/-- The driver refuses a call on the control, and the function is left. -/
def Control.Refused (c : Control) : Prop :=
  cidBase ≤ c.id ∧
    match c.getErrno, c.setErrno with
    | some e, _ => e ≠ einval
    | none, some e => e ≠ erange
    | none, none => False

/-- Of these controls, a disabled one is reached: those before it are enabled controls of the class
that let the loop go on. -/
def Stalls : List Control → Prop
  | [] => False
  | c :: l => id2Class c.id = classUser ∧ (c.disabled ∨ ¬ c.Refused ∧ Stalls l)

namespace Device

variable {dev : Device}

/-- The controls after an id. -/
def after (dev : Device) (id : ℕ) : List Control := dev.controls.filter (id < ·.id)

theorem queryCtrl_next (dev : Device) (id : ℕ) : dev.queryCtrl id true = (dev.after id).head? := by
  rw [queryCtrl, if_pos rfl, after, List.head?_filter]

theorem queryCtrl_self {c : Control} (hc : c ∈ dev.controls) :
    dev.queryCtrl c.id false = some c := by
  obtain ⟨l, l', hl⟩ := List.append_of_mem hc
  have hsorted := dev.sorted
  rw [hl, List.pairwise_append] at hsorted
  have hbefore : l.find? (·.id = c.id) = none := by
    refine List.find?_eq_none.mpr fun d hd ↦ ?_
    have hlt := hsorted.2.2 d hd c List.mem_cons_self
    simp only [decide_eq_true_eq]
    omega
  rw [queryCtrl, if_neg Bool.false_ne_true, hl, List.find?_append, hbefore, Option.none_or,
    List.find?_cons_of_pos (by simp)]

theorem after_of_cons {id : ℕ} {c : Control} {l : List Control} (h : dev.after id = c :: l) :
    dev.after c.id = l := by
  have hsorted : (dev.after id).Pairwise fun c d ↦ c.id < d.id := dev.sorted.filter _
  have hlt : id < c.id := by
    have hmem : c ∈ dev.after id := h ▸ List.mem_cons_self
    exact of_decide_eq_true (List.mem_filter.mp hmem).2
  have hsub : dev.after c.id = (dev.after id).filter (c.id < ·.id) := by
    rw [after, after, List.filter_filter]
    refine List.filter_congr fun d _ ↦ ?_
    by_cases hd : c.id < d.id
    · simp [hd, Nat.lt_trans hlt hd]
    · simp [hd]
  rw [h, List.pairwise_cons] at hsorted
  rw [hsub, h, List.filter_cons_of_neg (by simp), List.filter_eq_self]
  exact fun d hd ↦ decide_eq_true (hsorted.1 d hd)

end Device

namespace Reset

variable {dev : Device}

/-- **No way out.** Once a disabled control is queried without the flag, it is queried for ever. -/
theorem loop_self_eq_none {c : Control} (hc : c ∈ dev.controls) (hclass : id2Class c.id = classUser)
    (hdisabled : c.disabled = true) (fuel : ℕ) (r : Reset) : loop dev fuel r c.id false = none := by
  induction fuel with
  | zero => rfl
  | succ fuel ih =>
    simp only [loop, Device.queryCtrl_self hc, hclass, ne_eq, not_true_eq_false, if_false,
      hdisabled, if_true]
    exact ih

theorem writeDefault_snd (r : Reset) {c : Control} (hc : cidBase ≤ c.id) :
    (r.writeDefault c).2 = true ↔ ¬ c.Refused := by
  rw [Control.Refused, writeDefault]
  cases c.getErrno <;> cases c.setErrno <;> simp [hc]

/-! A turn of the loop, at the control that the query with the flag gives. -/

section Turn

variable {c : Control} {id : ℕ} (hquery : dev.queryCtrl id true = some c)
include hquery

theorem loop_of_class (hclass : id2Class c.id ≠ classUser) (fuel : ℕ) (r : Reset) :
    loop dev (fuel + 1) r id true = some r.finish := by
  simp [loop, hquery, hclass]

theorem loop_of_disabled (hc : c ∈ dev.controls) (hclass : id2Class c.id = classUser)
    (hdisabled : c.disabled = true) (fuel : ℕ) (r : Reset) :
    loop dev (fuel + 1) r id true = none := by
  simp only [loop, hquery, hclass, ne_eq, not_true_eq_false, if_false, hdisabled, if_true]
  exact loop_self_eq_none hc hclass hdisabled fuel r

theorem loop_of_refused (hclass : id2Class c.id = classUser) (hdisabled : ¬ c.disabled = true)
    (hrefused : c.Refused) (fuel : ℕ) (r : Reset) :
    loop dev (fuel + 1) r id true = some (r.writeDefault c).1 := by
  have hbase : ¬ c.id < cidBase := Nat.not_lt.mpr hrefused.1
  have hleave : (r.writeDefault c).2 = false := by
    simpa [hrefused] using writeDefault_snd r hrefused.1
  simp [loop, hquery, hclass, hdisabled, hbase, hleave]

theorem loop_of_passes (hclass : id2Class c.id = classUser) (hdisabled : ¬ c.disabled = true)
    (hrefused : ¬ c.Refused) (fuel : ℕ) (r : Reset) :
    loop dev (fuel + 1) r id true
      = loop dev fuel (if cidBase ≤ c.id then (r.writeDefault c).1 else r) c.id true := by
  by_cases hbase : cidBase ≤ c.id
  · have hagain : (r.writeDefault c).2 = true := (writeDefault_snd r hbase).mpr hrefused
    simp [loop, hquery, hclass, hdisabled, hbase, Nat.not_lt.mpr hbase, hagain]
  · simp [loop, hquery, hclass, hdisabled, hbase, Nat.not_le.mp hbase]

end Turn

/-- The loop ends. -/
def Ends (dev : Device) (r : Reset) (id : ℕ) (next : Bool) : Prop :=
  ∃ fuel, (loop dev fuel r id next).isSome

theorem ends_iff_of_loop_succ {r r' : Reset} {id id' : ℕ} {next next' : Bool}
    (h : ∀ fuel, loop dev (fuel + 1) r id next = loop dev fuel r' id' next') :
    Ends dev r id next ↔ Ends dev r' id' next' := by
  constructor
  · rintro ⟨fuel, hfuel⟩
    cases fuel with
    | zero => exact absurd hfuel Bool.false_ne_true
    | succ fuel => exact ⟨fuel, h fuel ▸ hfuel⟩
  · rintro ⟨fuel, hfuel⟩
    exact ⟨fuel + 1, (h fuel).symm ▸ hfuel⟩

/-- **When the loop ends.** It does unless it comes to a disabled control. -/
theorem ends_iff {l : List Control} :
    ∀ {id : ℕ} (r : Reset), dev.after id = l → (Ends dev r id true ↔ ¬ Stalls l) := by
  induction l with
  | nil =>
    intro id r hl
    have hquery : dev.queryCtrl id true = none := by rw [Device.queryCtrl_next, hl]; rfl
    exact iff_of_true ⟨1, by simp [loop, hquery]⟩ nofun
  | cons c l ih =>
    intro id r hl
    have hquery : dev.queryCtrl id true = some c := by rw [Device.queryCtrl_next, hl]; rfl
    have hafter : c ∈ dev.after id := hl ▸ List.mem_cons_self
    have hmem : c ∈ dev.controls := List.mem_of_mem_filter hafter
    by_cases hclass : id2Class c.id = classUser
    · by_cases hdisabled : c.disabled = true
      · refine iff_of_false ?_ fun h ↦ h ⟨hclass, .inl hdisabled⟩
        rintro ⟨fuel, hfuel⟩
        cases fuel with
        | zero => exact absurd hfuel Bool.false_ne_true
        | succ fuel =>
          rw [loop_of_disabled hquery hmem hclass hdisabled] at hfuel
          exact Bool.false_ne_true hfuel
      · have hstalls : Stalls (c :: l) ↔ ¬ c.Refused ∧ Stalls l := by
          simp [Stalls, hclass, hdisabled]
        rw [hstalls]
        by_cases hrefused : c.Refused
        · refine iff_of_true ⟨1, ?_⟩ fun h ↦ h.1 hrefused
          rw [loop_of_refused hquery hclass hdisabled hrefused]
          rfl
        · have hloop := fun fuel ↦ loop_of_passes hquery hclass hdisabled hrefused fuel r
          rw [ends_iff_of_loop_succ hloop, ih _ (Device.after_of_cons hl), and_iff_right hrefused]
    · refine iff_of_true ⟨1, ?_⟩ fun h ↦ hclass h.1
      rw [loop_of_class hquery hclass]
      rfl

end Reset

/-- `reset_user_ctrls` returns unless the device opens and has a disabled control in the way. -/
theorem exists_resetUserCtrls_iff (dev : Option Device) (errno : ℕ) :
    (∃ fuel, (resetUserCtrls dev fuel errno).isSome)
      ↔ ∀ d ∈ dev, ¬ Stalls (d.after classUser) := by
  cases dev with
  | none => exact iff_of_true ⟨0, rfl⟩ nofun
  | some d =>
    simp only [Option.mem_some_iff, forall_eq']
    exact Reset.ends_iff _ rfl

/-! ## The controls that matter -/

/-- The loop does not get past the control: it is of another class, or it is enabled and the driver
refuses it. -/
def Control.Stops (c : Control) : Prop := id2Class c.id ≠ classUser ∨ ¬ c.disabled ∧ c.Refused

/-- A list in the order of ids stalls the loop unless something stops it at each disabled control
or before. -/
theorem not_stalls_iff {l : List Control} (hl : l.Pairwise fun c d ↦ c.id < d.id) :
    ¬ Stalls l ↔ ∀ c ∈ l, c.disabled → ∃ b ∈ l, b.id ≤ c.id ∧ b.Stops := by
  induction l with
  | nil => simp [Stalls]
  | cons c l ih =>
    rw [List.pairwise_cons] at hl
    by_cases hstops : c.Stops
    · -- everything is behind the first control
      have hbehind : ∀ d ∈ c :: l, c.id ≤ d.id := by
        intro d hd
        rcases List.mem_cons.mp hd with rfl | hd
        · exact Nat.le_refl _
        · exact Nat.le_of_lt (hl.1 d hd)
      refine iff_of_true ?_ fun d hd _ ↦ ⟨c, List.mem_cons_self, hbehind d hd, hstops⟩
      rintro ⟨hclass, hstalls⟩
      rcases hstops with hother | ⟨henabled, hrefused⟩
      · exact hother hclass
      · exact hstalls.elim henabled fun h ↦ h.1 hrefused
    · rw [Control.Stops, not_or, not_not] at hstops
      obtain ⟨hclass, hpasses⟩ := hstops
      by_cases hdisabled : c.disabled = true
      · refine iff_of_false (fun h ↦ h ⟨hclass, .inl hdisabled⟩) fun h ↦ ?_
        obtain ⟨b, hb, hle, hstops⟩ := h c List.mem_cons_self hdisabled
        rcases List.mem_cons.mp hb with rfl | hb
        · exact hstops.elim (absurd hclass) fun h ↦ h.1 hdisabled
        · exact absurd hle (Nat.not_le.mpr (hl.1 b hb))
      · have hrefused : ¬ c.Refused := fun h ↦ hpasses ⟨hdisabled, h⟩
        have hstalls : Stalls (c :: l) ↔ Stalls l := by
          simp [Stalls, hclass, hdisabled, hrefused]
        rw [hstalls, ih hl.2, List.forall_mem_cons]
        constructor
        · intro h
          refine ⟨fun h ↦ absurd h hdisabled, fun d hd hd' ↦ ?_⟩
          obtain ⟨b, hb, hle, hstops⟩ := h d hd hd'
          exact ⟨b, List.mem_cons_of_mem _ hb, hle, hstops⟩
        · rintro ⟨-, h⟩ d hd hd'
          obtain ⟨b, hb, hle, hstops⟩ := h d hd hd'
          rcases List.mem_cons.mp hb with rfl | hb
          · exact absurd hstops (not_or.mpr ⟨not_not.mpr hclass, hpasses⟩)
          · exact ⟨b, hb, hle, hstops⟩

/-- **Termination.** On a device that opens, the loop ends exactly if every disabled control behind
the first query is one that stops it, or has one that stops it before. A turn of the loop makes at
most three calls. -/
theorem resetUserCtrls_ends_iff (dev : Device) (errno : ℕ) :
    (∃ fuel, (resetUserCtrls (some dev) fuel errno).isSome) ↔
      ∀ c ∈ dev.controls, classUser < c.id → c.disabled →
        ∃ b ∈ dev.controls, classUser < b.id ∧ b.id ≤ c.id ∧ b.Stops := by
  rw [exists_resetUserCtrls_iff]
  simp only [Option.mem_some_iff, forall_eq']
  have hsorted : (dev.after classUser).Pairwise fun c d ↦ c.id < d.id := dev.sorted.filter _
  rw [not_stalls_iff hsorted]
  simp only [Device.after, List.mem_filter, decide_eq_true_eq, and_assoc, and_imp]

/-- A disabled brightness control. -/
def disabledBrightness : Device where
  controls := [{ id := cidBase, disabled := true, defaultValue := 128 }]
  sorted := List.pairwise_singleton _ _

theorem exists_not_ends :
    ∃ (dev : Device) (errno : ℕ), ¬ ∃ fuel, (resetUserCtrls (some dev) fuel errno).isSome := by
  refine ⟨disabledBrightness, 0, ?_⟩
  rintro ⟨fuel, hfuel⟩
  have hstalls : Stalls (disabledBrightness.after classUser) := by
    have hafter : disabledBrightness.after classUser
        = [{ id := cidBase, disabled := true, defaultValue := 128 }] := by decide
    rw [hafter]
    exact ⟨by decide, .inl rfl⟩
  exact (exists_resetUserCtrls_iff (some disabledBrightness) 0).mp ⟨fuel, hfuel⟩ _ rfl hstalls

end GstWebrtcCamera

import GstWebrtcCamera.Core.Run
import GstWebrtcCamera.Core.Store
import GstWebrtcCamera.Server.State
import GstWebrtcCamera.V4l2.Outcome

/-!
# The controls a page is shown

When its data channel opens, a page is sent the controls of the camera as JSON, one object for each
control of a fixed list, under the name the driver gives it. From then on every page may write
controls and reset them. Nothing is told to the others, but whoever opens a channel later is shown
what the driver took last, from whichever page.
-/

namespace GstWebrtcCamera

open V4l2 Store

/-- What else `VIDIOC_QUERYCTRL` gives of a control. -/
structure CtrlInfo where
  name : CString
  minimum : ℤ
  maximum : ℤ
  step : ℤ
  type : ℤ

/-- An object under `ctrls`. -/
structure CtrlItem where
  id : ℕ
  min : ℤ
  max : ℤ
  default : ℤ
  step : ℤ
  type : ℤ
  /-- Left out where the control cannot be read. -/
  value : Option ℤ

/-- A camera with its driver. -/
structure CtrlCamera where
  device : Device
  info : ℕ → CtrlInfo
  /-- What the driver makes of a value that it takes: it may clamp it. -/
  taken : ℕ → ℤ → ℤ

namespace CtrlCamera

variable (cam : CtrlCamera)

/-- The member for a control of the list, if the device has the control. -/
def member (values : ℕ → ℤ) (id : ℕ) : Option (CString × CtrlItem) :=
  (cam.device.queryCtrl id false).map fun c ↦
    ((cam.info c.id).name, {
      id := c.id
      min := (cam.info c.id).minimum
      max := (cam.info c.id).maximum
      default := c.defaultValue
      step := (cam.info c.id).step
      type := (cam.info c.id).type
      value := if cam.device.gCtrl c.id = none then some (values c.id) else none })

end CtrlCamera

/-- A call of a page that comes to the device, which may fail to open. -/
structure CtrlEvent where
  call : CtrlCall
  opens : Bool
  /-- Before the call. -/
  errno : ℕ
  fuel : ℕ

namespace CtrlCamera

variable (cam : CtrlCamera)

/-- The writes the driver takes. There are none to speak of where the call does not return. -/
def writes (e : CtrlEvent) : Option (List (ℕ × ℤ)) :=
  match e.call with
  | .resetUserCtrls =>
    (resetUserCtrls (cam.device.opened e.opens) e.fuel e.errno).map Reset.written
  | .setCtrlValue id value =>
    some ((setCtrlValue (cam.device.opened e.opens) id value).calls.filterMap fun call ↦
      if call.2.2 = none then some (call.1, call.2.1) else none)

/-- A call, on the values the controls have. -/
def step (values : Option (ℕ → ℤ)) (e : CtrlEvent) : Option (ℕ → ℤ) :=
  values.bind fun values ↦ (cam.writes e).map fun ws ↦
    writeAll values (ws.map fun w ↦ (w.1, cam.taken w.1 w.2))

/-- What the driver took in a run, the first first. -/
def history (es : List CtrlEvent) : List (ℕ × ℤ) :=
  es.flatMap fun e ↦ ((cam.writes e).getD []).map fun w ↦ (w.1, cam.taken w.1 w.2)

section Run

variable {cam} {values values' : ℕ → ℤ} {es : List CtrlEvent} {c : Control}

theorem exec_eq (h : Run.exec cam.step (some values) es = some values') :
    values' = writeAll values (cam.history es) := by
  induction es using List.reverseRecOn generalizing values' with
  | nil => exact (Option.some.inj h).symm
  | append_singleton es e ih =>
    rw [Run.exec_concat] at h
    rcases hbefore : Run.exec cam.step (some values) es with _ | before
    · rw [hbefore] at h
      cases h
    · rw [hbefore, step, Option.bind_some] at h
      obtain ⟨ws, hws, rfl⟩ := Option.map_eq_some_iff.mp h
      rw [ih hbefore, history, history, List.flatMap_append, writeAll, writeAll, writeAll,
        List.foldl_append, List.flatMap_singleton, hws, Option.getD_some]

/-- A camera with a brightness from 0 to 255. -/
def brightness : CtrlCamera where
  device.controls := [⟨cidBase, false, 128, none, none⟩]
  device.sorted := List.pairwise_singleton _ _
  info _ := {
    name := CString.ofString "Brightness"
    minimum := 0
    maximum := 255
    step := 1
    type := 1 }
  taken _ v := min 255 (max 0 v)

end Run

end CtrlCamera

end GstWebrtcCamera

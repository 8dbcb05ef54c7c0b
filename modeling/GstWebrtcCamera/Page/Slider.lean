import GstWebrtcCamera.Page.Controls
import Mathlib.Data.Rat.Floor

/-!
# Sliders of controls

A camera control with a range becomes a slider. When the range reaches below zero the pages move it
up to start there, overwriting its bounds, and have to move positions back when the slider is used
and the default up when the controls are reset. Both pages do this with the same three formulas:
the range is moved by `|min|`, but the other two go by half of the length of the range, as if it
were symmetric, and a position is moved up once more where it should be moved back.
-/

namespace GstWebrtcCamera

/-! ## The slider element -/

/-- The position a slider with a range that is not empty shows for a number: the number is brought
into the range, and to the nearest step, the upper one of two. Only positive steps count. -/
def sliderPosition (min max step : ℤ) (value : ℚ) : ℤ :=
  let step := if 0 < step then step else 1
  let inside : ℚ := Max.max min (Min.min max value)
  min + step * Min.min ⌊(inside - min) / step + 1 / 2⌋ ((max - min) / step)

/-- The positions of a slider that starts at zero. -/
def IsPosition (max step p : ℤ) : Prop :=
  0 ≤ p ∧ p ≤ max ∧ (if 0 < step then step else 1) ∣ p

theorem sliderPosition_of_isPosition {max step p : ℤ} (hp : IsPosition max step p) :
    sliderPosition 0 max step p = p := by
  obtain ⟨hnonneg, hle, hdvd⟩ := hp
  have hstep : 0 < if 0 < step then step else 1 := by
    split_ifs with h
    · exact h
    · exact Int.one_pos
  rw [sliderPosition]
  generalize (if 0 < step then step else 1) = s at hdvd hstep
  obtain ⟨k, rfl⟩ := hdvd
  have hinside : Max.max ((0 : ℤ) : ℚ) (Min.min (max : ℚ) ((s * k : ℤ) : ℚ)) =
      ((s * k : ℤ) : ℚ) := by
    rw [min_eq_right (by exact_mod_cast hle), max_eq_right (by exact_mod_cast hnonneg)]
  have hfloor : ⌊(((s * k : ℤ) : ℚ) - ((0 : ℤ) : ℚ)) / (s : ℚ) + 1 / 2⌋ = k := by
    have hs : (s : ℚ) ≠ 0 := by exact_mod_cast hstep.ne'
    have hquot : (((s * k : ℤ) : ℚ) - ((0 : ℤ) : ℚ)) / (s : ℚ) = (k : ℚ) := by
      push_cast
      field_simp
      ring
    rw [hquot, Int.floor_intCast_add]
    norm_num
  have hk : k ≤ (max - 0) / s := by
    rw [Int.sub_zero, Int.le_ediv_iff_mul_le hstep, mul_comm]
    exact hle
  simp only [hinside, hfloor, min_eq_left hk, zero_add]

/-! ## Conversion -/

/-- A control of type 1, as the server sends it. -/
structure RangeCtrl where
  id : ℤ
  min : ℤ
  max : ℤ
  step : ℤ
  value : ℤ
  default : ℤ

/-- The control in `userCtrls`, with its bounds overwritten. -/
structure SliderCtrl extends UserCtrl where
  min : ℤ
  step : ℤ
  value : ℤ
  default : ℤ

/-- `localdc.onmessage` of `webrtc.js` and `add_user_ctrls` of `main.js`. -/
def RangeCtrl.convert (c : RangeCtrl) : SliderCtrl :=
  if c.min < 0 then {
    id := c.id
    max := |c.min| + c.max
    converted := true
    min := 0
    step := c.step
    value := |c.min| + c.value
    default := c.default }
  else {
    id := c.id
    max := c.max
    converted := false
    min := c.min
    step := c.step
    value := c.value
    default := c.default }

namespace SliderCtrl

/-- What the slider shows at first. -/
def shown (c : SliderCtrl) : ℤ := sliderPosition c.min c.max c.step c.value

/-- The number the `Reset` button gives to the slider. -/
def resetValue (c : SliderCtrl) : ℚ :=
  if c.converted then c.default - (0 - c.max / 2) else c.default

/-- What it shows then. -/
def shownReset (c : SliderCtrl) : ℤ := sliderPosition c.min c.max c.step c.resetValue

end SliderCtrl

/-- The slider and the control agree: the device value `v` is at position `v - min`. -/
structure RangeCtrl.RoundTrips (c : RangeCtrl) : Prop where
  shown : c.convert.shown = c.value - c.min
  sends : ∀ (pair : CtrlPair) (userCtrls : AList fun _ : String ↦ UserCtrl) (name : String) (p : ℤ),
    userCtrls.lookup name = some c.convert.toUserCtrl →
    IsPosition c.convert.max c.convert.step p →
    pair.sendUserCtrl userCtrls name (.range p) = [pair.setText c.id ((p + c.min : ℤ) : ℚ)]
  reset : c.convert.shownReset = c.default - c.min

namespace RangeCtrl

variable {c : RangeCtrl}

theorem convert_of_neg (hmin : c.min < 0) : c.convert = {
    id := c.id
    max := c.max - c.min
    converted := true
    min := 0
    step := c.step
    value := c.value - c.min
    default := c.default } := by
  have hmax : |c.min| + c.max = c.max - c.min := by rw [abs_of_neg hmin]; ring
  have hvalue : |c.min| + c.value = c.value - c.min := by rw [abs_of_neg hmin]; ring
  rw [convert, if_pos hmin, hmax, hvalue]

theorem sval_convert (hmin : c.min < 0) (p : ℤ) :
    c.convert.sval (.range p) = p + ((c.max - c.min : ℤ) : ℚ) / 2 := by
  rw [convert_of_neg hmin, UserCtrl.sval, if_pos rfl]
  ring

/-- What is sent is never the value at the position. -/
theorem sval_convert_ne (hmin : c.min < 0) (hle : c.min ≤ c.max) (p : ℤ) :
    c.convert.sval (.range p) ≠ ((p + c.min : ℤ) : ℚ) := by
  have hneg : (c.min : ℚ) < 0 := by exact_mod_cast hmin
  have hlength : (c.min : ℚ) ≤ c.max := by exact_mod_cast hle
  rw [sval_convert hmin]
  intro heq
  push_cast at heq
  linarith

theorem shown_convert (hmin : c.min < 0)
    (hvalue : IsPosition (c.max - c.min) c.step (c.value - c.min)) :
    c.convert.shown = c.value - c.min := by
  rw [convert_of_neg hmin, SliderCtrl.shown]
  exact sliderPosition_of_isPosition hvalue

/-- The button gives the slider the default and half of the length, which is right for symmetric
ranges. -/
theorem resetValue_convert_eq_iff (hmin : c.min < 0) :
    c.convert.resetValue = ((c.default - c.min : ℤ) : ℚ) ↔ c.max = -c.min := by
  rw [convert_of_neg hmin, SliderCtrl.resetValue, if_pos rfl]
  constructor
  · intro heq
    have hcast : (c.max : ℚ) = ((-c.min : ℤ) : ℚ) := by
      push_cast at heq ⊢
      linarith
    exact_mod_cast hcast
  · intro hmax
    rw [hmax]
    push_cast
    ring

theorem shownReset_convert (hmin : c.min < 0) (hmax : c.max = -c.min)
    (hdefault : IsPosition (c.max - c.min) c.step (c.default - c.min)) :
    c.convert.shownReset = c.default - c.min := by
  rw [SliderCtrl.shownReset, (resetValue_convert_eq_iff hmin).mpr hmax, convert_of_neg hmin]
  exact sliderPosition_of_isPosition hdefault

end RangeCtrl

/-! ## What is sent -/

theorem numberJson_intCast_iff {q : ℚ} {n : ℤ} : numberJson q = numberJson n ↔ q = n := by
  refine ⟨fun h ↦ ?_, fun h ↦ h ▸ rfl⟩
  rw [numberJson, numberJson, Rat.den_intCast, if_pos rfl, Rat.num_intCast] at h
  split_ifs at h with hden
  have hnum : q.num = n := Json.int.inj h
  rw [← hnum, Rat.coe_int_num_of_den_eq_one hden]

theorem CtrlPair.setText_inj {pair : CtrlPair} {id : ℤ} {q : ℚ} {n : ℤ}
    (h : pair.setText id q = pair.setText id n) : q = n := by
  rw [← numberJson_intCast_iff]
  cases pair with
  | webrtc => simpa [CtrlPair.setText] using h
  | main => simpa [CtrlPair.setText] using h

namespace RangeCtrl

theorem sendUserCtrl_zero_ne {c : RangeCtrl} (hmin : c.min < 0) (hle : c.min ≤ c.max)
    (pair : CtrlPair) {userCtrls : AList fun _ : String ↦ UserCtrl} {name : String}
    (hlookup : userCtrls.lookup name = some c.convert.toUserCtrl) :
    pair.sendUserCtrl userCtrls name (.range 0) ≠ [pair.setText c.id ((0 + c.min : ℤ) : ℚ)] := by
  intro h
  have hid : c.convert.id = c.id := by rw [convert_of_neg hmin]
  rw [CtrlPair.sendUserCtrl_eq, hlookup, Option.map_some, Option.toList_some, hid] at h
  exact sval_convert_ne hmin hle 0 (CtrlPair.setText_inj (List.cons.inj h).1)

theorem isPosition_zero {c : RangeCtrl} (hmin : c.min < 0) (hle : c.min ≤ c.max) :
    IsPosition c.convert.max c.convert.step 0 := by
  rw [convert_of_neg hmin]
  exact ⟨le_rfl, Int.sub_nonneg_of_le hle, Int.dvd_zero _⟩

theorem exists_lookup (name : String) (ctrl : UserCtrl) :
    ∃ userCtrls : AList fun _ : String ↦ UserCtrl, userCtrls.lookup name = some ctrl :=
  ⟨AList.insert name ctrl ∅, AList.lookup_insert ∅⟩

/-- No control with a range that reaches below zero round-trips. -/
theorem not_roundTrips {c : RangeCtrl} (hmin : c.min < 0) (hle : c.min ≤ c.max) :
    ¬ c.RoundTrips := by
  intro h
  obtain ⟨userCtrls, hlookup⟩ := exists_lookup "slider" c.convert.toUserCtrl
  exact sendUserCtrl_zero_ne hmin hle .webrtc hlookup
    (h.sends .webrtc _ "slider" 0 hlookup (isPosition_zero hmin hle))

/-- Brightness from -64 to 64. -/
def brightness : RangeCtrl :=
  { id := 0x00980900, min := -64, max := 64, step := 1, value := 10, default := 0 }

theorem not_roundTrips_brightness : ¬ brightness.RoundTrips :=
  not_roundTrips (by decide) (by decide)

/-- Moved to the left end, its slider sends 64 and not -64. -/
theorem exists_not_roundTrips :
    ∃ c : RangeCtrl, c.min < 0 ∧ c.min ≤ c.max ∧ (c.min ≤ c.value ∧ c.value ≤ c.max) ∧
      (c.min ≤ c.default ∧ c.default ≤ c.max) ∧ ¬ c.RoundTrips := by
  refine ⟨brightness, by decide, by decide, by decide, by decide, fun h ↦ ?_⟩
  obtain ⟨userCtrls, hlookup⟩ := exists_lookup "Brightness" brightness.convert.toUserCtrl
  exact sendUserCtrl_zero_ne (by decide) (by decide) .webrtc hlookup
    (h.sends .webrtc _ "Brightness" 0 hlookup (isPosition_zero (by decide) (by decide)))

end RangeCtrl

end GstWebrtcCamera

import GstWebrtcCamera.Core.Binary
import GstWebrtcCamera.Text.CString
import Mathlib.Data.List.Infix

/-!
# Modes of a capture device

Two functions of `v4l2ctl.c` walk over everything a video node enumerates: pixel formats, the frame
sizes of a format, the frame intervals of a size. `find_video_device_fmt` looks for a configured
mode, `get_default_capture_device` for any. Their loops stop at different places. The first leaves
the sizes of a format at the first one that fits and goes on with the next format; the second looks
at its flag when it has already asked for the next entry, and writes into its argument whether it
finds something or not.

The enumerations are lists: an `ioctl` with an index beyond the list fails. What a rate makes of a
frame interval is a parameter of the loops, `fps`, and `gfloatFps` is the one of the program.
-/

namespace GstWebrtcCamera

open CString

/-! ## Devices -/

/-- `struct v4l2_fract`. -/
structure Fract where
  numerator : UInt32
  denominator : UInt32
  deriving DecidableEq, Repr

/-- A frame size. The two kinds that are not discrete are passed over. -/
inductive FrmSize
  | discrete (width height : UInt32)
  | continuous
  | stepwise
  deriving DecidableEq, Repr

/-- A video node that can be opened. -/
structure VideoDevice where
  fd : ℕ
  /-- `bus_info` of `VIDIOC_QUERYCAP`, if that succeeds. -/
  busInfo : Option CString
  /-- `V4L2_CAP_VIDEO_CAPTURE` is among its capabilities. -/
  videoCapture : Bool
  /-- The pixel formats. -/
  formats : List UInt32
  frameSizes : UInt32 → List FrmSize
  /-- They depend on the pixel format, the width and the height. -/
  frameIntervals : UInt32 → UInt32 → UInt32 → List Fract
  /-- Width, height and pixel format that `VIDIOC_S_FMT` settles on, if it succeeds. -/
  setFormat : Option (UInt32 × UInt32 × UInt32)

/-- The video nodes by their paths. -/
abbrev VideoDevices := CString → Option VideoDevice

/-- `_v4l2src_data`, as far as the search for a device reads and writes it. -/
structure V4l2srcData where
  device : Option CString := none
  specDrv : Option CString := none
  width : Int32 := 0
  height : Int32 := 0
  framerate : Int32 := 0
  format : Option CString := none
  deriving DecidableEq

/-! ## `find_video_device_fmt` -/

namespace FindFmt

variable (fps : Fract → Int32) (dev : VideoDevice) (data : V4l2srcData)

/-- The loop over the frame intervals. -/
def intervals (found : Bool) : List Fract → Bool
  | [] => found
  | iv :: ivs => if data.framerate = fps iv then true else intervals found ivs

/-- The loop over the frame sizes, left at the first one that fits. -/
def sizes (pixelformat : UInt32) (found : Bool) : List FrmSize → Bool
  | [] => found
  | .discrete width height :: l =>
    if width = data.width.toUInt32 ∧ height = data.height.toUInt32 then
      intervals fps data found (dev.frameIntervals pixelformat width height)
    else sizes pixelformat found l
  | .continuous :: l | .stepwise :: l => sizes pixelformat found l

/-- The loop over the pixel formats. -/
def formats (found : Bool) : List UInt32 → Bool
  | [] => found
  | pf :: l => formats (sizes fps dev data pf found (dev.frameSizes pf)) l

end FindFmt

/-- `find_video_device_fmt`. Its other argument only makes it print. -/
def findVideoDeviceFmt (fps : Fract → Int32) (video : VideoDevices) (data : V4l2srcData) : Bool :=
  match data.device.bind video with
  | none => false
  | some dev =>
    match dev.busInfo with
    | none => false
    | some bus =>
      if lit "platform:" <+: bus.chars then false
      else FindFmt.formats fps dev data false dev.formats

/-! ## `get_default_capture_device` -/

namespace DefaultCapture

variable (fps : Fract → Int32) (dev : VideoDevice)

/-- The loop over the frame intervals, left at the first one. -/
def intervals (st : Bool × V4l2srcData) : List Fract → Bool × V4l2srcData
  | [] => st
  | iv :: _ => (true, { st.2 with framerate := fps iv })

/-- The loop over the frame sizes. -/
def sizes (pixelformat : UInt32) (st : Bool × V4l2srcData) : List FrmSize → Bool × V4l2srcData
  | [] => st
  | size :: l =>
    if st.1 then st
    else
      match size with
      | .discrete width height =>
        let data := { st.2 with width := width.toInt32, height := height.toInt32 }
        sizes pixelformat
          (intervals fps (st.1, data) (dev.frameIntervals pixelformat width height)) l
      | .continuous | .stepwise => sizes pixelformat st l

/-- The loop over the pixel formats. -/
def formats (st : Bool × V4l2srcData) : List UInt32 → Bool × V4l2srcData
  | [] => st
  | pf :: l => if st.1 then st else formats (sizes fps dev pf st (dev.frameSizes pf)) l

end DefaultCapture

/-- `get_default_capture_device`. The second component is the argument afterwards. -/
def getDefaultCaptureDevice (fps : Fract → Int32) (video : VideoDevices) (data : V4l2srcData) :
    Bool × V4l2srcData :=
  match data.device.bind video with
  | none => (false, data)
  | some dev =>
    match dev.busInfo with
    | none => (false, data)
    | some bus =>
      if lit "platform:" <+: bus.chars then (false, data)
      else DefaultCapture.formats fps dev (false, data) dev.formats

/-! ## What is enumerated -/

/-- The node opens and answers `VIDIOC_QUERYCAP`. -/
def VideoDevices.Reads (video : VideoDevices) (device : Option CString) (dev : VideoDevice) :
    Prop :=
  device.bind video = some dev ∧ dev.busInfo.isSome

/-- The node is on a `platform:` bus. -/
def VideoDevice.OnPlatform (dev : VideoDevice) : Prop :=
  ∃ bus ∈ dev.busInfo, lit "platform:" <+: bus.chars

/-- A pixel format, a discrete size of it and an interval of the size are enumerated. -/
structure VideoDevice.Offers (dev : VideoDevice) (pixelformat width height : UInt32) (iv : Fract) :
    Prop where
  format : pixelformat ∈ dev.formats
  size : .discrete width height ∈ dev.frameSizes pixelformat
  interval : iv ∈ dev.frameIntervals pixelformat width height

/-! ## When a mode is found -/

namespace FindFmt

variable {fps : Fract → Int32} {dev : VideoDevice} {data : V4l2srcData}

theorem intervals_eq_true_iff {found : Bool} {l : List Fract} :
    intervals fps data found l = true ↔ found = true ∨ ∃ iv ∈ l, fps iv = data.framerate := by
  induction l with
  | nil => simp [intervals]
  | cons iv l ih =>
    rw [intervals, List.exists_mem_cons_iff]
    split_ifs with hrate
    · exact iff_of_true rfl (.inr (.inl hrate.symm))
    · rw [ih, or_iff_right (Ne.symm hrate)]

/-- Leaving the loop at the first size that fits loses nothing: another entry of the same size has
the same intervals. -/
theorem sizes_eq_true_iff {pf : UInt32} {found : Bool} {l : List FrmSize} :
    sizes fps dev data pf found l = true ↔
      found = true ∨ .discrete data.width.toUInt32 data.height.toUInt32 ∈ l ∧
        ∃ iv ∈ dev.frameIntervals pf data.width.toUInt32 data.height.toUInt32,
          fps iv = data.framerate := by
  induction l with
  | nil => simp [sizes]
  | cons size l ih =>
    cases size with
    | discrete width height =>
      rw [sizes]
      split_ifs with hfits
      · obtain ⟨rfl, rfl⟩ := hfits
        rw [intervals_eq_true_iff]
        simp
      · have hne : FrmSize.discrete data.width.toUInt32 data.height.toUInt32
            ≠ .discrete width height := by
          intro h
          obtain ⟨hwidth, hheight⟩ := FrmSize.discrete.inj h
          exact hfits ⟨hwidth.symm, hheight.symm⟩
        rw [ih, List.mem_cons, or_iff_right hne]
    | continuous => simp [sizes, ih]
    | stepwise => simp [sizes, ih]

theorem formats_eq_true_iff {found : Bool} {l : List UInt32} :
    formats fps dev data found l = true ↔
      found = true ∨ ∃ pf ∈ l,
        .discrete data.width.toUInt32 data.height.toUInt32 ∈ dev.frameSizes pf ∧
        ∃ iv ∈ dev.frameIntervals pf data.width.toUInt32 data.height.toUInt32,
          fps iv = data.framerate := by
  induction l generalizing found with
  | nil => simp [formats]
  | cons pf l ih => rw [formats, ih, sizes_eq_true_iff, List.exists_mem_cons_iff, or_assoc]

end FindFmt

section

variable {fps : Fract → Int32} {video : VideoDevices} {data : V4l2srcData}

theorem reads_and_not_onPlatform_iff {device : Option CString} {dev : VideoDevice} :
    video.Reads device dev ∧ ¬ dev.OnPlatform ↔
      device.bind video = some dev ∧ ∃ bus, dev.busInfo = some bus ∧
        ¬ lit "platform:" <+: bus.chars := by
  rw [VideoDevices.Reads, VideoDevice.OnPlatform, and_assoc]
  refine and_congr_right fun _ ↦ ?_
  cases dev.busInfo <;> simp

/-- **The search for a mode** finds it if it is enumerated, whatever comes before. -/
theorem findVideoDeviceFmt_eq_true_iff :
    findVideoDeviceFmt fps video data = true ↔
      ∃ dev, (video.Reads data.device dev ∧ ¬ dev.OnPlatform) ∧ ∃ pf iv,
        dev.Offers pf data.width.toUInt32 data.height.toUInt32 iv ∧ fps iv = data.framerate := by
  simp only [reads_and_not_onPlatform_iff]
  rw [findVideoDeviceFmt]
  cases hdev : data.device.bind video with
  | none => simp
  | some dev =>
    simp only [Option.some.injEq, exists_eq_left', and_assoc]
    cases hbus : dev.busInfo with
    | none => simp
    | some bus =>
      simp only [Option.some.injEq, exists_eq_left']
      split_ifs with hplatform
      · simp [hplatform]
      · rw [FindFmt.formats_eq_true_iff, or_iff_right Bool.false_ne_true]
        constructor
        · rintro ⟨pf, hpf, hsize, iv, hiv, hrate⟩
          exact ⟨hplatform, pf, iv, ⟨hpf, hsize, hiv⟩, hrate⟩
        · rintro ⟨-, pf, iv, hoffers, hrate⟩
          exact ⟨pf, hoffers.format, hoffers.size, iv, hoffers.interval, hrate⟩

end

/-! ## What the default is -/

namespace DefaultCapture

variable (fps : Fract → Int32) (dev : VideoDevice)

/-- The loop over the sizes ends without a mode, or with one that is enumerated. What an attempt
without intervals has written is overwritten by the next. -/
theorem sizes_cases (pf : UInt32) (l : List FrmSize) (st : Bool × V4l2srcData)
    (hst : st.1 = false) :
    (sizes fps dev pf st l).1 = false ∧
        (∀ w h, .discrete w h ∈ l → dev.frameIntervals pf w h = []) ∧
        (∃ w h, (sizes fps dev pf st l).2 = { st.2 with width := w, height := h }) ∨
    ∃ w h iv, .discrete w h ∈ l ∧ iv ∈ dev.frameIntervals pf w h ∧
      sizes fps dev pf st l =
        (true, { st.2 with width := w.toInt32, height := h.toInt32, framerate := fps iv }) := by
  induction l generalizing st with
  | nil => exact .inl ⟨hst, nofun, st.2.width, st.2.height, rfl⟩
  | cons size l ih =>
    obtain ⟨found, data⟩ := st
    obtain rfl : found = false := hst
    cases size with
    | discrete width height =>
      simp only [sizes, Bool.false_eq_true, if_false]
      cases hivs : dev.frameIntervals pf width height with
      | nil =>
        simp only [intervals]
        rcases ih (false, { data with width := width.toInt32, height := height.toInt32 }) rfl with
          ⟨hnone, hempty, hdata⟩ | ⟨w, h, iv, hmem, hiv, heq⟩
        · refine .inl ⟨hnone, fun w h hmem ↦ ?_, hdata⟩
          rcases List.mem_cons.mp hmem with hhead | hmem
          · obtain ⟨rfl, rfl⟩ := FrmSize.discrete.inj hhead
            exact hivs
          · exact hempty w h hmem
        · exact .inr ⟨w, h, iv, List.mem_cons_of_mem _ hmem, hiv, heq⟩
      | cons iv ivs =>
        refine .inr ⟨width, height, iv, List.mem_cons_self, hivs ▸ List.mem_cons_self, ?_⟩
        simp only [intervals]
        -- the flag is set now, so the loop does not look at the next entry
        cases l <;> simp [sizes]
    -- sizes of the other kinds are passed over
    | _ =>
      simp only [sizes, Bool.false_eq_true, if_false]
      rcases ih (false, data) rfl with ⟨hnone, hempty, hdata⟩ | ⟨w, h, iv, hmem, hiv, heq⟩
      · exact .inl ⟨hnone, fun w h hmem ↦ hempty w h (by simpa using hmem), hdata⟩
      · exact .inr ⟨w, h, iv, List.mem_cons_of_mem _ hmem, hiv, heq⟩

theorem formats_cases (l : List UInt32) (st : Bool × V4l2srcData) (hst : st.1 = false) :
    (formats fps dev st l).1 = false ∧
        (∀ pf ∈ l, ∀ w h, .discrete w h ∈ dev.frameSizes pf → dev.frameIntervals pf w h = []) ∨
    ∃ pf w h iv, pf ∈ l ∧ .discrete w h ∈ dev.frameSizes pf ∧ iv ∈ dev.frameIntervals pf w h ∧
      formats fps dev st l =
        (true, { st.2 with width := w.toInt32, height := h.toInt32, framerate := fps iv }) := by
  induction l generalizing st with
  | nil => exact .inl ⟨hst, nofun⟩
  | cons pf l ih =>
    rw [formats, hst, if_neg Bool.false_ne_true]
    rcases sizes_cases fps dev pf (dev.frameSizes pf) st hst with
      ⟨hnone, hempty, w, h, hdata⟩ | ⟨w, h, iv, hsize, hiv, heq⟩
    · rcases ih _ hnone with ⟨hnone', hempty'⟩ | ⟨pf', w', h', iv, hpf, hsize, hiv, heq⟩
      · exact .inl ⟨hnone', List.forall_mem_cons.mpr ⟨hempty, hempty'⟩⟩
      · refine .inr ⟨pf', w', h', iv, List.mem_cons_of_mem _ hpf, hsize, hiv, ?_⟩
        rw [heq, hdata]
    · refine .inr ⟨pf, w, h, iv, List.mem_cons_self, hsize, hiv, ?_⟩
      rw [heq]
      cases l <;> simp [formats]

end DefaultCapture

section

variable {fps : Fract → Int32} {video : VideoDevices} {data : V4l2srcData}

variable (fps video data) in
/-- **The default** is a mode that is enumerated, and there is none only if no mode is. -/
theorem getDefaultCaptureDevice_cases :
    (getDefaultCaptureDevice fps video data).1 = false ∧
        (∀ dev, video.Reads data.device dev → ¬ dev.OnPlatform → ∀ pf w h iv,
          ¬ dev.Offers pf w h iv) ∨
    ∃ dev pf w h iv, (video.Reads data.device dev ∧ ¬ dev.OnPlatform) ∧ dev.Offers pf w h iv ∧
      getDefaultCaptureDevice fps video data =
        (true, { data with width := w.toInt32, height := h.toInt32, framerate := fps iv }) := by
  simp only [reads_and_not_onPlatform_iff, ← and_imp]
  rw [getDefaultCaptureDevice]
  cases hdev : data.device.bind video with
  | none => exact .inl ⟨rfl, by simp⟩
  | some dev =>
    cases hbus : dev.busInfo with
    | none => exact .inl ⟨by simp only [hbus], by simp [hbus]⟩
    | some bus =>
      simp only [hbus]
      split_ifs with hplatform
      · exact .inl ⟨rfl, by simp [hbus, hplatform]⟩
      · rcases DefaultCapture.formats_cases fps dev dev.formats (false, data) rfl with
          ⟨hnone, hempty⟩ | ⟨pf, w, h, iv, hpf, hsize, hiv, heq⟩
        · refine .inl ⟨hnone, fun dev' hdev' pf w h iv hoffers ↦ ?_⟩
          obtain rfl : dev = dev' := Option.some.inj hdev'.1
          have hnil := hempty pf hoffers.format w h hoffers.size
          exact List.not_mem_nil (hnil ▸ hoffers.interval)
        · exact .inr ⟨dev, pf, w, h, iv, ⟨rfl, bus, hbus, hplatform⟩, ⟨hpf, hsize, hiv⟩, heq⟩

/-- There is a default exactly if the node is a camera with a discrete size that has an interval. -/
theorem getDefaultCaptureDevice_eq_true_iff :
    (getDefaultCaptureDevice fps video data).1 = true ↔
      ∃ dev, (video.Reads data.device dev ∧ ¬ dev.OnPlatform) ∧
        ∃ pf w h iv, dev.Offers pf w h iv := by
  rcases getDefaultCaptureDevice_cases fps video data with
    ⟨hnone, hempty⟩ | ⟨dev, pf, w, h, iv, hreads, hoffers, heq⟩
  · refine iff_of_false (by simp [hnone]) ?_
    rintro ⟨dev, ⟨hreads, hplatform⟩, pf, w, h, iv, hoffers⟩
    exact hempty dev hreads hplatform pf w h iv hoffers
  · exact iff_of_true (by rw [heq]) ⟨dev, hreads, pf, w, h, iv, hoffers⟩

theorem findVideoDeviceFmt_default (h : (getDefaultCaptureDevice fps video data).1 = true) :
    findVideoDeviceFmt fps video (getDefaultCaptureDevice fps video data).2 = true := by
  rcases getDefaultCaptureDevice_cases fps video data with
    ⟨hnone, -⟩ | ⟨dev, pf, w, h', iv, hreads, hoffers, heq⟩
  · rw [hnone] at h
    contradiction
  · rw [heq, findVideoDeviceFmt_eq_true_iff]
    refine ⟨dev, hreads, pf, iv, ?_, rfl⟩
    simpa using hoffers

end

/-- **Agreement.** There is a default exactly if the node is a camera with a discrete size that has
an interval, and the search finds the mode that was chosen. -/
theorem default_agrees (fps : Fract → Int32) (video : VideoDevices) (data : V4l2srcData) :
    ((getDefaultCaptureDevice fps video data).1 = true ↔
      ∃ dev, (video.Reads data.device dev ∧ ¬ dev.OnPlatform) ∧
        ∃ pf w h iv, dev.Offers pf w h iv) ∧
    ((getDefaultCaptureDevice fps video data).1 = true →
      findVideoDeviceFmt fps video (getDefaultCaptureDevice fps video data).2 = true) :=
  ⟨getDefaultCaptureDevice_eq_true_iff, findVideoDeviceFmt_default⟩

/-! ## Rates -/

/-- `(int)fps`: a quotient of two `double`s, stored in a `gfloat`. What C leaves open, for a zero
numerator and beyond the range of an `int`, is what x86-64 makes of it. -/
def gfloatFps (iv : Fract) : Int32 :=
  let fps := Binary.round 24 (Binary.round 53 (iv.denominator.toNat / iv.numerator.toNat))
  if iv.numerator = 0 ∨ 2 ^ 31 ≤ fps then Int32.minValue else Int32.ofInt ⌊fps⌋

/-- The rates of cameras are exact. -/
theorem gfloatFps_eq_div {iv : Fract} (hpos : iv.numerator ≠ 0)
    (hlt : iv.numerator.toNat * (iv.denominator.toNat / iv.numerator.toNat + 1) < 2 ^ 24) :
    (gfloatFps iv).toInt = iv.denominator.toNat / iv.numerator.toNat := by
  have hb : 0 < iv.numerator.toNat :=
    Nat.pos_of_ne_zero fun h ↦ hpos (UInt32.toNat.inj h)
  obtain ⟨rate, hrate⟩ : ∃ rate,
      rate = Binary.round 24 (Binary.round 53 ((iv.denominator.toNat : ℚ) / iv.numerator.toNat)) :=
    ⟨_, rfl⟩
  obtain ⟨n, hn⟩ : ∃ n, n = iv.denominator.toNat / iv.numerator.toNat := ⟨_, rfl⟩
  have hfloor : ⌊rate⌋ = n := by rw [hrate, hn, Binary.floor_round_round hb hlt]
  have hsmall : n + 1 < 2 ^ 24 := hn ▸ (Nat.le_mul_of_pos_left _ hb).trans_lt hlt
  have hrange : rate < 2 ^ 31 := by
    have hnext := Int.lt_floor_add_one rate
    rw [hfloor, Int.cast_natCast] at hnext
    have hcast : (n : ℚ) + 1 < 2 ^ 24 := by exact_mod_cast hsmall
    linarith
  rw [gfloatFps, ← hrate, if_neg (not_or.mpr ⟨hpos, not_le.mpr hrange⟩), hfloor,
    Int32.toInt_ofInt_of_le (by omega) (by omega), hn, Int.natCast_div]

section

variable {video : VideoDevices} {data : V4l2srcData} {dev : VideoDevice}

theorem eq_toUInt32_iff {n : UInt32} {z : Int32} (hz : 0 ≤ z) :
    n = z.toUInt32 ↔ (n.toNat : ℤ) = z.toInt := by
  rw [Int32.toInt_eq_toNatClampNeg hz, ← Int32.toNat_toUInt32_of_le hz, Int.natCast_inj,
    UInt32.toNat_inj]

/-- **Completeness of the search**, with the rates as the program computes them. -/
theorem findVideoDeviceFmt_gfloat_iff (hreads : video.Reads data.device dev)
    (hplatform : ¬ dev.OnPlatform) (hwidth : 0 ≤ data.width) (hheight : 0 ≤ data.height) :
    findVideoDeviceFmt gfloatFps video data = true ↔
      ∃ pf w h iv, dev.Offers pf w h iv ∧ (w.toNat : ℤ) = data.width.toInt ∧
        (h.toNat : ℤ) = data.height.toInt ∧ gfloatFps iv = data.framerate := by
  rw [findVideoDeviceFmt_eq_true_iff]
  constructor
  · rintro ⟨dev', ⟨hreads', -⟩, pf, iv, hoffers, hrate⟩
    obtain rfl : dev = dev' := Option.some.inj (hreads.1.symm.trans hreads'.1)
    exact ⟨pf, _, _, iv, hoffers, (eq_toUInt32_iff hwidth).mp rfl,
      (eq_toUInt32_iff hheight).mp rfl, hrate⟩
  · rintro ⟨pf, w, h, iv, hoffers, hw, hh, hrate⟩
    obtain rfl := (eq_toUInt32_iff hwidth).mpr hw
    obtain rfl := (eq_toUInt32_iff hheight).mpr hh
    exact ⟨dev, ⟨hreads, hplatform⟩, pf, iv, hoffers, hrate⟩

end

/-- A camera with one format, one size and one interval. -/
def oneMode (iv : Fract) : VideoDevice where
  fd := 3
  busInfo := some (ofString "usb-0000:00:14.0-1")
  videoCapture := true
  formats := [0x56595559]
  frameSizes := fun _ ↦ [.discrete 640 480]
  frameIntervals := fun _ _ _ ↦ [iv]
  setFormat := none

/-- The mode asked of it. -/
def vga (framerate : Int32) : V4l2srcData where
  device := some (ofString "/dev/video0")
  width := 640
  height := 480
  framerate := framerate

theorem oneMode_reads (iv : Fract) (framerate : Int32) :
    VideoDevices.Reads (fun _ ↦ some (oneMode iv)) (vga framerate).device (oneMode iv) := ⟨rfl, rfl⟩

theorem oneMode_not_onPlatform (iv : Fract) : ¬ (oneMode iv).OnPlatform := by
  rintro ⟨bus, hbus, hprefix⟩
  obtain rfl := Option.some.inj hbus
  exact absurd hprefix (by decide +kernel)

theorem oneMode_offers (iv : Fract) : (oneMode iv).Offers 0x56595559 640 480 iv :=
  ⟨List.mem_singleton_self _, List.mem_singleton_self _, List.mem_singleton_self _⟩

theorem findVideoDeviceFmt_gfloat_iff_ntsc :
    findVideoDeviceFmt gfloatFps (fun _ ↦ some (oneMode ⟨1001, 30000⟩)) (vga 29) = true := by
  refine (findVideoDeviceFmt_gfloat_iff (oneMode_reads _ _) (oneMode_not_onPlatform _)
    (by decide) (by decide)).mpr ?_
  exact ⟨_, _, _, _, oneMode_offers _, by decide, by decide, by decide +kernel⟩

/-- A millionth of a frame below thirty frames a second. -/
def almostThirty : Fract where
  numerator := 1048576
  denominator := 31457279

/-- It is searched for as what it is, and not found. -/
theorem not_findVideoDeviceFmt_exact_iff :
    ¬ ∀ (video : VideoDevices) (data : V4l2srcData) (dev : VideoDevice),
      video.Reads data.device dev → ¬ dev.OnPlatform → 0 ≤ data.width → 0 ≤ data.height →
      0 ≤ data.framerate →
      (findVideoDeviceFmt gfloatFps video data = true ↔
        ∃ pf w h iv, dev.Offers pf w h iv ∧ (w.toNat : ℤ) = data.width.toInt ∧
          (h.toNat : ℤ) = data.height.toInt ∧
          ((iv.denominator.toNat / iv.numerator.toNat : ℕ) : ℤ) = data.framerate.toInt) := by
  intro h
  have hfind := (h (fun _ ↦ some (oneMode almostThirty)) (vga 29) _ (oneMode_reads _ _)
    (oneMode_not_onPlatform _) (by decide) (by decide) (by decide)).mpr
    ⟨_, _, _, _, oneMode_offers _, by decide, by decide, by decide⟩
  obtain ⟨dev, ⟨hreads, -⟩, pf, iv, hoffers, hrate⟩ := findVideoDeviceFmt_eq_true_iff.mp hfind
  obtain rfl := Option.some.inj hreads.1
  obtain rfl := List.mem_singleton.mp hoffers.interval
  exact absurd hrate (by decide +kernel)

end GstWebrtcCamera

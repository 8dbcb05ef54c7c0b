import GstWebrtcCamera.Core.CInt
import GstWebrtcCamera.Text.CString

/-!
# From configured durations to intervals

Three durations are configured: the length of a recording in seconds, the length of a file in
seconds, and the length of a file of `webrtc-sendonly` in minutes. Each is stored, multiplied and
handed on, and none of them is checked against the width of a type on its way.

The recorder keeps its own copy of the first, `record_time`, and takes it from the configuration in
`_initial_device`. The last is handed on as a text, by a `%lld` for an unsigned number, which
GStreamer reads again.
-/

namespace GstWebrtcCamera

open CString IntType CInt

/-- The type of `GST_SECOND`. -/
def secondType (signed : Bool) : IntType := ⟨64, signed, Nat.zero_lt_succ _⟩

/-- What GStreamer does with times. -/
structure GstTime where
  /-- Whether `GST_SECOND` has a sign. -/
  secondSigned : Bool
  /-- What a `guint64` property is by a text of a launch line. -/
  readUInt64 : List Char → Option (CInt uint64)
  read_numeral : ∀ n : CInt uint64, readUInt64 (Nat.toDigits 10 n.val.toNat) = some n

/-- `GST_SECOND`. -/
def GstTime.second (gst : GstTime) : CInt (secondType gst.secondSigned) where
  val := 1000000000
  inRange := by cases gst.secondSigned <;> decide

/-- The durations of `config_data`. -/
structure Durations where
  maxSizeTime : CInt int64
  recLen : CInt int32

/-- `read_config_json`, of the numbers under `max_size_time` and `rec_len`. -/
def readDurations (maxSizeTime recLen : CInt int64) : Durations where
  maxSizeTime := maxSizeTime
  recLen := recLen.convert int32

/-- `record_time` behind `create_instance`, which comes to `_initial_device` only without a capture
driver of its own command line. -/
def recordTime (specDrv : Option CString) (config : Durations) : CInt int32 :=
  match specDrv with
  | some _ => ⟨7, by decide⟩
  | none => config.recLen

/-- `record_time * 1000`, for the `guint` of `g_timeout_add_once` and `g_timeout_add_full`, in
`start_udpsrc_rec` and in `start_appsrc_record`. -/
def recordInterval (recordTime : CInt int32) : Option (CInt uint32) :=
  (recordTime.mul (⟨1000, by decide⟩ : CInt int32)).map (convert uint32)

/-- `max-size-time` in `splitfile_sink`. -/
def splitfileMaxSizeTime (gst : GstTime) (config : Durations) : Option (CInt uint64) :=
  (config.maxSizeTime.mul gst.second).map (convert uint64)

/-- `maxsizetime` in `main` of `webrtc-sendonly.c`. -/
def maxsizetime (gst : GstTime) (maxTime : CInt int32) : Option (CInt uint64) :=
  ((maxTime.convert uint64).mul (⟨60, by decide⟩ : CInt int64)).bind fun product ↦
    (product.mul gst.second).map (convert uint64)

/-- What `%lld` writes for a `u_int64_t`. -/
def percentLld (n : CInt uint64) : List Char :=
  let n := (n.convert int64).val
  if 0 ≤ n then Nat.toDigits 10 n.toNat else '-' :: Nat.toDigits 10 n.natAbs

/-- `max-size-time` in the launch line of `webrtc-sendonly.c`, if there is a `splitmuxsink` in it.
-/
def sendonlyMaxSizeTime (gst : GstTime) (maxTime : CInt int32) : Option (CInt uint64) :=
  if 0 < maxTime.val then (maxsizetime gst maxTime).bind fun ns ↦ gst.readUInt64 (percentLld ns)
  else none

/-- A number from `2 ^ 63` on is read back from the negative numeral that `%lld` writes. -/
def GstTime.ReadsWrapped (gst : GstTime) (n : ℤ) : Prop :=
  Gives (gst.readUInt64 ('-' :: Nat.toDigits 10 (18446744073709551616 - n).toNat)) n

/-! ## The recording -/

theorem recordInterval_gives_iff {n : CInt int32} (hn : 0 ≤ n.val) :
    Gives (recordInterval n) (n.val * 1000) ↔ n.val ≤ 2147483 := by
  have hrange : int32.InRange (n.val * 1000) ↔ n.val ≤ 2147483 := by
    rw [inRange_int32_iff]
    omega
  rw [← hrange]
  exact gives_map_convert_mul_iff n.inRange (by decide) (by decide) hn (by decide)

theorem recordInterval_recLen_iff {recLen : CInt int64} (hpos : 0 < recLen.val) :
    ((recLen.convert int32).val = recLen.val ∧
        Gives (recordInterval (recLen.convert int32)) (recLen.val * 1000))
      ↔ recLen.val ≤ 2147483 := by
  by_cases hfits : int32.InRange recLen.val
  · have hval : (recLen.convert int32).val = recLen.val := convert_val hfits
    rw [← hval, recordInterval_gives_iff (by omega), and_iff_right rfl]
  · refine iff_of_false (fun h ↦ hfits ?_) fun hle ↦ hfits ?_
    · exact h.1 ▸ (recLen.convert int32).inRange
    · rw [inRange_int32_iff]
      omega

/-- **The recording.** With a driver of its own command line, the recorder keeps seven seconds. -/
theorem recordTime_iff (specDrv : Option CString) (maxSizeTime : CInt int64) {recLen : CInt int64}
    (hpos : 0 < recLen.val) :
    ((readDurations maxSizeTime recLen).recLen.val = recLen.val ∧
        Gives (recordInterval (recordTime specDrv (readDurations maxSizeTime recLen)))
          (recLen.val * 1000))
      ↔ if specDrv = none then recLen.val ≤ 2147483 else recLen.val = 7 := by
  rcases specDrv with _ | cmdline
  · exact recordInterval_recLen_iff hpos
  · have hseven : Gives (recordInterval ⟨7, by decide⟩) (7 * 1000) :=
      (recordInterval_gives_iff (by decide)).mpr (by decide)
    rw [if_neg (Option.some_ne_none _)]
    constructor
    · rintro ⟨-, h⟩
      have heq : recLen.val * 1000 = 7 * 1000 := h.unique hseven
      omega
    · intro h
      have hfits : int32.InRange recLen.val := by
        rw [h]
        decide
      refine ⟨convert_val hfits, ?_⟩
      rw [h]
      exact hseven

/-! ## The files -/

theorem inRange_secondType_iff {signed : Bool} {n : ℤ} (hn : 0 ≤ n) :
    (secondType signed).InRange n
      ↔ n < if signed then 9223372036854775808 else 18446744073709551616 := by
  cases signed with
  | false => exact and_iff_right hn
  | true => exact and_iff_right (hn.trans' (by decide))

theorem common_int64_secondType (signed : Bool) :
    common int64 (secondType signed) = secondType signed := by
  cases signed <;> rfl

theorem common_uint64_secondType (signed : Bool) :
    common uint64 (secondType signed) = uint64 := by
  cases signed <;> rfl

@[simp] theorem GstTime.second_val (gst : GstTime) : gst.second.val = 1000000000 := rfl

/-- **The file of the daily record.** -/
theorem splitfileMaxSizeTime_iff (gst : GstTime) {maxSizeTime : CInt int64} (recLen : CInt int64)
    (hpos : 0 < maxSizeTime.val) :
    Gives (splitfileMaxSizeTime gst (readDurations maxSizeTime recLen))
        (maxSizeTime.val * 1000000000)
      ↔ maxSizeTime.val ≤ if gst.secondSigned then 9223372036 else 18446744073 := by
  have hrange : (common int64 (secondType gst.secondSigned)).InRange (maxSizeTime.val * 1000000000)
      ↔ maxSizeTime.val ≤ if gst.secondSigned then 9223372036 else 18446744073 := by
    rw [common_int64_secondType, inRange_secondType_iff (by omega)]
    split_ifs <;> omega
  have hfits : (common int64 (secondType gst.secondSigned)).InRange maxSizeTime.val := by
    have hmax := inRange_int64_iff.mp maxSizeTime.inRange
    rw [common_int64_secondType, inRange_secondType_iff hpos.le]
    split_ifs <;> omega
  rw [← hrange]
  refine gives_map_convert_mul_iff hfits ?_ ?_ hpos.le (by simp)
  · rw [common_int64_secondType]
    exact gst.second.inRange
  · rw [common_int64_secondType]
    cases gst.secondSigned <;> decide

/-! ## The files of `webrtc-sendonly` -/

theorem exists_maxsizetime_eq (gst : GstTime) {maxTime : CInt int32} (hpos : 0 < maxTime.val) :
    ∃ product : CInt uint64, product.val = maxTime.val * 60 ∧
      maxsizetime gst maxTime = (product.mul gst.second).map (convert uint64) := by
  have hmax := inRange_int32_iff.mp maxTime.inRange
  have hfits : uint64.InRange maxTime.val := inRange_uint64_iff.mpr (by omega)
  have hval : (maxTime.convert uint64).val = maxTime.val := convert_val hfits
  have hrange : uint64.InRange ((maxTime.convert uint64).val * 60) := by
    rw [hval, inRange_uint64_iff]
    omega
  obtain ⟨product, hproduct, heq⟩ :=
    (gives_mul_iff (y := (⟨60, by decide⟩ : CInt int64)) (maxTime.convert uint64).inRange
      (by decide)).mpr hrange
  refine ⟨product, heq.trans (congrArg (· * 60) hval), ?_⟩
  rw [maxsizetime, hproduct]
  rfl

theorem maxsizetime_gives_iff (gst : GstTime) {maxTime : CInt int32} (hpos : 0 < maxTime.val) :
    Gives (maxsizetime gst maxTime) (maxTime.val * 60 * 1000000000) ↔ maxTime.val ≤ 307445734 := by
  obtain ⟨product, hproduct, heq⟩ := exists_maxsizetime_eq gst hpos
  have hrange : (common uint64 (secondType gst.secondSigned)).InRange
      (maxTime.val * 60 * 1000000000) ↔ maxTime.val ≤ 307445734 := by
    rw [common_uint64_secondType, inRange_uint64_iff]
    omega
  rw [← hrange, heq, ← hproduct]
  refine gives_map_convert_mul_iff ?_ ?_ ?_ (by omega) (by simp)
  · rw [common_uint64_secondType]
    exact product.inRange
  · rw [common_uint64_secondType, gst.second_val]
    decide
  · rw [common_uint64_secondType]

/-- **The text.** A number below `2 ^ 63` is written as it is, and another as a negative one. -/
theorem readUInt64_percentLld_iff (gst : GstTime) (n : CInt uint64) :
    Gives (gst.readUInt64 (percentLld n)) n.val
      ↔ n.val < 9223372036854775808 ∨ gst.ReadsWrapped n.val := by
  have hrange := inRange_uint64_iff.mp n.inRange
  by_cases hlt : n.val < 9223372036854775808
  · have hval : (n.convert int64).val = n.val :=
      convert_val (inRange_int64_iff.mpr (by omega))
    have htext : percentLld n = Nat.toDigits 10 n.val.toNat := by
      rw [percentLld, hval]
      exact if_pos hrange.1
    rw [htext, gst.read_numeral]
    exact iff_of_true ⟨n, rfl, rfl⟩ (.inl hlt)
  · have hturn : int64.InRange (n.val - 18446744073709551616) :=
      inRange_int64_iff.mpr (by omega)
    have hval : (n.convert int64).val = n.val - 18446744073709551616 := by
      have hwrap := wrap_add_mul hturn 1
      rwa [show n.val - 18446744073709551616 + 2 ^ int64.bits * 1 = n.val from
        Int.sub_add_cancel _ _] at hwrap
    have htext : percentLld n
        = '-' :: Nat.toDigits 10 (18446744073709551616 - n.val).toNat := by
      have habs : (n.val - 18446744073709551616).natAbs
          = (18446744073709551616 - n.val).toNat := by omega
      rw [percentLld, hval, ← habs]
      exact if_neg (by omega)
    rw [htext, or_iff_right hlt, GstTime.ReadsWrapped]

/-- **The file of `webrtc-sendonly`.** -/
theorem sendonlyMaxSizeTime_iff (gst : GstTime) {maxTime : CInt int32} (hpos : 0 < maxTime.val) :
    Gives (sendonlyMaxSizeTime gst maxTime) (maxTime.val * 60 * 1000000000)
      ↔ maxTime.val ≤ 153722867 ∨ maxTime.val ≤ 307445734 ∧
        gst.ReadsWrapped (maxTime.val * 60 * 1000000000) := by
  rw [sendonlyMaxSizeTime, if_pos hpos]
  by_cases hle : maxTime.val ≤ 307445734
  · obtain ⟨ns, hns, hval⟩ := (maxsizetime_gives_iff gst hpos).mpr hle
    rw [hns, Option.bind_some, ← hval, readUInt64_percentLld_iff, and_iff_right hle, hval]
    refine or_congr_left ?_
    omega
  · refine iff_of_false (fun h ↦ hle ?_) (by omega)
    have hrange := inRange_uint64_iff.mp h.inRange
    omega

/-! ## All of them -/

/-- **What is handed on.** Each interval is the duration that was configured exactly if no product
on its way is too large, the driver of the camera has no command line of its own, and a text is read
back as it was meant. -/
theorem durations_iff (gst : GstTime) (specDrv : Option CString) (maxSizeTime recLen : CInt int64)
    (maxTime : CInt int32) (hmaxSizeTime : 0 < maxSizeTime.val) (hrecLen : 0 < recLen.val)
    (hmaxTime : 0 < maxTime.val) :
    (((readDurations maxSizeTime recLen).recLen.val = recLen.val ∧
        Gives (recordInterval (recordTime specDrv (readDurations maxSizeTime recLen)))
          (recLen.val * 1000))
      ↔ if specDrv = none then recLen.val ≤ 2147483 else recLen.val = 7) ∧
    (Gives (splitfileMaxSizeTime gst (readDurations maxSizeTime recLen))
        (maxSizeTime.val * 1000000000)
      ↔ maxSizeTime.val ≤ if gst.secondSigned then 9223372036 else 18446744073) ∧
    (Gives (sendonlyMaxSizeTime gst maxTime) (maxTime.val * 60 * 1000000000)
      ↔ maxTime.val ≤ 153722867 ∨ maxTime.val ≤ 307445734 ∧
        gst.ReadsWrapped (maxTime.val * 60 * 1000000000)) :=
  ⟨recordTime_iff specDrv maxSizeTime hrecLen, splitfileMaxSizeTime_iff gst recLen hmaxSizeTime,
    sendonlyMaxSizeTime_iff gst hmaxTime⟩

/-- The number of a numeral. -/
def numeral? (s : List Char) : Option ℕ :=
  if !s.isEmpty && s.all Char.isDigit then some (Nat.ofDigitChars 10 s 0) else none

/-- `strtoull` of a whole text, in decimal. A minus sign is taken modulo `2 ^ 64`, and a number that
is too large is none. -/
def strtoull (s : List Char) : Option (CInt uint64) :=
  (numeral? (if s.head? = some '-' then s.tail else s)).bind fun n ↦
    if uint64.InRange n then
      let n : ℤ := if s.head? = some '-' then -n else n
      some ⟨uint64.wrap n, uint64.inRange_wrap n⟩
    else none

theorem numeral?_toDigits (n : ℕ) : numeral? (Nat.toDigits 10 n) = some n := by
  have hne : (Nat.toDigits 10 n).isEmpty = false :=
    List.isEmpty_eq_false_iff.mpr Nat.toDigits_ne_nil
  have hdigits : (Nat.toDigits 10 n).all Char.isDigit = true := List.all_eq_true.mpr fun c hc ↦
    Nat.isDigit_of_mem_toDigits (by decide) (by decide) hc
  rw [numeral?, hne, hdigits, Nat.ofDigitChars_ten_toDigits]
  rfl

theorem strtoull_toDigits (n : CInt uint64) :
    strtoull (Nat.toDigits 10 n.val.toNat) = some n := by
  have hrange := n.inRange
  have hnat : (n.val.toNat : ℤ) = n.val := Int.toNat_of_nonneg hrange.1
  have hhead : (Nat.toDigits 10 n.val.toNat).head? ≠ some '-' := by
    intro h
    have hdigit := Nat.isDigit_of_mem_toDigits (by decide) (by decide) (List.mem_of_head? h)
    exact absurd hdigit (by decide)
  rw [strtoull, if_neg hhead, numeral?_toDigits, Option.bind_some, hnat, if_pos hrange]
  simp only [if_neg hhead, wrap_of_inRange hrange]

/-- GStreamer, which reads its texts with `strtoull`. -/
def gstreamer (secondSigned : Bool) : GstTime where
  secondSigned := secondSigned
  readUInt64 := strtoull
  read_numeral := strtoull_toDigits

theorem strtoull_minus {n : CInt uint64} {m : ℕ} (hm : m < 18446744073709551616)
    (hwrap : uint64.wrap (-m) = n.val) : strtoull ('-' :: Nat.toDigits 10 m) = some n := by
  have hrange : uint64.InRange m := inRange_uint64_iff.mpr (by omega)
  have hread : strtoull ('-' :: Nat.toDigits 10 m)
      = some ⟨uint64.wrap (-m), uint64.inRange_wrap _⟩ := by
    rw [strtoull, List.head?_cons, if_pos rfl, List.tail_cons, numeral?_toDigits,
      Option.bind_some, if_pos hrange]
    simp only [if_true]
  cases n with
  | mk n hn =>
    obtain rfl : uint64.wrap (-m) = n := hwrap
    exact hread

theorem readsWrapped_gstreamer (secondSigned : Bool) {n : ℤ} (hpos : 0 < n)
    (hlt : n < 18446744073709551616) : (gstreamer secondSigned).ReadsWrapped n := by
  have hrange : uint64.InRange n := inRange_uint64_iff.mpr ⟨hpos.le, hlt⟩
  obtain ⟨m, hm⟩ := Int.eq_ofNat_of_zero_le (by omega : 0 ≤ 18446744073709551616 - n)
  have hneg : (-m : ℤ) = n + 2 ^ uint64.bits * -1 := by
    have hpow : (2 : ℤ) ^ uint64.bits = 18446744073709551616 := rfl
    rw [hpow]
    omega
  refine ⟨⟨n, hrange⟩, ?_, rfl⟩
  rw [hm, Int.toNat_natCast]
  refine strtoull_minus (by omega) ?_
  rw [hneg, wrap_add_mul hrange]

/-- With it, the product alone decides. -/
theorem sendonlyMaxSizeTime_gstreamer_iff (secondSigned : Bool) {maxTime : CInt int32}
    (hpos : 0 < maxTime.val) :
    Gives (sendonlyMaxSizeTime (gstreamer secondSigned) maxTime) (maxTime.val * 60 * 1000000000)
      ↔ maxTime.val ≤ 307445734 := by
  rw [sendonlyMaxSizeTime_iff _ hpos]
  constructor
  · rintro (hle | ⟨hle, -⟩)
    · omega
    · exact hle
  · intro hle
    exact .inr ⟨hle, readsWrapped_gstreamer secondSigned (by omega) (by omega)⟩

/-- The durations of the configuration that comes with the program, and ten minutes. -/
theorem durations_gstreamer :
    Gives (recordInterval (recordTime none (readDurations ⟨20, by decide⟩ ⟨20, by decide⟩))) 20000 ∧
      Gives (splitfileMaxSizeTime (gstreamer true) (readDurations ⟨20, by decide⟩ ⟨20, by decide⟩))
        20000000000 ∧
      Gives (sendonlyMaxSizeTime (gstreamer true) ⟨10, by decide⟩) 600000000000 := by
  obtain ⟨hrecLen, hmaxSizeTime, hmaxTime⟩ := durations_iff (gstreamer true) none
    ⟨20, by decide⟩ ⟨20, by decide⟩ ⟨10, by decide⟩ (by decide) (by decide) (by decide)
  exact ⟨(hrecLen.mpr (by decide)).2, hmaxSizeTime.mpr (by decide), hmaxTime.mpr (.inl (by decide))⟩

/-- Twenty-five days, six hundred years and as many again. -/
theorem not_durations :
    ∃ (gst : GstTime) (specDrv : Option CString) (maxSizeTime recLen : CInt int64)
      (maxTime : CInt int32), 0 < maxSizeTime.val ∧ 0 < recLen.val ∧ 0 < maxTime.val ∧
        ¬ Gives (recordInterval (recordTime specDrv (readDurations maxSizeTime recLen)))
          (recLen.val * 1000) ∧
        ¬ Gives (splitfileMaxSizeTime gst (readDurations maxSizeTime recLen))
          (maxSizeTime.val * 1000000000) ∧
        ¬ Gives (sendonlyMaxSizeTime gst maxTime) (maxTime.val * 60 * 1000000000) := by
  refine ⟨gstreamer true, none, ⟨18446744074, by decide⟩, ⟨2147484, by decide⟩,
    ⟨307445735, by decide⟩, by decide, by decide, by decide, fun h ↦ ?_, fun h ↦ ?_, fun h ↦ ?_⟩
  · have hle := (recordInterval_recLen_iff (by decide)).mp ⟨by decide, h⟩
    exact absurd hle (by decide)
  · have hle := (splitfileMaxSizeTime_iff _ _ (by decide)).mp h
    exact absurd hle (by decide)
  · rcases (sendonlyMaxSizeTime_iff _ (by decide)).mp h with hle | ⟨hle, -⟩
    · exact absurd hle (by decide)
    · exact absurd hle (by decide)

end GstWebrtcCamera

import GstWebrtcCamera.Text.CString

/-!
# The choice of the video encoder

For `h265`, `vp8` and `vp9` the name of the encoder is found by trying names made from templates.
One template, `v4l2%enc`, lacks its `s`, and `%e` takes a `double` that nobody passed. When no name
is installed, the last one is returned, which the callers take for one that is. For `h264` there is
a list of its own.
-/

namespace GstWebrtcCamera

open CString

/-! ## Formatting a template -/

/-- The text of a `%e` conversion. It ends in a digit of the exponent, or is `inf` or `nan` with a
sign perhaps. -/
structure ConversionE where
  text : CString
  getLast?_ne : text.chars.getLast? ≠ some 'e'

/-- What `printf` writes with one name for every `%s`, and this for a `%e`. -/
def printFormat (conv : ConversionE) (name : CString) : List Char → List Char
  | '%' :: 's' :: rest => name.chars ++ printFormat conv name rest
  | '%' :: 'e' :: rest => conv.text.chars ++ printFormat conv name rest
  | c :: rest => c :: printFormat conv name rest
  | [] => []

/-- `g_strdup_printf(format, name)`. -/
def strdupPrintf (conv : ConversionE) (format : List Char) (name : CString) : CString :=
  cut (printFormat conv name format)

/-- What the choice depends on. -/
structure EncoderEnv where
  /-- `gst_element_factory_find`. -/
  installed : CString → Bool
  conv : ConversionE
  height : ℤ
  framerate : ℤ
  /-- What `get_video_driver_name` gives for the camera. There is none if the device cannot be
  opened or asked, which ends the program. -/
  driver : Option CString

/-- A value for `g_object_set`. -/
inductive Setting where
  | int (n : ℤ)
  | text (s : List Char)
  deriving DecidableEq

/-- An encoder as it is made. -/
structure BuiltEncoder where
  factory : CString
  settings : List (List Char × Setting) := []
  deriving DecidableEq

/-! ## The names -/

def hwEnc : List (List Char) :=
  [lit "va%slpenc", lit "va%senc", lit "vaapi%senc", lit "qsv%senc", lit "nvv4l2%senc",
    lit "v4l2%enc", lit "omx%senc"]

def sfEnc : List (List Char) := [lit "%senc", lit "avenc_%s_omx", lit "open%senc"]

/-- `tmp[0] = 'x'`. -/
def patchX (tmp : CString) : CString := cut ('x' :: tmp.chars.tail)

/-- `get_best_code_name`. -/
def getBestCodeName (env : EncoderEnv) (name : CString) : Option CString :=
  match (hwEnc.map (strdupPrintf env.conv · name)).find? env.installed with
  | some tmp => some tmp
  | none =>
    let patched :=
      if (lit "h26").isPrefixOf name.chars then [patchX (strdupPrintf env.conv (lit "%senc") name)]
      else []
    match patched.find? env.installed with
    | some tmp => some tmp
    | none =>
      let sf := sfEnc.map (strdupPrintf env.conv · name)
      -- `tmp` is still the last name
      (sf.find? env.installed).or sf.getLast?

/-- `get_exact_bitrate`. -/
def getExactBitrate (env : EncoderEnv) : ℤ :=
  if env.height = 1080 then if env.framerate ≥ 60 then 4000000 else 3000000
  else if env.height = 720 then if env.framerate ≥ 60 then 1380000 else 1000000
  else 8000

/-- `get_hardware_vp89_encoder`. -/
def getHardwareVp89Encoder (env : EncoderEnv) (name : CString) : Option BuiltEncoder :=
  match getBestCodeName env name with
  | none => none
  | some encname =>
    let bitrate := getExactBitrate env
    some
      { factory := encname
        settings :=
          if (lit "qsv").isPrefixOf encname.chars then
            [(lit "bitrate", .int (bitrate / 1000)), (lit "low-latency", .int 1)]
          else if (lit "vaapi").isPrefixOf encname.chars then
            [(lit "bitrate", .int (bitrate / 1000)), (lit "rate-control", .int 4),
              (lit "quality-level", .int 1), (lit "trellis", .int 1), (lit "tune", .int 3)]
          else [] }

/-- `get_hardware_h265_encoder`. -/
def getHardwareH265Encoder (env : EncoderEnv) : Option BuiltEncoder :=
  match getBestCodeName env (cut (lit "h265")) with
  | none => none
  | some encname =>
    let bitrate := getExactBitrate env
    some
      { factory := encname
        settings :=
          if (lit "nvv4l2").isPrefixOf encname.chars then
            [(lit "control-rate", .int 1), (lit "maxperf-enable", .int 1),
              (lit "bitrate", .int bitrate)]
          else [(lit "bitrate", .int (bitrate / 1000))] }

/-- `get_hardware_h264_encoder`: the encoders it knows, with what it sets. -/
def h264Encoders (env : EncoderEnv) : List BuiltEncoder :=
  let bitrate := getExactBitrate env
  [{ factory := cut (lit "vah264lpenc")
     settings :=
      [(lit "bitrate", .int (bitrate / 1000)), (lit "rate-control", .int 16), (lit "qpb", .int 14),
        (lit "key-int-max", .int 30), (lit "ref-frames", .int 1), (lit "b-frames", .int 2)] },
    { factory := cut (lit "vaapih264enc"), settings := [(lit "bitrate", .int (bitrate / 1000))] },
    { factory := cut (lit "nvh264enc") },
    { factory := cut (lit "nvcudah264enc") },
    { factory := cut (lit "nvv4l2h264enc")
      settings :=
        [(lit "control-rate", .int 0), (lit "maxperf-enable", .int 1), (lit "preset-level", .int 4),
          (lit "iframeinterval", .text (lit "1000")), (lit "vbv-size", .int 100),
          (lit "qp-range", .text (lit "1,51:1,51:1,51")),
          (lit "bitrate", .int (if env.driver = cut (lit "uvcvideo") then 800000 else 12000000))] },
    { factory := cut (lit "v4l2h264enc") },
    { factory := cut (lit "x264enc")
      settings := [(lit "speed-preset", .int 4), (lit "tune", .int 2)] }]

/-- `get_hardware_h264_encoder`, if it returns. -/
def getHardwareH264Encoder (env : EncoderEnv) : Option BuiltEncoder :=
  (h264Encoders env).find? fun e ↦ env.installed e.factory

/-- It asks for the driver of the camera, to set the bitrate. -/
def asksDriver (env : EncoderEnv) : Bool :=
  (getHardwareH264Encoder env).any fun e ↦ e.factory = cut (lit "nvv4l2h264enc")

/-! ## The order of preference -/

/-- A codec name with text around it. -/
def around (before after : String) (name : CString) : CString :=
  cut (lit before ++ name.chars ++ lit after)

/-- The hardware encoders that come before the V4L2 one. -/
def earlyNames (name : CString) : List CString :=
  [around "va" "lpenc" name, around "va" "enc" name, around "vaapi" "enc" name,
    around "qsv" "enc" name, around "nvv4l2" "enc" name]

/-- `x264enc` and its like, for the codecs of that family. -/
def patchedNames (name : CString) : List CString :=
  if (lit "h26").isPrefixOf name.chars then [cut ('x' :: (name.chars.tail ++ lit "enc"))] else []

def softwareNames (name : CString) : List CString :=
  [around "" "enc" name, around "avenc_" "_omx" name, around "open" "enc" name]

/-- The encoders that come behind it. -/
def laterNames (name : CString) : List CString :=
  around "omx" "enc" name :: (patchedNames name ++ softwareNames name)

/-- The names of encoders for a codec, the best first. -/
def encoderNames (name : CString) : List CString :=
  earlyNames name ++ around "v4l2" "enc" name :: laterNames name

/-- What the malformed template gives. -/
def malformed (conv : ConversionE) : CString := cut (lit "v4l2" ++ conv.text.chars ++ lit "nc")

theorem strdupPrintf_around (conv : ConversionE) (name : CString) :
    hwEnc.map (strdupPrintf conv · name)
      = earlyNames name ++ [malformed conv, around "omx" "enc" name] := by
  simp [hwEnc, strdupPrintf, printFormat, lit, earlyNames, around, malformed]

theorem sfEnc_around (conv : ConversionE) (name : CString) :
    sfEnc.map (strdupPrintf conv · name) = softwareNames name := by
  simp [sfEnc, strdupPrintf, printFormat, lit, around, softwareNames]

theorem chars_around {before after : String} (hbefore : '\x00' ∉ lit before)
    (hafter : '\x00' ∉ lit after) (name : CString) :
    (around before after name).chars = lit before ++ name.chars ++ lit after := by
  refine chars_cut ?_
  simp [hbefore, hafter, name.noNul]

theorem chars_malformed (conv : ConversionE) :
    (malformed conv).chars = lit "v4l2" ++ conv.text.chars ++ lit "nc" := by
  refine chars_cut ?_
  simp [lit, conv.text.noNul]

theorem patchX_eq (conv : ConversionE) {name : CString}
    (h : (lit "h26").isPrefixOf name.chars = true) :
    patchX (strdupPrintf conv (lit "%senc") name)
      = cut ('x' :: (name.chars.tail ++ lit "enc")) := by
  have hchars : (strdupPrintf conv (lit "%senc") name).chars = name.chars ++ lit "enc" := by
    have hprint : printFormat conv name (lit "%senc") = name.chars ++ lit "enc" := by
      simp [printFormat, lit]
    rw [strdupPrintf, hprint]
    refine chars_cut ?_
    simp [lit, name.noNul]
  have hne : name.chars ≠ [] := by
    intro hnil
    rw [hnil] at h
    simp [lit] at h
  rw [patchX, hchars, List.tail_append_of_ne_nil hne]

/-- **The search as one list.** -/
theorem getBestCodeName_eq (env : EncoderEnv) (name : CString) :
    getBestCodeName env name
      = ((earlyNames name ++ malformed env.conv :: laterNames name).find? env.installed).or
          (some (around "open" "enc" name)) := by
  have hpatched : (if (lit "h26").isPrefixOf name.chars then
        [patchX (strdupPrintf env.conv (lit "%senc") name)] else []) = patchedNames name := by
    rw [patchedNames]
    by_cases h : (lit "h26").isPrefixOf name.chars = true
    · rw [if_pos h, if_pos h, patchX_eq env.conv h]
    · rw [if_neg h, if_neg h]
  have happend : ∀ l l' : List CString, (l ++ l').find? env.installed
      = (l.find? env.installed).or (l'.find? env.installed) := fun _ _ ↦ List.find?_append
  have hlist : earlyNames name ++ malformed env.conv :: laterNames name
      = (earlyNames name ++ [malformed env.conv, around "omx" "enc" name]) ++
        (patchedNames name ++ softwareNames name) := by
    rw [laterNames, List.append_assoc]
    rfl
  rw [getBestCodeName, strdupPrintf_around, sfEnc_around, hpatched, hlist,
    happend _ (patchedNames name ++ _), happend (patchedNames name)]
  rcases (earlyNames name ++ [malformed env.conv, around "omx" "enc" name]).find? env.installed
    with _ | tmp
  · rcases hfind : (patchedNames name).find? env.installed with _ | tmp
    · simp [hfind, softwareNames]
    · simp [hfind]
  · rfl

/-! ## When the best is chosen -/

theorem find?_or_eq_find?_iff {α : Type*} {p : α → Bool} {early later : List α} {good bad last : α}
    (hlast : last ∈ later) (hne : bad ≠ good) (hbad : bad ∉ later) (hgood : good ∉ later) :
    ((early ++ bad :: later).find? p).or (some last) = (early ++ good :: later).find? p
      ↔ (∃ c ∈ early, p c = true) ∨ p good = false ∧ p bad = false ∧ ∃ c ∈ later, p c = true := by
  have hfind : ∀ l : List α, l.find? p = none ↔ ¬ ∃ c ∈ l, p c = true := by
    intro l
    simp [List.find?_eq_none]
  rw [List.find?_append, List.find?_append]
  by_cases hearly : ∃ c ∈ early, p c = true
  · obtain ⟨a, ha⟩ := Option.ne_none_iff_exists'.mp (mt (hfind early).mp (not_not.mpr hearly))
    simp [ha, hearly]
  · rw [or_iff_right hearly, (hfind early).mpr hearly, Option.none_or, Option.none_or]
    by_cases hpbad : p bad = true
    · -- the bad name is found, and nothing else finds it
      rw [List.find?_cons_of_pos hpbad, Option.some_or]
      refine iff_of_false (fun heq ↦ ?_) fun h ↦ by simp [hpbad] at h
      rcases List.mem_cons.mp (List.mem_of_find?_eq_some heq.symm) with h | h
      · exact hne h
      · exact hbad h
    · rw [List.find?_cons_of_neg hpbad]
      by_cases hpgood : p good = true
      · rw [List.find?_cons_of_pos hpgood]
        refine iff_of_false (fun heq ↦ ?_) fun h ↦ by simp [hpgood] at h
        rcases hb : later.find? p with _ | b
        · rw [hb, Option.none_or, Option.some.injEq] at heq
          exact hgood (heq ▸ hlast)
        · rw [hb, Option.some_or, Option.some.injEq] at heq
          exact hgood (heq ▸ List.mem_of_find?_eq_some hb)
      · rw [List.find?_cons_of_neg hpgood]
        by_cases hlater : ∃ c ∈ later, p c = true
        · obtain ⟨b, hb⟩ := Option.ne_none_iff_exists'.mp (mt (hfind later).mp (not_not.mpr hlater))
          simp [hb, hlater, hpgood, hpbad]
        · rw [(hfind later).mpr hlater]
          simp [hlater]

/-- The malformed name is none that ends in `enc`: there is no `e` before its `nc`. -/
theorem malformed_ne (conv : ConversionE) {s : CString} {l : List Char}
    (hs : s.chars = l ++ lit "enc") : malformed conv ≠ s := by
  intro h
  have hchars : lit "v4l2" ++ conv.text.chars ++ lit "nc" = (l ++ lit "e") ++ lit "nc" := by
    rw [← chars_malformed, h, hs, List.append_assoc]
    simp [lit]
  have hlast := congrArg List.getLast? (List.append_cancel_right hchars)
  rw [List.getLast?_append] at hlast
  rcases htext : conv.text.chars.getLast? with _ | c
  · simp [htext, lit] at hlast
  · refine conv.getLast?_ne (htext.trans ?_)
    simpa [htext, lit] using hlast

theorem mem_laterNames {name s : CString} (h : s ∈ laterNames name) :
    s.chars = lit "omx" ++ name.chars ++ lit "enc" ∨
      s.chars = 'x' :: (name.chars.tail ++ lit "enc") ∨ s.chars = name.chars ++ lit "enc" ∨
      s.chars = lit "avenc_" ++ name.chars ++ lit "_omx" ∨
      s.chars = lit "open" ++ name.chars ++ lit "enc" := by
  have hempty : lit "" = [] := by simp [lit]
  have hpatched : (cut ('x' :: (name.chars.tail ++ lit "enc"))).chars
      = 'x' :: (name.chars.tail ++ lit "enc") := by
    refine chars_cut ?_
    have htail : '\x00' ∉ name.chars.tail := fun h ↦ name.noNul (List.mem_of_mem_tail h)
    simp [lit, htail]
  simp only [laterNames, patchedNames, softwareNames, List.mem_cons, List.mem_append,
    List.not_mem_nil, or_false] at h
  rcases h with rfl | hx | rfl | rfl | rfl
  · exact .inl (chars_around (by simp [lit]) (by simp [lit]) name)
  · split at hx
    · rw [List.mem_singleton] at hx
      exact .inr (.inl (hx ▸ hpatched))
    · exact absurd hx List.not_mem_nil
  · refine .inr (.inr (.inl ?_))
    rw [chars_around (by simp [lit]) (by simp [lit]), hempty, List.nil_append]
  · exact .inr (.inr (.inr (.inl (chars_around (by simp [lit]) (by simp [lit]) name))))
  · exact .inr (.inr (.inr (.inr (chars_around (by simp [lit]) (by simp [lit]) name))))

theorem malformed_notMem_laterNames (conv : ConversionE) (name : CString) :
    malformed conv ∉ laterNames name := by
  intro hmem
  rcases mem_laterNames hmem with h | h | h | h | h
  · exact malformed_ne conv h rfl
  · exact malformed_ne conv (l := 'x' :: name.chars.tail) (by rw [h, List.cons_append]) rfl
  · exact malformed_ne conv h rfl
  · rw [chars_malformed] at h
    simp [lit] at h
  · exact malformed_ne conv h rfl

theorem v4l2_notMem_laterNames (name : CString) :
    around "v4l2" "enc" name ∉ laterNames name := by
  intro hmem
  have hchars : (around "v4l2" "enc" name).chars = lit "v4l2" ++ name.chars ++ lit "enc" :=
    chars_around (by simp [lit]) (by simp [lit]) name
  rcases mem_laterNames hmem with h | h | h | h | h
  · simp [hchars, lit] at h
  · simp [hchars, lit] at h
  · have hlength := congrArg List.length (hchars.symm.trans h)
    simp only [lit, List.length_append] at hlength
    exact absurd hlength (by simp)
  · simp [hchars, lit] at h
  · simp [hchars, lit] at h

theorem mem_laterNames_open (name : CString) : around "open" "enc" name ∈ laterNames name := by
  simp [laterNames, softwareNames]

theorem installed_of_find?_encoderNames {env : EncoderEnv} {name encname : CString}
    (hbest : getBestCodeName env name = (encoderNames name).find? env.installed)
    (h : getBestCodeName env name = some encname) : env.installed encname = true :=
  List.find?_some (hbest.symm.trans h)

/-- The condition under which the search does what it should. -/
def EncoderEnv.FindsBest (env : EncoderEnv) (name : CString) : Prop :=
  (∃ c ∈ earlyNames name, env.installed c = true) ∨
    env.installed (around "v4l2" "enc" name) = false ∧ env.installed (malformed env.conv) = false ∧
      ∃ c ∈ laterNames name, env.installed c = true

theorem getBestCodeName_eq_find?_iff (env : EncoderEnv) (name : CString) :
    getBestCodeName env name = (encoderNames name).find? env.installed ↔ env.FindsBest name := by
  rw [getBestCodeName_eq, encoderNames, EncoderEnv.FindsBest]
  refine find?_or_eq_find?_iff (mem_laterNames_open name) ?_
    (malformed_notMem_laterNames env.conv name) (v4l2_notMem_laterNames name)
  exact malformed_ne env.conv (chars_around (by simp [lit]) (by simp [lit]) name)

/-- **The encoder of a codec.** The best name is found, and the encoders are made from names that
exist, exactly if one of the first five names is installed, or neither the V4L2 name nor the
malformed one is but a later one. -/
theorem bestEncoder_iff (env : EncoderEnv) (name : CString) :
    (getBestCodeName env name = (encoderNames name).find? env.installed ∧
      (∀ e ∈ getHardwareVp89Encoder env name, env.installed e.factory = true) ∧
      (name = cut (lit "h265") → ∀ e ∈ getHardwareH265Encoder env,
        env.installed e.factory = true)) ↔ env.FindsBest name := by
  rw [← getBestCodeName_eq_find?_iff]
  refine and_iff_left_of_imp fun hbest ↦ ⟨fun e he ↦ ?_, ?_⟩
  · rw [getHardwareVp89Encoder] at he
    rcases hname : getBestCodeName env name with _ | encname
    · simp [hname] at he
    · simp only [hname, Option.mem_some_iff] at he
      exact he ▸ installed_of_find?_encoderNames hbest hname
  · rintro rfl e he
    rw [getHardwareH265Encoder] at he
    rcases hname : getBestCodeName env (cut (lit "h265")) with _ | encname
    · simp [hname] at he
    · simp only [hname, Option.mem_some_iff] at he
      exact he ▸ installed_of_find?_encoderNames hbest hname

/-- A registry with nothing in it. -/
def bareEnv : EncoderEnv where
  installed _ := false
  conv := ⟨cut (lit "0.000000e+00"), by simp [lit, cut]⟩
  height := 1080
  framerate := 30
  driver := some (cut (lit "uvcvideo"))

/-- With nothing installed, an encoder is made from `openvp9enc`. -/
theorem not_bestEncoder :
    ∃ (env : EncoderEnv) (name : CString), (∀ s, env.installed s = false) ∧
      getBestCodeName env name ≠ (encoderNames name).find? env.installed ∧
      ∃ e ∈ getHardwareVp89Encoder env name, env.installed e.factory = false := by
  have hnone : ∀ l : List CString, l.find? bareEnv.installed = none :=
    fun l ↦ List.find?_eq_none.mpr fun _ _ ↦ Bool.false_ne_true
  have hname : getBestCodeName bareEnv (cut (lit "vp9"))
      = some (around "open" "enc" (cut (lit "vp9"))) := by
    rw [getBestCodeName_eq, hnone, Option.none_or]
  refine ⟨bareEnv, cut (lit "vp9"), fun _ ↦ rfl, by simp [hname, hnone], ?_⟩
  rw [getHardwareVp89Encoder, hname]
  exact ⟨_, rfl, rfl⟩

end GstWebrtcCamera

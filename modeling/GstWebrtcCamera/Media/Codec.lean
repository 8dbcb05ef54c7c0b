import GstWebrtcCamera.Media.Encoder

/-!
# The codec of the configuration

`videnc` of the configuration names a codec, and three parts of the program read it.
`read_config_json` looks at how it ends, `get_video_encoder_by_name` at how it begins, and the RTP
elements are named after the whole of it. They agree on the four names themselves, and on what is
replaced by `h264`.
-/

namespace GstWebrtcCamera

open CString

def videoEncodecs : List CString :=
  [cut (lit "h264"), cut (lit "h265"), cut (lit "vp9"), cut (lit "vp8")]

/-- What `read_config_json` makes of `videnc`, which may be missing. -/
def readVidenc (videnc : Option CString) : CString :=
  match videnc with
  | none => cut (lit "h264")
  | some s => if videoEncodecs.any fun c ↦ c.chars.isSuffixOf s.chars then s else cut (lit "h264")

/-- The functions `get_video_encoder_by_name` chooses from. -/
inductive EncoderFamily where
  | h264
  | h265
  | vp89 (name : CString)
  deriving DecidableEq

/-- The choice of `get_video_encoder_by_name`. -/
def videoEncoderFamily (name : CString) : EncoderFamily :=
  if (lit "h264").isPrefixOf name.chars then .h264
  else if (lit "h265").isPrefixOf name.chars then .h265
  else if (lit "vp").isPrefixOf name.chars then .vp89 name
  else .h264

def EncoderFamily.build (env : EncoderEnv) : EncoderFamily → Option BuiltEncoder
  | .h264 => getHardwareH264Encoder env
  | .h265 => getHardwareH265Encoder env
  | .vp89 name => getHardwareVp89Encoder env name

/-- `get_video_encoder_by_name`. -/
def getVideoEncoderByName (env : EncoderEnv) (name : CString) : Option BuiltEncoder :=
  (videoEncoderFamily name).build env

/-- The codec the encoders of a family are for. -/
def EncoderFamily.codec : EncoderFamily → CString
  | .h264 => cut (lit "h264")
  | .h265 => cut (lit "h265")
  | .vp89 name => name

/-- `get_rtp_args`. -/
def getRtpArgs (videnc : CString) : CString :=
  if videnc ≠ cut (lit "vp8") then
    cut (lit "rtp" ++ videnc.chars ++ lit "depay ! " ++ videnc.chars ++ lit "parse")
  else around "rtp" "depay " videnc

/-- An element of a chain, and what is set on it. -/
structure ChainElement where
  factory : CString
  settings : List (List Char × Setting) := []
  deriving DecidableEq

/-- The video elements of `start_av_udpsink` between the queue and the sink. -/
def avUdpsinkVideo (videnc : CString) : List ChainElement :=
  let pay : ChainElement :=
    { factory := around "rtp" "pay" videnc
      settings :=
        if (lit "h26").isPrefixOf videnc.chars then
          [(lit "config-interval", .int (-1)), (lit "aggregate-mode", .int 1)]
        else [] }
  if videnc ≠ cut (lit "vp8") then [{ factory := around "" "parse" videnc }, pay] else [pay]

/-- The elements made after `videnc` name this codec. -/
structure NamesCodec (videnc codec : CString) : Prop where
  rtpArgs : (getRtpArgs videnc).chars = lit "rtp" ++ codec.chars ++ lit "depay " ∨
    (getRtpArgs videnc).chars
      = lit "rtp" ++ codec.chars ++ lit "depay ! " ++ codec.chars ++ lit "parse"
  pay : (avUdpsinkVideo videnc).getLast?.map ChainElement.factory = some (around "rtp" "pay" codec)
  parse : ∀ e ∈ (avUdpsinkVideo videnc).dropLast, e.factory = around "" "parse" codec

theorem namesCodec_self (codec : CString) : NamesCodec codec codec := by
  by_cases h : codec = cut (lit "vp8")
  · refine ⟨.inl ?_, by simp [avUdpsinkVideo, h], by simp [avUdpsinkVideo, h]⟩
    rw [getRtpArgs, if_neg (not_not.mpr h)]
    exact chars_around (by simp [lit]) (by simp [lit]) codec
  · refine ⟨.inr ?_, by simp [avUdpsinkVideo, h], by simp [avUdpsinkVideo, h]⟩
    rw [getRtpArgs, if_pos h]
    refine chars_cut ?_
    simp [lit, codec.noNul]

theorem videoEncoderFamily_codec {c : CString} (hc : c ∈ videoEncodecs) :
    (videoEncoderFamily c).codec = c := by
  simp only [videoEncodecs, List.mem_cons, List.not_mem_nil, or_false] at hc
  rcases hc with rfl | rfl | rfl | rfl <;> decide +kernel

theorem readVidenc_some (s : CString) :
    readVidenc (some s)
      = if ∃ c ∈ videoEncodecs, c.chars <:+ s.chars then s else cut (lit "h264") := by
  simp [readVidenc, List.any_eq_true, List.isSuffixOf_iff_suffix]

theorem mem_videoEncodecs_h264 : cut (lit "h264") ∈ videoEncodecs := List.mem_cons_self

/-- **One codec.** The three readings of a string agree, and what is no codec is replaced, exactly
if the string is a codec or ends in none. -/
theorem readVidenc_iff (s : CString) :
    ((∃ c ∈ videoEncodecs, (videoEncoderFamily (readVidenc (some s))).codec = c ∧
        NamesCodec (readVidenc (some s)) c) ∧
      (s ∉ videoEncodecs → readVidenc (some s) = cut (lit "h264"))) ↔
      s ∈ videoEncodecs ∨ ∀ c ∈ videoEncodecs, ¬ c.chars <:+ s.chars := by
  rw [readVidenc_some]
  constructor
  · rintro ⟨-, hreplaced⟩
    by_contra hnot
    push Not at hnot
    obtain ⟨hs, hsuffix⟩ := hnot
    have heq := hreplaced hs
    rw [if_pos hsuffix] at heq
    exact hs (heq ▸ mem_videoEncodecs_h264)
  · intro h
    have hmem : (if ∃ c ∈ videoEncodecs, c.chars <:+ s.chars then s else cut (lit "h264"))
        ∈ videoEncodecs := by
      split
      · next hsuffix =>
        obtain ⟨c, hc, hcs⟩ := hsuffix
        exact h.resolve_right fun hnone ↦ hnone c hc hcs
      · exact mem_videoEncodecs_h264
    refine ⟨⟨_, hmem, videoEncoderFamily_codec hmem, namesCodec_self _⟩, fun hs ↦ ?_⟩
    rw [if_neg]
    rintro ⟨c, hc, hcs⟩
    exact h.resolve_left hs c hc hcs

/-- `h265vp9` passes for a codec. An H.265 encoder is made for it, and `rtph265vp9pay` after it. -/
theorem not_readVidenc :
    ∃ s : CString, s ∉ videoEncodecs ∧ readVidenc (some s) = s ∧
      videoEncoderFamily s = .h265 ∧ ¬ ∃ c ∈ videoEncodecs, (videoEncoderFamily s).codec = c ∧
        NamesCodec s c := by
  refine ⟨cut (lit "h265vp9"), by decide +kernel, by decide +kernel, by decide +kernel, ?_⟩
  rintro ⟨c, -, rfl, hnames⟩
  exact absurd hnames.pay (by decide +kernel)

end GstWebrtcCamera

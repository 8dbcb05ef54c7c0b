import Mathlib.Data.List.DropRight
import Mathlib.Data.List.TakeWhile

/-!
# Preferring a codec

The page fills a selector with the codecs a browser can send, each as one text, and `createSender`
splits the text of the chosen option again to find the codec and put it first. The text is put
together with spaces, and the parameters of a codec may contain some. A codec that is not found has
the index `-1`, with which `splice` removes the last codec of the list and the first is `undefined`.
-/

namespace GstWebrtcCamera

/-- A codec as `RTCRtpSender.getCapabilities` describes it. -/
structure Codec where
  mimeType : List Char
  sdpFmtpLine : Option (List Char)
  clockRate : ℕ
  channels : Option ℕ := none
  mimeType_noSpace : ' ' ∉ mimeType
  sdpFmtpLine_trimmed : ∀ t ∈ sdpFmtpLine, t.head? ≠ some ' ' ∧ t.getLast? ≠ some ' '
  deriving DecidableEq

/-- What `trim` takes away: white space and line terminators. -/
def isTrimmed (c : Char) : Bool :=
  c.toNat ∈ [0x09, 0x0A, 0x0B, 0x0C, 0x0D, 0x20, 0xA0, 0x1680, 0x2028, 0x2029, 0x202F, 0x205F,
    0x3000, 0xFEFF] || 0x2000 ≤ c.toNat && c.toNat ≤ 0x200A

/-- `String.prototype.trim`. -/
def trim (s : List Char) : List Char := (s.dropWhile isTrimmed).rdropWhile isTrimmed

namespace Codec

/-- The mime types `getSupportedVideoSize` leaves out. -/
def hiddenTypes : List (List Char) :=
  ["video/red".toList, "video/ulpfec".toList, "video/rtx".toList]

/-- The codecs in the selector. -/
def offered (codecs : List Codec) : List Codec := codecs.filter (·.mimeType ∉ hiddenTypes)

/-- `option.value`. -/
def optionValue (c : Codec) : List Char := trim (c.mimeType ++ ' ' :: c.sdpFmtpLine.getD [])

end Codec

/-- `[mimeType, sdpFmtpLine] = value.split(' ')`. -/
def splitOption (value : List Char) : Option (List Char) × Option (List Char) :=
  let parts := value.splitOn ' '
  (parts[0]?, parts[1]?)

/-- The codec has what was split from an option. -/
def Codec.matchesOption (value : List Char) (c : Codec) : Bool :=
  some c.mimeType = (splitOption value).1 && c.sdpFmtpLine = (splitOption value).2

/-- The list `createSender` computes for the chosen option, unless no codec is preferred. -/
def preferCodecs (value : List Char) (codecs : List Codec) : Option (List (Option Codec)) :=
  if value = [] then none
  else
    match codecs.findIdx? (·.matchesOption value) with
    | some i => some (codecs[i]? :: (codecs.eraseIdx i).map some)
    -- `splice(-1, 1)` removes the last
    | none => some (none :: codecs.dropLast.map some)

/-- A codec like this one comes first, and the others follow in their order. -/
def PutsFirst (codecs : List Codec) (c : Codec) (result : Option (List (Option Codec))) : Prop :=
  ∃ before d behind, codecs = before ++ d :: behind ∧ d.mimeType = c.mimeType ∧
    d.sdpFmtpLine = c.sdpFmtpLine ∧ result = some ((d :: (before ++ behind)).map some)

/-! ## Where the choice is found -/

theorem putsFirst_iff {codecs : List Codec} {c : Codec} (hc : c ∈ codecs) :
    PutsFirst codecs c (preferCodecs c.optionValue codecs)
      ↔ c.optionValue ≠ [] ∧ splitOption c.optionValue = (some c.mimeType, c.sdpFmtpLine) := by
  rw [preferCodecs]
  by_cases hempty : c.optionValue = []
  · rw [if_pos hempty]
    refine iff_of_false ?_ fun h ↦ h.1 hempty
    rintro ⟨before, d, behind, -, -, -, hresult⟩
    contradiction
  rw [if_neg hempty, and_iff_right hempty]
  have hmatches : ∀ d : Codec, d.matchesOption c.optionValue = true
      ↔ splitOption c.optionValue = (some d.mimeType, d.sdpFmtpLine) := by
    intro d
    rw [Codec.matchesOption, Bool.and_eq_true, decide_eq_true_iff, decide_eq_true_iff,
      Prod.ext_iff, eq_comm, eq_comm (b := (splitOption c.optionValue).2)]
  rcases hfind : codecs.findIdx? (·.matchesOption c.optionValue) with _ | i
  · -- the first of the list is undefined
    have hnone := List.findIdx?_eq_none_iff.mp hfind c hc
    simp only [hfind]
    refine iff_of_false ?_ fun h ↦ ?_
    · rintro ⟨before, d, behind, -, -, -, hresult⟩
      simp at hresult
    · rw [(hmatches c).mpr h] at hnone
      contradiction
  · obtain ⟨hi, hmatch, -⟩ := List.findIdx?_eq_some_iff_getElem.mp hfind
    rw [hmatches] at hmatch
    simp only [hfind, List.getElem?_eq_getElem hi]
    constructor
    · rintro ⟨before, d, behind, -, hmime, hfmtp, hresult⟩
      obtain rfl : codecs[i] = d := by simpa using (List.cons.inj (Option.some.inj hresult)).1
      rw [hmatch, hmime, hfmtp]
    · intro h
      rw [h, Prod.mk.injEq, Option.some.injEq] at hmatch
      refine ⟨codecs.take i, codecs[i], codecs.drop (i + 1), ?_, hmatch.1.symm, hmatch.2.symm, ?_⟩
      · rw [← List.drop_eq_getElem_cons hi, List.take_append_drop]
      · rw [List.eraseIdx_eq_take_drop_succ, List.map_cons]

/-! ## When the text reads back -/

theorem forall_ne_space {s : List Char} (h : ' ' ∉ s) : ∀ c ∈ s, decide (c ≠ ' ') = true :=
  fun _ hc ↦ decide_eq_true (ne_of_mem_of_not_mem hc h)

theorem getElem?_zero_splitOn (s : List Char) :
    (s.splitOn ' ')[0]? = some (s.takeWhile (· ≠ ' ')) := by
  by_cases h : ' ' ∈ s
  · obtain ⟨a, b, rfl, ha⟩ := List.eq_append_cons_of_mem h
    rw [List.splitOn_append_cons_self_of_not_mem ha,
      List.takeWhile_append_of_pos (forall_ne_space ha), List.takeWhile_cons_of_neg (by simp)]
    simp
  · rw [List.splitOn_eq_singleton h, List.takeWhile_eq_self_iff.mpr (forall_ne_space h)]
    rfl

theorem splitOption_of_notMem {s : List Char} (h : ' ' ∉ s) : splitOption s = (some s, none) := by
  rw [splitOption, List.splitOn_eq_singleton h]
  rfl

theorem splitOption_append {s : List Char} (h : ' ' ∉ s) (r : List Char) :
    splitOption (s ++ ' ' :: r) = (some s, some (r.takeWhile (· ≠ ' '))) := by
  rw [splitOption, List.splitOn_append_cons_self_of_not_mem h, ← getElem?_zero_splitOn]
  rfl

theorem rdropWhile_append (s r : List Char) :
    (s ++ r).rdropWhile isTrimmed
      = if r.rdropWhile isTrimmed = [] then s.rdropWhile isTrimmed
        else s ++ r.rdropWhile isTrimmed := by
  rw [List.rdropWhile, List.reverse_append, List.dropWhile_append, List.rdropWhile, List.rdropWhile]
  by_cases h : r.reverse.dropWhile isTrimmed = []
  · rw [if_pos (by simp [h]), if_pos (by simp [h])]
  · rw [if_neg (by simpa using h), if_neg (by simpa using h), List.reverse_append,
      List.reverse_reverse]

theorem takeWhile_rdropWhile_eq_iff (t : List Char) :
    (t.rdropWhile isTrimmed).takeWhile (· ≠ ' ') = t ↔ ' ' ∉ t ∧ t.rdropWhile isTrimmed = t := by
  constructor
  · intro htake
    have hspace : ' ' ∉ t := by
      intro hmem
      rw [← htake] at hmem
      exact absurd (List.mem_takeWhile_imp hmem) (by decide)
    have hle : t <+: t.rdropWhile isTrimmed := by
      conv_lhs => rw [← htake]
      exact List.takeWhile_prefix _
    exact ⟨hspace, (List.rdropWhile_prefix isTrimmed t).eq_of_length_le hle.length_le⟩
  · rintro ⟨hspace, heq⟩
    rw [heq, List.takeWhile_eq_self_iff.mpr (forall_ne_space hspace)]

theorem exists_getLast?_iff (s : List Char) :
    (∃ last ∈ s.getLast?, isTrimmed last = false) ↔ s ≠ [] ∧ s.rdropWhile isTrimmed = s := by
  rw [List.rdropWhile_eq_self_iff]
  rcases List.eq_nil_or_concat s with rfl | ⟨s, c, rfl⟩
  · simp
  · simp

theorem head_trim {s : List Char} {c : Char} {r : List Char} (h : trim s = c :: r) :
    isTrimmed c = false := by
  obtain ⟨tail, htail⟩ := List.rdropWhile_prefix isTrimmed (s.dropWhile isTrimmed)
  rw [← trim, h] at htail
  have hnot := List.head?_dropWhile_not isTrimmed s
  rw [← htail] at hnot
  simpa using hnot

/-- The mime type begins with something else than white space. Without parameters it also ends so.
Otherwise the parameters do, and contain no space. -/
def Codec.ReadsBack (c : Codec) : Prop :=
  (∃ first ∈ c.mimeType.head?, isTrimmed first = false) ∧
    match c.sdpFmtpLine with
    | none => ∃ last ∈ c.mimeType.getLast?, isTrimmed last = false
    | some t => ' ' ∉ t ∧ ∃ last ∈ t.getLast?, isTrimmed last = false

namespace Codec

variable {c : Codec}

/-- An option that splits into the mime type begins as the mime type does. -/
theorem head_of_splitOption (hne : c.optionValue ≠ [])
    (h : (splitOption c.optionValue).1 = some c.mimeType) :
    ∃ first ∈ c.mimeType.head?, isTrimmed first = false := by
  obtain ⟨first, rest, hvalue⟩ := List.exists_cons_of_ne_nil hne
  have hfirst := head_trim hvalue
  have hspace : first ≠ ' ' := by
    rintro rfl
    exact absurd hfirst (by decide)
  have hmime : c.optionValue.takeWhile (· ≠ ' ') = c.mimeType := by
    rw [splitOption, getElem?_zero_splitOn] at h
    exact Option.some.inj h
  rw [hvalue, List.takeWhile_cons_of_pos (by simpa using hspace)] at hmime
  exact ⟨first, by rw [← hmime]; rfl, hfirst⟩

theorem optionValue_eq (h : ∃ first ∈ c.mimeType.head?, isTrimmed first = false) :
    c.optionValue
      = (c.mimeType ++ ' ' :: c.sdpFmtpLine.getD []).rdropWhile isTrimmed := by
  obtain ⟨first, hfirst, htrimmed⟩ := h
  obtain ⟨rest, hmime⟩ := List.head?_eq_some_iff.mp hfirst
  rw [optionValue, trim, hmime, List.cons_append, List.dropWhile_cons_of_neg (by simp [htrimmed])]

theorem reads_iff :
    (c.optionValue ≠ [] ∧ splitOption c.optionValue = (some c.mimeType, c.sdpFmtpLine))
      ↔ c.ReadsBack := by
  by_cases hhead : ∃ first ∈ c.mimeType.head?, isTrimmed first = false
  · have hmimene : c.mimeType ≠ [] := by
      rintro hnil
      simp [hnil] at hhead
    have hspace : isTrimmed ' ' = true := by decide
    have hmime : ' ' ∉ c.mimeType.rdropWhile isTrimmed := fun h ↦
      c.mimeType_noSpace ((List.rdropWhile_prefix _ _).mem h)
    have htext : ∀ t, c.mimeType ++ ' ' :: t = (c.mimeType ++ [' ']) ++ t := by simp
    rw [ReadsBack, and_iff_right hhead, optionValue_eq hhead]
    rcases c.sdpFmtpLine with _ | t
    · rw [Option.getD_none, List.rdropWhile_concat_pos _ _ _ hspace, splitOption_of_notMem hmime]
      simp only [exists_getLast?_iff, Prod.mk.injEq, Option.some.injEq, and_true]
      refine and_congr_left fun heq ↦ ?_
      rw [heq]
    · rw [Option.getD_some, htext, rdropWhile_append, List.rdropWhile_concat_pos _ _ _ hspace]
      simp only [exists_getLast?_iff]
      by_cases ht : t.rdropWhile isTrimmed = []
      · -- nothing is left of the parameters
        rw [if_pos ht, splitOption_of_notMem hmime]
        refine iff_of_false (fun h ↦ absurd h.2 (by simp)) ?_
        rintro ⟨-, hne, heq⟩
        exact hne (heq.symm.trans ht)
      · rw [if_neg ht, ← htext, splitOption_append c.mimeType_noSpace]
        simp only [Prod.mk.injEq, Option.some.injEq, true_and, takeWhile_rdropWhile_eq_iff]
        constructor
        · rintro ⟨-, hspace', heq⟩
          exact ⟨hspace', fun hnil ↦ ht (heq.trans hnil), heq⟩
        · rintro ⟨hspace', -, heq⟩
          exact ⟨by simp, hspace', heq⟩
  · refine iff_of_false (fun h ↦ ?_) fun h ↦ hhead h.1
    exact hhead (head_of_splitOption h.1 (congrArg Prod.fst h.2))

end Codec

/-- **The chosen codec comes first**, before the others in their order, exactly if the text of its
option reads back. -/
theorem putsFirst_iff_readsBack {codecs : List Codec} {c : Codec} (hc : c ∈ Codec.offered codecs) :
    PutsFirst codecs c (preferCodecs c.optionValue codecs) ↔ c.ReadsBack :=
  (putsFirst_iff (List.mem_of_mem_filter hc)).trans Codec.reads_iff

def vp8Codec : Codec where
  mimeType := "video/VP8".toList
  sdpFmtpLine := none
  clockRate := 90000
  mimeType_noSpace := by decide
  sdpFmtpLine_trimmed := nofun

/-- Parameters with a space between them. -/
def h264Codec : Codec where
  mimeType := "video/H264".toList
  sdpFmtpLine := some "packetization-mode=1; profile-level-id=42e01f".toList
  clockRate := 90000
  mimeType_noSpace := by decide
  sdpFmtpLine_trimmed := by decide

theorem putsFirst_vp8 :
    PutsFirst [h264Codec, vp8Codec] vp8Codec
      (preferCodecs vp8Codec.optionValue [h264Codec, vp8Codec]) := by
  refine (putsFirst_iff_readsBack (by decide)).mpr ⟨⟨'v', by decide, by decide⟩, ?_⟩
  exact ⟨'8', by decide, by decide⟩

/-- The other codec is removed, and nothing is put first. -/
theorem not_putsFirst_h264 :
    preferCodecs h264Codec.optionValue [h264Codec, vp8Codec] = some [none, some h264Codec] ∧
      ¬ PutsFirst [h264Codec, vp8Codec] h264Codec
        (preferCodecs h264Codec.optionValue [h264Codec, vp8Codec]) := by
  have hresult : preferCodecs h264Codec.optionValue [h264Codec, vp8Codec]
      = some [none, some h264Codec] := by decide +kernel
  refine ⟨hresult, ?_⟩
  rintro ⟨before, d, behind, -, -, -, heq⟩
  simp [hresult] at heq

end GstWebrtcCamera

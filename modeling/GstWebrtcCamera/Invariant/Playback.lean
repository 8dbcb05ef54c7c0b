import GstWebrtcCamera.Invariant.Confined
import GstWebrtcCamera.Text.Launch

/-!
# Playing an upload

When a recording has arrived, a job of the thread pool plays it. `play_voice` pastes the name of
the file, which the peer has chosen, into the text of a pipeline. Between the header with the name
and the job that uses it any messages may arrive; the name is the one of the last header.
-/

namespace GstWebrtcCamera

open CString Launch

/-- The words behind the location. -/
def playElements : List (List Char) :=
  ["!", "decodebin", "!", "audioconvert", "!", "audioecho", "delay=50000000", "intensity=0.6",
    "feedback=0.4", "!", "autoaudiosink"].map String.toList

/-- The words of the pipeline that plays a file. -/
def playWords (filename : CString) : List (List Char) :=
  "filesrc".toList :: ("location=".toList ++ filename.chars) :: playElements

/-- Messages that are not headers. -/
def UploadEvent.KeepsName : UploadEvent → Prop
  | .string root _ => ∀ name size, dcCommandOf root ≠ .sendfile name size
  | .data _ => True
  | .close => False

/-- A name that reads the same inside and outside of a word. -/
def PlainName (quotes : List Char) (name : Option CString) : Prop :=
  ∀ c ∈ percentS name, ¬ IsBlank c ∧ c ≠ '\\' ∧ c ∉ quotes

instance (quotes : List Char) (name : Option CString) : Decidable (PlainName quotes name) :=
  decidable_of_iff ((percentS name).all fun c ↦ ¬ IsBlank c ∧ c ≠ '\\' ∧ c ∉ quotes)
    (by simp only [PlainName, List.all_eq_true, decide_eq_true_eq])

/-! ## The name on its way -/

namespace Uploads

variable {s : Uploads}

theorem filename_header (hopen : s.closed = false) {root : Option Json} {name : Option CString}
    {size : ℤ} (hcmd : dcCommandOf root = .sendfile name size) (fd : ℤ) :
    (s.step (.string root fd)).item.dcfile.filename = some (tmpFilename name) := by
  rw [step, if_neg (by simp [hopen]), act]
  rcases s.calls_string_cases root fd with ⟨name', size', hcmd', -, hname⟩ | ⟨hother, -⟩
  · obtain ⟨rfl, -⟩ := DcCommand.sendfile.inj (hcmd.symm.trans hcmd')
    exact hname
  · exact absurd hcmd (hother name size)

theorem filename_step {e : UploadEvent} (he : e.KeepsName) :
    (s.step e).item.dcfile.filename = s.item.dcfile.filename := by
  rw [step]
  split_ifs with hclosed
  · rfl
  · cases e with
    | string root fd =>
      rcases s.calls_string_cases root fd with ⟨name, size, hcmd, -⟩ | ⟨-, -, hname⟩
      · exact absurd hcmd (he name size)
      · exact hname
    | data chunk => exact s.filename_onData chunk
    | close => exact he.elim

theorem filename_exec {es : List UploadEvent} (hes : ∀ e ∈ es, e.KeepsName) :
    (Run.exec step s es).item.dcfile.filename = s.item.dcfile.filename := by
  induction es generalizing s with
  | nil => rfl
  | cons e es ih =>
    obtain ⟨he, hrest⟩ := List.forall_mem_cons.mp hes
    exact (ih hrest).trans (filename_step he)

end Uploads

/-! ## The name in the pipeline -/

theorem playCmdline_eq {it : WebrtcItem} {name : Option CString}
    (h : it.dcfile.filename = some (tmpFilename name)) :
    playCmdline it = "filesrc".toList ++ ' ' :: ("location=/tmp/".toList ++
      (percentS name ++ Lexer.further playElements)) := by
  have htail : lit " ! decodebin ! audioconvert" ++
      lit " ! audioecho delay=50000000 intensity=0.6 feedback=0.4 ! autoaudiosink" =
      Lexer.further playElements := by
    decide +kernel
  have hhead : lit "filesrc location=" ++ "/tmp".toList ++ ['/'] =
      "filesrc".toList ++ ' ' :: "location=/tmp/".toList := by
    decide +kernel
  rw [playCmdline, h, percentS_some, chars_tmpFilename, List.append_assoc, htail,
    List.append_cons "/tmp".toList, ← List.append_assoc, ← List.append_assoc, hhead]
  simp only [List.append_assoc, List.cons_append]

theorem ordinary_iff {quotes : List Char} (c : Char) :
    (quoting quotes).Ordinary c ↔ ¬ IsBlank c ∧ c ≠ '\\' ∧ c ∉ quotes := by
  have hspecial : c ∉ (quoting quotes).special ↔ c ≠ '\\' ∧ c ∉ quotes := by
    rw [quoting, List.mem_cons, not_or]
  rw [Lexer.Ordinary, hspecial, and_comm]

theorem ordinary_template {quotes : List Char} (hquotes : quotes ⊆ ['"', '\'']) :
    ∀ w ∈ "filesrc".toList :: "location=/tmp/".toList :: playElements,
      w ≠ [] ∧ ∀ c ∈ w, (quoting quotes).Ordinary c := by
  have htemplate : ∀ w ∈ "filesrc".toList :: "location=/tmp/".toList :: playElements,
      w ≠ [] ∧ (w.all fun c ↦ ¬ IsBlank c ∧ c ≠ '\\' ∧ c ∉ ['"', '\'']) = true := by
    decide +kernel
  intro w hw
  obtain ⟨hne, hchars⟩ := htemplate w hw
  refine ⟨hne, fun c hc ↦ (ordinary_iff c).mpr ?_⟩
  obtain ⟨hblank, hbackslash, hquote⟩ := of_decide_eq_true (List.all_eq_true.mp hchars c hc)
  exact ⟨hblank, hbackslash, fun h ↦ hquote (hquotes h)⟩

theorem words_playCmdline_iff {quotes : List Char} (hquotes : quotes ⊆ ['"', '\''])
    {it : WebrtcItem} {name : Option CString}
    (h : it.dcfile.filename = some (tmpFilename name)) :
    (quoting quotes).words (playCmdline it) = playWords (tmpFilename name) ↔
      PlainName quotes name := by
  have htemplate := ordinary_template hquotes
  obtain ⟨⟨hne, hfilesrc⟩, hrest⟩ := List.forall_mem_cons.mp htemplate
  obtain ⟨⟨hne', hlocation⟩, helements⟩ := List.forall_mem_cons.mp hrest
  have hplay : playWords (tmpFilename name) =
      "filesrc".toList :: ("location=/tmp/".toList ++ percentS name) :: playElements := by
    rw [playWords, chars_tmpFilename]
    rfl
  have hblank : IsBlank ' ' := by decide
  rw [playCmdline_eq h, hplay, Lexer.words_append hne hfilesrc]
  rw [Lexer.wordsFrom_blank hblank, Lexer.words_append hne' hlocation, Option.toList_some,
    List.singleton_append, List.cons_inj_right, Lexer.words_paste_iff _ _ helements]
  simp only [ordinary_iff, PlainName]

/-- **Playback.** A file whose header has arrived in an open session is played by the pipeline of
the template, whatever has arrived since, exactly if its name is plain. -/
theorem playback_iff {quotes : List Char} (hquotes : quotes ⊆ ['"', '\'']) {s : Uploads}
    (hopen : s.closed = false) {root : Option Json} {name : Option CString} {size : ℤ}
    (hcmd : dcCommandOf root = .sendfile name size) (fd : ℤ) {es : List UploadEvent}
    (hes : ∀ e ∈ es, e.KeepsName) :
    (quoting quotes).words
        (playCmdline (Run.exec Uploads.step s (.string root fd :: es)).item) =
      playWords (tmpFilename name) ↔ PlainName quotes name :=
  words_playCmdline_iff hquotes
    ((Uploads.filename_exec hes).trans (Uploads.filename_header hopen hcmd fd))

/-- A session in which a recording of one byte arrives. -/
def voiceSession (name : CString) : Uploads :=
  Run.exec Uploads.step (Uploads.init {} { connection := 0, hashId := 0 })
    [.string (sendfileText 1 name) 5, .data [0]]

/-- The usual name is played. -/
theorem playback_voice :
    .playVoice 0 1 ∈ (voiceSession (ofString "voice-12.5.ogg")).globals.pending ∧
      (quoting ['"', '\'']).words (playCmdline (voiceSession (ofString "voice-12.5.ogg")).item) =
        playWords (tmpFilename (some (ofString "voice-12.5.ogg"))) := by
  have hdata : ∀ e ∈ [UploadEvent.data [0]], e.KeepsName := List.forall_mem_singleton.mpr trivial
  refine ⟨by decide +kernel, ?_⟩
  exact (playback_iff (List.Subset.refl _) rfl (dcCommandOf_sendfileText 1 _) 5 hdata).mpr
    (by decide +kernel)

/-- A name that ends the location and adds an element. -/
theorem exists_not_playWords :
    ¬ ∀ name : CString, .playVoice 0 1 ∈ (voiceSession name).globals.pending →
      (quoting ['"', '\'']).words (playCmdline (voiceSession name).item) =
        playWords (tmpFilename (some name)) := by
  intro h
  have hwords := h (ofString "x ! fakesink") (by decide +kernel)
  have hlocation : ((quoting ['"', '\'']).words
      (playCmdline (voiceSession (ofString "x ! fakesink")).item)).length = 15 := by
    decide +kernel
  rw [hwords] at hlocation
  exact absurd hlocation (by decide)

end GstWebrtcCamera

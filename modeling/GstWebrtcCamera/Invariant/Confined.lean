import GstWebrtcCamera.Invariant.Upload
import GstWebrtcCamera.Text.Path

/-!
# Where uploads go

The peer names the file of a transfer. The name is pasted behind `/tmp/`, the result is opened for
writing, kept, and removed when the next header arrives, so one message decides about two calls.
The session is run here with the list of all calls it has made; where their paths lead is a
question about the normal form of the name (`inTmp_iff`).
-/

namespace GstWebrtcCamera

open CString PosixPath

/-! ## The paths of a session -/

/-- The path a call is given. -/
def FileOp.path? : FileOp → Option CString
  | .remove filename | .openFile filename _ => some filename
  | .write _ _ | .close _ => none

/-- The calls the callback of an event makes. -/
def Uploads.calls (s : Uploads) : UploadEvent → List FileOp
  | .string root fd =>
    match dataChannelOnMessageString s.globals s.item root fd with
    | .error _ => []
    | .ok (_, _, ops) => ops
  | .data chunk => (dataChannelOnMessageData s.globals s.item chunk.length).2.2
  | .close => []

/-- A session and the calls it has made. -/
structure LoggedUploads where
  session : Uploads
  log : List FileOp := []

namespace LoggedUploads

def step (s : LoggedUploads) (e : UploadEvent) : LoggedUploads where
  session := s.session.step e
  log := s.log ++ if s.session.closed then [] else s.session.calls e

end LoggedUploads

/-- A file directly in `/tmp`. -/
def InTmp (cwd : Location) (filename : CString) : Prop :=
  ∃ name, resolve cwd filename.chars = ["tmp".toList, name]

/-- Nothing outside of `/tmp` was opened or removed. -/
def LoggedUploads.Confined (cwd : Location) (s : LoggedUploads) : Prop :=
  ∀ op ∈ s.log, ∀ filename ∈ op.path?, InTmp cwd filename

/-- The name stays where it is put: in normal form it is one name, or climbs and comes back. -/
def StaysInTmp (name : Option CString) : Prop :=
  ((route (percentS name)).ups = 0 ∧ ∃ file, (route (percentS name)).down = [file]) ∨
    (0 < (route (percentS name)).ups ∧
      ∃ file, (route (percentS name)).down = ["tmp".toList, file])

/-- The headers of an open session carry names that stay. -/
def LoggedUploads.NamesStay (s : LoggedUploads) : UploadEvent → Prop
  | .string root _ => s.session.closed = false → ∀ name size,
      dcCommandOf root = .sendfile name size → StaysInTmp name
  | .data _ | .close => True

/-! ## One name -/

theorem chars_tmpFilename (name : Option CString) :
    (tmpFilename name).chars = "/tmp".toList ++ '/' :: percentS name := by
  have hname : '\x00' ∉ percentS name := by
    cases name with
    | none => decide
    | some s => exact s.noNul
  have hlit : lit "/tmp/" = "/tmp/".toList := by rw [lit]
  rw [tmpFilename, hlit, chars_cut]
  · rfl
  · rw [List.mem_append, not_or]
    exact ⟨by decide, hname⟩

theorem resolve_tmpFilename (cwd : Location) (name : Option CString) :
    resolve cwd (tmpFilename name).chars = (route (percentS name)).follow ["tmp".toList] := by
  have htmp : walk [] "/tmp".toList = ["tmp".toList] := by decide +kernel
  have hhead : ("/tmp".toList ++ '/' :: percentS name).head? = some '/' := rfl
  rw [chars_tmpFilename, resolve, if_pos hhead, walk, segments_append_slash, List.foldl_append]
  change walk (walk [] "/tmp".toList) (percentS name) = _
  rw [htmp, walk_eq_route]

theorem inTmp_iff (cwd : Location) (name : Option CString) :
    InTmp cwd (tmpFilename name) ↔ StaysInTmp name := by
  rw [InTmp, resolve_tmpFilename, StaysInTmp, Route.follow, List.length_singleton]
  rcases Nat.eq_zero_or_pos (route (percentS name)).ups with hups | hups
  · simp [hups]
  · have htake : 1 - (route (percentS name)).ups = 0 := by omega
    rw [htake, List.take_zero, List.nil_append]
    simp [hups, Nat.pos_iff_ne_zero.mp hups]

/-! ## One event -/

namespace Uploads

variable (s : Uploads)

/-- The calls of a text: a header removes the file it finds in `dcfile` and opens its own. -/
theorem calls_string_cases (root : Option Json) (fd : ℤ) :
    (∃ name size, dcCommandOf root = .sendfile name size ∧
      s.calls (.string root fd) = (s.item.dcfile.filename.map FileOp.remove).toList ++
        [.openFile (tmpFilename name) fd] ∧
      (s.onString root fd).item.dcfile.filename = some (tmpFilename name)) ∨
    (∀ name size, dcCommandOf root ≠ .sendfile name size) ∧ s.calls (.string root fd) = [] ∧
      (s.onString root fd).item.dcfile.filename = s.item.dcfile.filename := by
  cases hcmd : dcCommandOf root with
  | sendfile name size =>
    refine .inl ⟨name, size, rfl, ?_, ?_⟩
    · simp only [calls, dataChannelOnMessageString, hcmd, sendfile]
    · simp only [onString, dataChannelOnMessageString, hcmd, sendfile]
  | _ =>
    refine .inr ⟨fun name size h ↦ DcCommand.noConfusion h, ?_, ?_⟩
    · simp only [calls, dataChannelOnMessageString, hcmd]
    · simp only [onString, dataChannelOnMessageString, hcmd]

theorem path?_calls_data (chunk : List UInt8) : ∀ op ∈ s.calls (.data chunk), op.path? = none := by
  intro op hop
  rw [calls, dataChannelOnMessageData] at hop
  split_ifs at hop
  · rcases List.mem_pair.mp hop with rfl | rfl <;> rfl
  · obtain rfl := List.mem_singleton.mp hop
    rfl
  · exact absurd hop List.not_mem_nil

theorem filename_onData (chunk : List UInt8) :
    (s.onData chunk).item.dcfile.filename = s.item.dcfile.filename := by
  rcases onData_cases s chunk with ⟨-, heq⟩ | ⟨-, ⟨-, heq⟩ | ⟨-, heq⟩⟩ <;> rw [heq]

end Uploads

namespace LoggedUploads

variable {cwd : Location} {s : LoggedUploads}

/-- The file that will be removed next is in `/tmp` as well. -/
structure Kept (cwd : Location) (s : LoggedUploads) : Prop where
  confined : s.Confined cwd
  filename : ∀ filename ∈ s.session.item.dcfile.filename, InTmp cwd filename

theorem step_of_closed (hclosed : s.session.closed = true) (e : UploadEvent) : s.step e = s := by
  rw [step, Uploads.step, if_pos hclosed, if_pos hclosed, List.append_nil]

/-- What an event does to the paths: a header of an open session removes the old file and opens its
own, and nothing else names a file. -/
theorem step_cases (s : LoggedUploads) (e : UploadEvent) :
    (∃ root fd name size, e = .string root fd ∧ s.session.closed = false ∧
      dcCommandOf root = .sendfile name size ∧
      (s.step e).log = s.log ++ ((s.session.item.dcfile.filename.map FileOp.remove).toList ++
        [.openFile (tmpFilename name) fd]) ∧
      (s.step e).session.item.dcfile.filename = some (tmpFilename name)) ∨
    s.NamesStay e ∧
      (∃ calls, (s.step e).log = s.log ++ calls ∧ ∀ op ∈ calls, op.path? = none) ∧
      (s.step e).session.item.dcfile.filename = s.session.item.dcfile.filename := by
  by_cases hclosed : s.session.closed = true
  · refine .inr ⟨?_, ⟨[], ?_, fun op hop ↦ absurd hop List.not_mem_nil⟩, ?_⟩
    · cases e with
      | string root fd => exact fun hopen ↦ absurd hopen (by simp [hclosed])
      | data chunk => trivial
      | close => trivial
    · rw [step_of_closed hclosed, List.append_nil]
    · rw [step_of_closed hclosed]
  · have hlog : ∀ e, (s.step e).log = s.log ++ s.session.calls e := fun e ↦ by
      rw [step, if_neg hclosed]
    have hsession : ∀ e, (s.step e).session = s.session.act e := fun e ↦ by
      rw [step, Uploads.step, if_neg hclosed]
    cases e with
    | string root fd =>
      rw [hlog, hsession]
      rcases s.session.calls_string_cases root fd with ⟨name, size, hcmd, hcalls, hname⟩ |
        ⟨hcmd, hcalls, hname⟩
      · exact .inl ⟨root, fd, name, size, rfl, Bool.not_eq_true _ ▸ hclosed, hcmd, by rw [hcalls],
          hname⟩
      · refine .inr ⟨fun _ name size hsend ↦ absurd hsend (hcmd name size), ⟨[], ?_, ?_⟩, hname⟩
        · rw [hcalls]
        · exact fun op hop ↦ absurd hop List.not_mem_nil
    | data chunk =>
      refine .inr ⟨trivial, ⟨_, hlog _, s.session.path?_calls_data chunk⟩, ?_⟩
      rw [hsession]
      exact s.session.filename_onData chunk
    | close =>
      refine .inr ⟨trivial, ⟨[], hlog _, fun op hop ↦ absurd hop List.not_mem_nil⟩, ?_⟩
      rw [hsession]
      rfl

/-- **One event.** Nothing leaves `/tmp` exactly if the name in the event stays. -/
theorem confined_step_iff (h : s.Kept cwd) (e : UploadEvent) :
    (s.step e).Confined cwd ↔ s.NamesStay e := by
  rcases s.step_cases e with ⟨root, fd, name, size, rfl, hopen, hcmd, hlog, -⟩ |
    ⟨hstay, ⟨calls, hlog, hcalls⟩, -⟩
  · have hremoved : ∀ op ∈ (s.session.item.dcfile.filename.map FileOp.remove).toList,
        ∀ filename ∈ op.path?, InTmp cwd filename := by
      intro op hop
      obtain ⟨old, hold, rfl⟩ := Option.map_eq_some_iff.mp (Option.mem_toList.mp hop)
      intro filename hfilename
      obtain rfl := Option.some.inj hfilename
      exact h.filename old hold
    have hlogged : ∀ op ∈ s.log, ∀ filename ∈ op.path?, InTmp cwd filename := h.confined
    rw [Confined, hlog, List.forall_mem_append, List.forall_mem_append, List.forall_mem_singleton,
      and_iff_right hlogged, and_iff_right hremoved]
    constructor
    · intro hnew _ name' size' hcmd'
      obtain ⟨rfl, -⟩ := DcCommand.sendfile.inj (hcmd.symm.trans hcmd')
      exact (inTmp_iff cwd name).mp (hnew _ rfl)
    · rintro hstay - ⟨⟩
      exact (inTmp_iff cwd name).mpr (hstay hopen name size hcmd)
  · refine iff_of_true ?_ hstay
    rw [Confined, hlog, List.forall_mem_append]
    refine ⟨h.confined, fun op hop filename hfilename ↦ ?_⟩
    rw [hcalls op hop] at hfilename
    cases hfilename

theorem Kept.step (h : s.Kept cwd) {e : UploadEvent} (hstay : s.NamesStay e) :
    (s.step e).Kept cwd := by
  refine ⟨(confined_step_iff h e).mpr hstay, ?_⟩
  rcases s.step_cases e with ⟨root, fd, name, size, rfl, hopen, hcmd, -, hfilename⟩ |
    ⟨-, -, hfilename⟩
  · rw [hfilename]
    rintro - ⟨⟩
    exact (inTmp_iff cwd name).mpr (hstay hopen name size hcmd)
  · rw [hfilename]
    exact h.filename

/-! ## All of a session -/

/-- **Uploads stay in `/tmp`** throughout a run exactly if the names in its headers do. -/
theorem always_confined_iff (cwd : Location) (g : Globals) (it : WebrtcItem)
    (es : List UploadEvent) :
    Run.Always step (Confined cwd) { session := Uploads.init g it } es ↔
      Run.Meets step NamesStay { session := Uploads.init g it } es := by
  have hinit : Kept cwd { session := Uploads.init g it } :=
    ⟨fun op hop ↦ absurd hop List.not_mem_nil, fun filename hfilename ↦ by cases hfilename⟩
  exact Run.always_iff_meets hinit (fun s hs ↦ hs.confined) (fun s e hs ↦ hs.step)
    fun s e hs ↦ (confined_step_iff hs e).mp

/-- A header that names the password file. -/
theorem exists_not_confined :
    ∃ s ∈ Run.reachable step { session := Uploads.init {} { connection := 0, hashId := 0 } },
      ¬ s.Confined [] := by
  refine ⟨_, ⟨[.string (sendfileText 1 (ofString "../etc/passwd")) 5], rfl⟩, fun h ↦ ?_⟩
  obtain ⟨name, hname⟩ := h (.openFile (tmpFilename (some (ofString "../etc/passwd"))) 5)
    (by decide +kernel) _ rfl
  have hpasswd : resolve [] (tmpFilename (some (ofString "../etc/passwd"))).chars =
      ["etc".toList, "passwd".toList] := by
    decide +kernel
  rw [hpasswd] at hname
  exact absurd hname (by simp)

end LoggedUploads

end GstWebrtcCamera

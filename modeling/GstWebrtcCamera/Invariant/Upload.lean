import GstWebrtcCamera.Server.Transfer

/-!
# What becomes of a transfer

A transfer should write no more than was declared, be played once when all of it is there, and have
its descriptor closed when it ends, whichever way it ends. The code compares the position with the
size for equality and closes only when they meet, so all of it hangs on the chunks adding up: a
chunk that overshoots is written whole and the transfer never completes, one of size zero is
complete before it begins and never noticed, and whatever ends before it is complete keeps its
descriptor.
-/

namespace GstWebrtcCamera

/-- What is right about a transfer at any time. -/
structure Transfer.Good (t : Transfer) : Prop where
  within : (t.contents.length : ℤ) ≤ t.size
  playback : t.jobs.length = if (t.received : ℤ) = t.size then 1 else 0
  /-- If `open` succeeded, the descriptor is closed once when the transfer is complete or ended. -/
  closed : 0 ≤ t.fd → t.ops.count (.close t.fd)
    = if t.ended = true ∨ (t.received : ℤ) = t.size then 1 else 0

/-- Another `size` bytes may arrive. Without a file they must not make the transfer complete. -/
def Transfer.Fits (t : Transfer) (size : ℕ) : Prop :=
  if 0 < t.fd then (t.received : ℤ) + size ≤ t.size else (t.received : ℤ) + size ≠ t.size

/-- The transfer may end. -/
def Transfer.Settled (t : Transfer) : Prop := 0 ≤ t.fd → (t.received : ℤ) = t.size

/-- The transfer is the one in `dcfile`. -/
structure Transfer.Current (t : Transfer) (dc : DcFile) : Prop where
  fd_eq : dc.fd = t.fd
  fsize_eq : dc.fsize = t.size
  pos_eq : dc.pos = if 0 < t.fd then (t.received : ℤ) else 0
  length_eq : (t.contents.length : ℤ) = dc.pos
  /-- Nothing is played from a file that is not there. -/
  jobs_eq : ¬ 0 < t.fd → t.jobs = []
  live : t.ended = false

variable {t : Transfer} {dc : DcFile}

/-! ## One transfer -/

theorem Transfer.good_new_iff (size fd : ℤ) :
    Transfer.Good { size := size, fd := fd } ↔ 0 < size := by
  constructor
  · intro h
    have hle : 0 ≤ size := by simpa using h.within
    have hne : (0 : ℤ) ≠ size := fun heq ↦ by simpa [← heq] using h.playback
    omega
  · intro h
    have hne : (0 : ℤ) ≠ size := by omega
    exact ⟨by simpa using Int.le_of_lt h, by simp [hne], by simp [hne]⟩

/-- **Ending.** A transfer ends well exactly if it is settled, unless its handler closes it. -/
theorem Transfer.good_finish_iff (h : t.Good) (hlive : t.ended = false) {ops : List FileOp}
    (hops : .close t.fd ∉ ops) : (t.finish ops).Good ↔ t.Settled := by
  have hcount : (t.ops ++ ops).count (.close t.fd) = t.ops.count (.close t.fd) := by
    rw [List.count_append, List.count_eq_zero.mpr hops, Nat.add_zero]
  constructor
  · intro h' hfd
    by_contra hne
    -- an ended transfer should have been closed, and was not
    have hone : t.ops.count (.close t.fd) = 1 := by
      simpa [Transfer.finish, hcount] using h'.closed hfd
    have hzero := h.closed hfd
    rw [if_neg (by simp [hlive, hne]), hone] at hzero
    exact absurd hzero Nat.one_ne_zero
  · intro hset
    refine ⟨h.within, h.playback, fun hfd ↦ ?_⟩
    have hclosed := h.closed hfd
    rw [if_pos (.inr (hset hfd))] at hclosed
    simpa [Transfer.finish, hcount] using hclosed

theorem Transfer.received_ne (h : t.Good) (hcur : t.Current dc) (hfd : ¬ 0 < t.fd) :
    (t.received : ℤ) ≠ t.size := by
  intro heq
  have hone := h.playback
  rw [hcur.jobs_eq hfd, if_pos heq] at hone
  contradiction

/-- **A chunk that is not written**, because there is no file or the transfer is complete. -/
theorem Transfer.good_receive_skip_iff (h : t.Good) (hcur : t.Current dc)
    (hskip : ¬ (0 < dc.fd ∧ dc.pos ≠ dc.fsize)) (chunk : List UInt8) :
    (t.receive chunk [] []).Good ↔ t.Fits chunk.length := by
  have hops : t.ops ++ [] = t.ops := List.append_nil _
  -- nothing is done, so only the totals can disagree
  have hgood : (t.receive chunk [] []).Good ↔
      ((t.received : ℤ) + chunk.length = t.size ↔ (t.received : ℤ) = t.size) := by
    constructor
    · intro h'
      have hplayback := h'.playback
      simp only [receive, List.append_nil, h.playback, Int.natCast_add] at hplayback
      by_cases hold : (t.received : ℤ) = t.size
      · rw [if_pos hold] at hplayback
        refine iff_of_true ?_ hold
        by_contra hnew
        rw [if_neg hnew] at hplayback
        contradiction
      · rw [if_neg hold] at hplayback
        refine iff_of_false (fun hnew ↦ ?_) hold
        rw [if_pos hnew] at hplayback
        contradiction
    · intro heq
      refine ⟨?_, ?_, fun hfd ↦ ?_⟩
      · simpa [receive] using h.within
      · simp only [receive, List.append_nil, h.playback, Int.natCast_add, heq]
      · have hclosed := h.closed hfd
        simp only [receive, hops, Int.natCast_add, heq]
        exact hclosed
  rw [hgood, Fits]
  by_cases hfd : 0 < t.fd
  · -- with a file it is skipped because the transfer is complete
    have hfull : (t.received : ℤ) = t.size := by
      have hpos : dc.pos = dc.fsize := by
        by_contra hne
        exact hskip ⟨hcur.fd_eq ▸ hfd, hne⟩
      rw [hcur.pos_eq, if_pos hfd, hcur.fsize_eq] at hpos
      exact hpos
    rw [if_pos hfd, hfull]
    omega
  · have hne := received_ne h hcur hfd
    rw [if_neg hfd]
    exact ⟨fun hiff heq ↦ hne (hiff.mp heq), fun hn ↦ iff_of_false hn hne⟩

/-- The chunk that makes the transfer complete is written, and the file is closed and played. -/
theorem Transfer.good_receive_last (h : t.Good) (hcur : t.Current dc)
    (hopen : 0 < dc.fd ∧ dc.pos ≠ dc.fsize) {chunk : List UInt8}
    (hfull : dc.pos + chunk.length = dc.fsize) (job : Callback) :
    (t.receive chunk [.write dc.fd chunk.length, .close dc.fd] [job]).Good := by
  have hfd : 0 < t.fd := hcur.fd_eq ▸ hopen.1
  have hlength := hcur.length_eq
  have hopen := hopen.2
  rw [hcur.fsize_eq, hcur.pos_eq, if_pos hfd] at hopen hfull
  rw [hcur.pos_eq, if_pos hfd] at hlength
  have hreceived : ((t.received + chunk.length : ℕ) : ℤ) = t.size := by omega
  refine ⟨?_, ?_, fun hnonneg ↦ ?_⟩
  · have hcontents : (t.contents.length : ℤ) + chunk.length ≤ t.size := by omega
    simpa [receive, FileOp.written] using hcontents
  · have hjobs : t.jobs.length = 0 := by rw [h.playback, if_neg hopen]
    rw [receive, List.length_append, hjobs, if_pos hreceived]
    rfl
  · have hcount : t.ops.count (.close t.fd) = 0 := by
      rw [h.closed hnonneg, if_neg (by simp [hcur.live, hopen])]
    rw [receive, List.count_append, hcount, if_pos (.inr hreceived), hcur.fd_eq]
    simp

/-- Any other chunk is written whole, whether there is room for it or not. -/
theorem Transfer.good_receive_more_iff (h : t.Good) (hcur : t.Current dc)
    (hopen : 0 < dc.fd ∧ dc.pos ≠ dc.fsize) {chunk : List UInt8}
    (hmore : dc.pos + chunk.length ≠ dc.fsize) :
    (t.receive chunk [.write dc.fd chunk.length] []).Good ↔ t.Fits chunk.length := by
  have hfd : 0 < t.fd := hcur.fd_eq ▸ hopen.1
  have hlength := hcur.length_eq
  have hopen := hopen.2
  rw [hcur.fsize_eq, hcur.pos_eq, if_pos hfd] at hopen hmore
  rw [hcur.pos_eq, if_pos hfd] at hlength
  have hreceived : ((t.received + chunk.length : ℕ) : ℤ) ≠ t.size := by omega
  have hcontents : ((t.receive chunk [.write dc.fd chunk.length] []).contents.length : ℤ)
      = t.received + chunk.length := by
    simp [receive, FileOp.written, hlength]
  rw [Fits, if_pos hfd]
  constructor
  · intro h'
    rw [← hcontents]
    exact h'.within
  · intro hle
    refine ⟨hcontents ▸ hle, ?_, fun hnonneg ↦ ?_⟩
    · rw [receive, List.append_nil, h.playback, if_neg hopen, if_neg hreceived]
    · have hcount : t.ops.count (.close t.fd) = 0 := by
        rw [h.closed hnonneg, if_neg (by simp [hcur.live, hopen])]
      have hstill : ¬ (t.ended = true ∨ ((t.received + chunk.length : ℕ) : ℤ) = t.size) := by
        simp [hcur.live, hmore]
      rw [receive, List.count_append, hcount, if_neg hstill]
      simp

theorem Transfer.Current.eq_nil_of_skip (hcur : t.Current dc)
    (hskip : ¬ (0 < dc.fd ∧ dc.pos ≠ dc.fsize)) (hfd : 0 < t.fd) {chunk : List UInt8}
    (hfits : t.Fits chunk.length) : chunk = [] := by
  have hpos : dc.pos = dc.fsize := by
    by_contra hne
    exact hskip ⟨hcur.fd_eq ▸ hfd, hne⟩
  rw [hcur.pos_eq, if_pos hfd, hcur.fsize_eq] at hpos
  rw [Fits, if_pos hfd] at hfits
  exact List.length_eq_zero_iff.mp (by omega)

theorem Transfer.Current.receive_skip (hcur : t.Current dc)
    (hskip : ¬ (0 < dc.fd ∧ dc.pos ≠ dc.fsize)) {chunk : List UInt8} (hfits : t.Fits chunk.length) :
    (t.receive chunk [] []).Current dc where
  fd_eq := hcur.fd_eq
  fsize_eq := hcur.fsize_eq
  pos_eq := by
    by_cases hfd : 0 < t.fd
    · rw [hcur.eq_nil_of_skip hskip hfd hfits]
      exact hcur.pos_eq
    · have hfd' : ¬ 0 < (t.receive chunk [] []).fd := hfd
      rw [if_neg hfd', hcur.pos_eq, if_neg hfd]
  length_eq := by simpa [receive] using hcur.length_eq
  jobs_eq hfd := by simpa [receive] using hcur.jobs_eq hfd
  live := hcur.live

theorem Transfer.Current.receive_write (hcur : t.Current dc) (hopen : 0 < dc.fd)
    {chunk : List UInt8} {ops : List FileOp} (hops : ops.flatMap (FileOp.written chunk) = chunk)
    {jobs : List Callback} :
    (t.receive chunk ops jobs).Current { dc with pos := dc.pos + chunk.length } where
  fd_eq := hcur.fd_eq
  fsize_eq := hcur.fsize_eq
  pos_eq := by
    have hfd : 0 < (t.receive chunk ops jobs).fd := hcur.fd_eq ▸ hopen
    have hpos := hcur.pos_eq
    rw [if_pos (hcur.fd_eq ▸ hopen)] at hpos
    rw [if_pos hfd, receive, Int.natCast_add, hpos]
  length_eq := by
    rw [receive, hops, List.length_append, Int.natCast_add, hcur.length_eq]
  jobs_eq hfd := absurd (hcur.fd_eq ▸ hopen) hfd
  live := hcur.live

/-! ## The session -/

namespace Uploads

variable {s : Uploads}

/-- Every transfer so far is good. -/
def AllGood (s : Uploads) : Prop := ∀ t ∈ s.transfers, t.Good

/-- A header declares something and finds the last transfer settled, as does the close, and a chunk
fits. -/
def Proper (s : Uploads) : UploadEvent → Prop
  | .string root _ =>
    s.closed = false → ∀ name size, dcCommandOf root = .sendfile name size →
      0 < size ∧ ∀ t ∈ s.transfers.head?, t.Settled
  | .data chunk => s.closed = false → ∀ t ∈ s.transfers.head?, t.Fits chunk.length
  | .close => s.closed = false → ∀ t ∈ s.transfers.head?, t.Settled

/-- The last transfer is the one in `dcfile`, which is empty before the first. -/
def Linked (s : Uploads) : Prop :=
  match s.transfers with
  | [] => s.item.dcfile.fd = 0
  | t :: _ => t.Current s.item.dcfile

theorem linked_of_nil (hnil : s.transfers = []) : s.Linked ↔ s.item.dcfile.fd = 0 := by
  rw [Linked, hnil]

theorem linked_of_cons {t : Transfer} {ts : List Transfer} (hcons : s.transfers = t :: ts) :
    s.Linked ↔ t.Current s.item.dcfile := by
  rw [Linked, hcons]

theorem allGood_of_cons {t : Transfer} {ts : List Transfer} (hcons : s.transfers = t :: ts) :
    s.AllGood ↔ t.Good ∧ ∀ t' ∈ ts, t'.Good := by
  rw [AllGood, hcons, List.forall_mem_cons]

/-! ### The calls of the handlers -/

theorem close_notMem_sendfile (dc : DcFile) (name : Option CString) (size fd fd' : ℤ) :
    .close fd' ∉ (sendfile dc name size fd).2 := by
  cases h : dc.filename <;> simp [sendfile, h]

/-- The three ways a chunk is handled. -/
theorem onData_cases (s : Uploads) (chunk : List UInt8) :
    (¬ (0 < s.item.dcfile.fd ∧ s.item.dcfile.pos ≠ s.item.dcfile.fsize) ∧
      s.onData chunk = { s with
        transfers := s.transfers.modifyHead (·.receive chunk [] []) }) ∨
    (0 < s.item.dcfile.fd ∧ s.item.dcfile.pos ≠ s.item.dcfile.fsize) ∧
      (s.item.dcfile.pos + chunk.length = s.item.dcfile.fsize ∧
        s.onData chunk = { s with
          globals := s.globals.register
            (.playVoice s.item.connection s.item.dcfile.transfer)
          item := { s.item with
            dcfile := { s.item.dcfile with pos := s.item.dcfile.pos + chunk.length } }
          transfers := s.transfers.modifyHead (·.receive chunk
            [.write s.item.dcfile.fd chunk.length, .close s.item.dcfile.fd]
            [.playVoice s.item.connection s.item.dcfile.transfer]) } ∨
      s.item.dcfile.pos + chunk.length ≠ s.item.dcfile.fsize ∧
        s.onData chunk = { s with
          item := { s.item with
            dcfile := { s.item.dcfile with pos := s.item.dcfile.pos + chunk.length } }
          transfers := s.transfers.modifyHead (·.receive chunk
            [.write s.item.dcfile.fd chunk.length] []) }) := by
  by_cases hopen : 0 < s.item.dcfile.fd ∧ s.item.dcfile.pos ≠ s.item.dcfile.fsize
  · refine .inr ⟨hopen, ?_⟩
    by_cases hfull : s.item.dcfile.pos + chunk.length = s.item.dcfile.fsize
    · refine .inl ⟨hfull, ?_⟩
      simp only [onData, dataChannelOnMessageData, if_pos hopen, if_pos hfull, Globals.register,
        List.drop_left]
    · refine .inr ⟨hfull, ?_⟩
      simp only [onData, dataChannelOnMessageData, if_pos hopen, if_neg hfull, List.drop_length]
  · refine .inl ⟨hopen, ?_⟩
    simp only [onData, dataChannelOnMessageData, if_neg hopen, List.drop_length]

theorem onString_cases (s : Uploads) (root : Option Json) (fd : ℤ) :
    (∃ name size, dcCommandOf root = .sendfile name size ∧
      s.onString root fd = { s with
        item := { s.item with dcfile := (sendfile s.item.dcfile name size fd).1 }
        transfers := { size := size, fd := fd } ::
          s.transfers.modifyHead (·.finish (sendfile s.item.dcfile name size fd).2) }) ∨
    (∀ name size, dcCommandOf root ≠ .sendfile name size) ∧
      ∃ g closed, s.onString root fd = { s with globals := g, closed := closed } := by
  cases hcmd : dcCommandOf root with
  | sendfile name size =>
    refine .inl ⟨name, size, rfl, ?_⟩
    simp only [onString, dataChannelOnMessageString, hcmd]
  | untyped =>
    refine .inr ⟨nofun, s.globals, true, ?_⟩
    simp only [onString, dataChannelOnMessageString, hcmd]
  | _ =>
    refine .inr ⟨nofun, (s.onString root fd).globals, s.closed, ?_⟩
    simp only [onString, dataChannelOnMessageString, hcmd]

/-! ### One event -/

theorem forall_finish_iff (hgood : s.AllGood) (hlinked : s.Linked) {ops : List FileOp}
    (hops : ∀ fd, .close fd ∉ ops) :
    (∀ t ∈ s.transfers.modifyHead (·.finish ops), t.Good) ↔
      ∀ t ∈ s.transfers.head?, t.Settled := by
  cases hts : s.transfers with
  | nil => simp
  | cons t ts =>
    have hcur := (linked_of_cons hts).mp hlinked
    obtain ⟨ht, hrest⟩ := (allGood_of_cons hts).mp hgood
    simp only [List.modifyHead_cons, List.forall_mem_cons, List.head?_cons, Option.mem_some_iff,
      forall_eq']
    rw [Transfer.good_finish_iff ht hcur.live (hops t.fd)]
    exact and_iff_left hrest

/-- A chunk goes to the last transfer, which stays good exactly if it fits. One that fits is written
if there is a file. -/
theorem onData_of_cons {t : Transfer} {ts : List Transfer} (hts : s.transfers = t :: ts)
    (ht : t.Good) (hcur : t.Current s.item.dcfile) (chunk : List UInt8) :
    ∃ ops jobs, (s.onData chunk).transfers = t.receive chunk ops jobs :: ts ∧
      ((t.receive chunk ops jobs).Good ↔ t.Fits chunk.length) ∧
      (t.Fits chunk.length → (t.receive chunk ops jobs).Current (s.onData chunk).item.dcfile) ∧
      (t.Fits chunk.length → 0 < t.fd → ops.flatMap (FileOp.written chunk) = chunk) := by
  rcases onData_cases s chunk with ⟨hskip, heq⟩ | ⟨hopen, ⟨hfull, heq⟩ | ⟨hmore, heq⟩⟩
  · refine ⟨[], [], by rw [heq, hts]; rfl, ?_, fun hfits ↦ ?_, fun hfits hfd ↦ ?_⟩
    · exact Transfer.good_receive_skip_iff ht hcur hskip chunk
    · rw [heq]
      exact hcur.receive_skip hskip hfits
    · rw [hcur.eq_nil_of_skip hskip hfd hfits]
      rfl
  · have hops : [FileOp.write s.item.dcfile.fd chunk.length, .close s.item.dcfile.fd].flatMap
        (FileOp.written chunk) = chunk := by simp [FileOp.written]
    refine ⟨_, _, by rw [heq, hts]; rfl, ?_, fun _ ↦ ?_, fun _ _ ↦ hops⟩
    · refine iff_of_true (Transfer.good_receive_last ht hcur hopen hfull _) ?_
      rw [hcur.fsize_eq, hcur.pos_eq, if_pos (hcur.fd_eq ▸ hopen.1)] at hfull
      rw [Transfer.Fits, if_pos (hcur.fd_eq ▸ hopen.1)]
      exact Int.le_of_eq hfull
    · rw [heq]
      exact hcur.receive_write hopen.1 hops
  · have hops : [FileOp.write s.item.dcfile.fd chunk.length].flatMap
        (FileOp.written chunk) = chunk := by simp [FileOp.written]
    refine ⟨_, _, by rw [heq, hts]; rfl, ?_, fun _ ↦ ?_, fun _ _ ↦ hops⟩
    · exact Transfer.good_receive_more_iff ht hcur hopen hmore
    · rw [heq]
      exact hcur.receive_write hopen.1 hops

theorem transfers_onData_of_nil (hts : s.transfers = []) (chunk : List UInt8) :
    (s.onData chunk).transfers = [] := by
  rcases onData_cases s chunk with ⟨-, heq⟩ | ⟨-, ⟨-, heq⟩ | ⟨-, heq⟩⟩ <;> rw [heq, hts] <;> rfl

theorem allGood_onData_iff (hgood : s.AllGood) (hlinked : s.Linked) (chunk : List UInt8) :
    (s.onData chunk).AllGood ↔ ∀ t ∈ s.transfers.head?, t.Fits chunk.length := by
  cases hts : s.transfers with
  | nil =>
    rw [AllGood, transfers_onData_of_nil hts]
    simp
  | cons t ts =>
    obtain ⟨ht, hrest⟩ := (allGood_of_cons hts).mp hgood
    obtain ⟨ops, jobs, hts', hiff, -, -⟩ :=
      onData_of_cons hts ht ((linked_of_cons hts).mp hlinked) chunk
    rw [AllGood, hts', List.forall_mem_cons, and_iff_left hrest, hiff]
    simp

theorem Linked.onData (hgood : s.AllGood) (hlinked : s.Linked) {chunk : List UInt8}
    (hfits : ∀ t ∈ s.transfers.head?, t.Fits chunk.length) : (s.onData chunk).Linked := by
  cases hts : s.transfers with
  | nil =>
    rw [linked_of_nil (transfers_onData_of_nil hts chunk)]
    have hfd := (linked_of_nil hts).mp hlinked
    rcases onData_cases s chunk with ⟨-, heq⟩ | ⟨hopen, -⟩
    · rw [heq]
      exact hfd
    · rw [hfd] at hopen
      exact absurd hopen.1 (Int.lt_irrefl _)
  | cons t ts =>
    have ht := ((allGood_of_cons hts).mp hgood).1
    obtain ⟨ops, jobs, hts', -, hcur', -⟩ :=
      onData_of_cons hts ht ((linked_of_cons hts).mp hlinked) chunk
    rw [linked_of_cons hts']
    exact hcur' (hfits t (by rw [hts]; rfl))

/-- **One event.** The transfers go on being good exactly if the event is proper. -/
theorem allGood_step_iff (hgood : s.AllGood) (hlinked : s.closed = false → s.Linked)
    (e : UploadEvent) : (s.step e).AllGood ↔ s.Proper e := by
  by_cases hclosed : s.closed = true
  · rw [step, if_pos hclosed]
    refine iff_of_true hgood ?_
    have hvacuous : s.closed ≠ false := by simp [hclosed]
    cases e <;> exact fun h ↦ absurd h hvacuous
  · have hlive : s.closed = false := Bool.not_eq_true _ ▸ hclosed
    rw [step, if_neg hclosed]
    cases e with
    | data chunk =>
      exact (allGood_onData_iff hgood (hlinked hlive) chunk).trans
        ⟨fun h _ ↦ h, fun h ↦ h hlive⟩
    | close =>
      have hnone : ∀ fd, FileOp.close fd ∉ ([] : List FileOp) := fun _ ↦ List.not_mem_nil
      have hends := forall_finish_iff hgood (hlinked hlive) hnone
      exact hends.trans ⟨fun h _ ↦ h, fun h ↦ h hlive⟩
    | string root fd =>
      rcases onString_cases s root fd with ⟨name, size, hcmd, heq⟩ | ⟨hcmd, g, closed, heq⟩
      · have hends := forall_finish_iff hgood (hlinked hlive)
          (close_notMem_sendfile s.item.dcfile name size fd)
        rw [act, heq, AllGood, List.forall_mem_cons, hends, Transfer.good_new_iff]
        constructor
        · intro h _ name' size' hcmd'
          obtain ⟨-, rfl⟩ := DcCommand.sendfile.inj (hcmd.symm.trans hcmd')
          exact h
        · exact fun h ↦ h hlive name size hcmd
      · rw [act, heq]
        exact iff_of_true hgood fun _ name size hcmd' ↦ absurd hcmd' (hcmd name size)

theorem Linked.step (hgood : s.AllGood) (hlinked : s.closed = false → s.Linked) {e : UploadEvent}
    (hproper : s.Proper e) : (s.step e).closed = false → (s.step e).Linked := by
  by_cases hclosed : s.closed = true
  · rw [Uploads.step, if_pos hclosed]
    exact hlinked
  · have hlive : s.closed = false := Bool.not_eq_true _ ▸ hclosed
    rw [Uploads.step, if_neg hclosed]
    cases e with
    | data chunk => exact fun _ ↦ (hlinked hlive).onData hgood (hproper hlive)
    -- a closed session has no current transfer
    | close => exact nofun
    | string root fd =>
      intro _
      rw [act]
      rcases onString_cases s root fd with ⟨name, size, hcmd, heq⟩ | ⟨hcmd, g, closed, heq⟩
      · rw [heq, linked_of_cons rfl]
        exact ⟨rfl, rfl, by simp [sendfile], rfl, fun _ ↦ rfl, rfl⟩
      · rw [heq]
        exact hlinked hlive

/-- **Transfers.** In a run of one session every transfer is good throughout exactly if every event
of the run is proper. -/
theorem always_allGood_iff (g : Globals) (it : WebrtcItem) (es : List UploadEvent) :
    Run.Always step AllGood (init g it) es ↔ Run.Meets step Proper (init g it) es := by
  have hnil : (init g it).AllGood := fun t ht ↦ absurd ht List.not_mem_nil
  refine Run.always_iff_meets (I := fun s ↦ s.AllGood ∧ (s.closed = false → s.Linked))
    ⟨hnil, fun _ ↦ rfl⟩ (fun s hs ↦ hs.1) ?_ ?_
  · rintro s e ⟨hgood, hlinked⟩ hproper
    exact ⟨(allGood_step_iff hgood hlinked e).mpr hproper, Linked.step hgood hlinked hproper⟩
  · rintro s e ⟨hgood, hlinked⟩ hP
    exact (allGood_step_iff hgood hlinked e).mp hP

/-- Three bytes are announced and four come, in two chunks. -/
theorem exists_not_allGood :
    ∃ s ∈ Run.reachable step (init {} { connection := 0, hashId := 0 }), ¬ s.AllGood := by
  refine ⟨_, ⟨[.string (sendfileText 3 (CString.ofString "voice.ogg")) 5, .data [1, 2],
    .data [3, 4]], rfl⟩, fun h ↦ ?_⟩
  have hgood := h {
    size := 3
    fd := 5
    received := 4
    contents := [1, 2, 3, 4]
    ops := [.write 5 2, .write 5 2] } (by decide +kernel)
  exact absurd hgood.within (by decide)

end Uploads

end GstWebrtcCamera

import GstWebrtcCamera.Invariant.Upload
import Mathlib.Data.PNat.Basic

/-!
# Sending a voice recording

`startRecordVoice` announces the size of a recording and sends it in slices. A slice begins at what
the channel has buffered at that moment, as if that were the position in the recording, and ends at
a counter of its own that starts from what was buffered when the recording stopped. The slices
always fit together; what can be wrong is where the first one begins, and whether there is one.
-/

namespace GstWebrtcCamera

/-- `ArrayBuffer.slice`. -/
def slice {α : Type*} (l : List α) (start stop : ℕ) : List α := (l.take stop).drop start

section slice

variable {α : Type*} (l : List α) {start stop : ℕ}

theorem slice_of_length_le (h : l.length ≤ stop) : slice l start stop = l.drop start := by
  rw [slice, List.take_of_length_le h]

theorem slice_append_drop (start stop : ℕ) :
    slice l start stop ++ l.drop (start + (slice l start stop).length) = l.drop start := by
  rw [slice, List.drop_take, ← List.drop_drop, List.length_take]
  rcases le_total (stop - start) (l.drop start).length with h | h
  · rw [min_eq_left h, List.take_append_drop]
  · rw [min_eq_right h, List.take_of_length_le h, List.drop_length, List.append_nil]

theorem slice_ne_nil (hstart : start < l.length) (hstop : start < stop) :
    slice l start stop ≠ [] := by
  rw [← List.length_pos_iff, slice, List.length_drop, List.length_take]
  omega

end slice

namespace Voice

/-- The counter after one turn of the loop. Past the end it overshoots by as much again. -/
def advance (size chunkSize bufferedAmount : ℕ) : ℕ :=
  let bufferedAmount := bufferedAmount + chunkSize
  if size < bufferedAmount then bufferedAmount + (bufferedAmount - size)
  else bufferedAmount + chunkSize

theorem lt_advance (size : ℕ) (chunkSize : ℕ+) (bufferedAmount : ℕ) :
    bufferedAmount < advance size chunkSize bufferedAmount := by
  have hpos := chunkSize.pos
  rw [advance]
  split_ifs <;> omega

/-- The loop of `fileReader.onload`. `bufferedAmount` is the counter and `buffered` is
`localdc.bufferedAmount`, which every `send` raises. -/
def onload (blob : List UInt8) (chunkSize : ℕ+) (bufferedAmount buffered : ℕ) :
    List (List UInt8) :=
  if bufferedAmount < blob.length then
    let bufferedAmount' := advance blob.length chunkSize bufferedAmount
    let data := slice blob buffered bufferedAmount'
    data :: onload blob chunkSize bufferedAmount' (buffered + data.length)
  else []
termination_by blob.length - bufferedAmount
decreasing_by
  have := lt_advance blob.length chunkSize bufferedAmount
  omega

variable {blob : List UInt8} {chunkSize : ℕ+} {bufferedAmount buffered : ℕ}

theorem onload_of_le (h : blob.length ≤ bufferedAmount) :
    onload blob chunkSize bufferedAmount buffered = [] := by
  rw [onload, if_neg (Nat.not_lt.mpr h)]

/-- **The slices** are together what follows `buffered`, if there are any. -/
theorem flatten_onload (h : bufferedAmount < blob.length) :
    (onload blob chunkSize bufferedAmount buffered).flatten = blob.drop buffered := by
  induction bufferedAmount, buffered using onload.induct blob chunkSize with
  | case1 bufferedAmount buffered hlt bufferedAmount' data ih =>
    rw [onload, if_pos hlt, List.flatten_cons]
    by_cases hmore : bufferedAmount' < blob.length
    · rw [ih hmore]
      exact slice_append_drop blob buffered bufferedAmount'
    · have hlast : blob.length ≤ bufferedAmount' := Nat.not_lt.mp hmore
      rw [onload_of_le hlast, List.flatten_nil, List.append_nil]
      exact slice_of_length_le blob hlast
  | case2 bufferedAmount buffered hge => exact absurd h hge

theorem onload_ne_nil (h : buffered ≤ bufferedAmount) :
    ∀ data ∈ onload blob chunkSize bufferedAmount buffered, data ≠ [] := by
  induction bufferedAmount, buffered using onload.induct blob chunkSize with
  | case1 bufferedAmount buffered hlt bufferedAmount' data ih =>
    rw [onload, if_pos hlt]
    have hadvance : bufferedAmount < bufferedAmount' := lt_advance _ _ _
    refine List.forall_mem_cons.mpr ⟨?_, ih ?_⟩
    · exact slice_ne_nil blob (h.trans_lt hlt) (h.trans_lt hadvance)
    · have hlength : data.length = min bufferedAmount' blob.length - buffered := by
        rw [show data = slice blob buffered bufferedAmount' from rfl, slice, List.length_drop,
          List.length_take]
      omega
  | case2 bufferedAmount buffered hge =>
    rw [onload_of_le (Nat.not_lt.mp hge)]
    simp

/-! ## What the server makes of it -/

open Uploads

/-- The header, and then the slices. -/
def upload (size : ℕ) (name : CString) (fd : ℤ) (slices : List (List UInt8)) :
    List UploadEvent :=
  .string (sendfileText size name) fd :: slices.map .data

/-- The slices are the recording, and the session takes it in: it notices the end at the last slice
and not before, has written the recording, closed the file once and queued one playback. -/
structure Delivered (s : Uploads) (blob : List UInt8) (name : CString) (fd : ℤ)
    (slices : List (List UInt8)) : Prop where
  flatten_eq : slices.flatten = blob
  complete_iff : ∀ n ≤ slices.length, ∀ dc,
    (Run.exec step s (upload blob.length name fd (slices.take n))).item.dcfile = dc →
      (dc.pos = dc.fsize ↔ n = slices.length)
  finished : ∃ t ∈ (Run.exec step s (upload blob.length name fd slices)).transfers.head?,
    t.contents = blob ∧ t.ops.count (.close fd) = 1 ∧ t.jobs.length = 1

variable {s : Uploads} {t : Transfer} {ts : List Transfer}

/-- The transfer a run of chunks makes of one that has a file. -/
structure Extends (t t' : Transfer) (bytes : List UInt8) : Prop where
  good : t'.Good
  size_eq : t'.size = t.size
  fd_eq : t'.fd = t.fd
  received_eq : t'.received = t.received + bytes.length
  contents_eq : t'.contents = t.contents ++ bytes

/-- **A run of chunks** that fit into a transfer with a file. -/
theorem exec_data (slices : List (List UInt8)) :
    ∀ {s : Uploads} {t : Transfer}, s.closed = false → s.transfers = t :: ts → t.Good →
      t.Current s.item.dcfile → 0 < t.fd → (t.received : ℤ) + slices.flatten.length ≤ t.size →
      ∃ t', (Run.exec step s (slices.map .data)).transfers = t' :: ts ∧
        t'.Current (Run.exec step s (slices.map .data)).item.dcfile ∧
        Extends t t' slices.flatten := by
  induction slices with
  | nil =>
    intro s t _ hts ht hcur _ _
    exact ⟨t, hts, hcur, ht, rfl, rfl, rfl, (List.append_nil _).symm⟩
  | cons chunk slices ih =>
    intro s t hclosed hts ht hcur hfd hfits
    have hstep : Run.exec step s ((chunk :: slices).map .data)
        = Run.exec step (s.onData chunk) (slices.map .data) := by
      rw [List.map_cons, Run.exec, List.foldl_cons, step, if_neg (by simp [hclosed])]
      rfl
    rw [List.flatten_cons, List.length_append, Int.natCast_add] at hfits
    obtain ⟨ops, jobs, hts', hgood, hcur', hops⟩ := onData_of_cons hts ht hcur chunk
    have hchunk : t.Fits chunk.length := by
      rw [Transfer.Fits, if_pos hfd]
      omega
    obtain ⟨t', ht', hcurrent, hext⟩ := ih (s := s.onData chunk) hclosed hts' (hgood.mpr hchunk)
      (hcur' hchunk) hfd (by simp only [Transfer.receive, Int.natCast_add]; omega)
    rw [hstep]
    refine ⟨t', ht', hcurrent, hext.good, hext.size_eq, hext.fd_eq, ?_, ?_⟩
    · rw [hext.received_eq, Transfer.receive, List.flatten_cons, List.length_append, Nat.add_assoc]
    · rw [hext.contents_eq, Transfer.receive, hops hchunk hfd, List.flatten_cons,
        List.append_assoc]

theorem exec_data_of_not_open (slices : List (List UInt8)) :
    ∀ {s : Uploads} {t : Transfer}, s.closed = false → s.transfers = t :: ts →
      ¬ 0 < s.item.dcfile.fd →
      ∃ t', (Run.exec step s (slices.map .data)).transfers = t' :: ts ∧
        t'.contents = t.contents := by
  induction slices with
  | nil =>
    intro s t _ hts _
    exact ⟨t, hts, rfl⟩
  | cons chunk slices ih =>
    intro s t hclosed hts hfd
    have hstep : Run.exec step s ((chunk :: slices).map .data)
        = Run.exec step (s.onData chunk) (slices.map .data) := by
      rw [List.map_cons, Run.exec, List.foldl_cons, step, if_neg (by simp [hclosed])]
      rfl
    rcases onData_cases s chunk with ⟨-, heq⟩ | ⟨hopen, -⟩
    · rw [hstep, heq]
      obtain ⟨t', ht', hcontents⟩ := ih (s := { s with
        transfers := s.transfers.modifyHead (·.receive chunk [] []) })
        hclosed (by rw [hts]; rfl) hfd
      exact ⟨t', ht', hcontents.trans (List.append_nil _)⟩
    · exact absurd hopen.1 hfd

theorem exec_header (hclosed : s.closed = false) (size : ℕ) (name : CString) (fd : ℤ) :
    ∃ ts, (s.step (.string (sendfileText size name) fd)).transfers
        = { size := size, fd := fd } :: ts ∧
      (s.step (.string (sendfileText size name) fd)).closed = false ∧
      Transfer.Current { size := size, fd := fd }
        (s.step (.string (sendfileText size name) fd)).item.dcfile := by
  rw [step, if_neg (by simp [hclosed]), act]
  rcases onString_cases s (sendfileText size name) fd with ⟨name', size', hcmd, heq⟩ | ⟨hcmd, -⟩
  · rw [dcCommandOf_sendfileText] at hcmd
    obtain ⟨-, rfl⟩ := DcCommand.sendfile.inj hcmd
    rw [heq]
    exact ⟨_, rfl, hclosed, rfl, rfl, by simp [sendfile], rfl, fun _ ↦ rfl, rfl⟩
  · exact absurd (dcCommandOf_sendfileText size name) (hcmd _ _)

theorem length_flatten_take (slices : List (List UInt8)) (n : ℕ) :
    (slices.take n).flatten.length + (slices.drop n).flatten.length = slices.flatten.length := by
  rw [← List.length_append, ← List.flatten_append, List.take_append_drop]

/-- Every slice counts, so a part of them is not all of the recording. -/
theorem length_flatten_take_eq_iff {slices : List (List UInt8)} (hne : ∀ data ∈ slices, data ≠ [])
    {n : ℕ} (hn : n ≤ slices.length) :
    (slices.take n).flatten.length = slices.flatten.length ↔ n = slices.length := by
  have hsplit := length_flatten_take slices n
  constructor
  · intro heq
    have hrest : (slices.drop n).flatten = [] := List.length_eq_zero_iff.mp (by omega)
    by_contra hlt
    have hlast : slices.drop n ≠ [] := by
      rw [Ne, List.drop_eq_nil_iff]
      omega
    obtain ⟨data, hdata⟩ := List.exists_mem_of_ne_nil _ hlast
    exact hne data (List.mem_of_mem_drop hdata) (List.flatten_eq_nil_iff.mp hrest data hdata)
  · rintro rfl
    rw [List.take_length]

section delivery

variable {g : Globals} {it : WebrtcItem} {ts : List Transfer} {blob : List UInt8} {name : CString}
  {fd : ℤ} {chunkSize : ℕ+} {bufferedAmount buffered : ℕ}

/-- A recording that arrives was sent from its first byte on, to a file that is open. -/
theorem cond_of_delivered
    (h : Delivered { globals := g, item := it, transfers := ts } blob name fd
      (onload blob chunkSize bufferedAmount buffered)) :
    bufferedAmount < blob.length ∧ buffered = 0 ∧ 0 < fd := by
  obtain ⟨ts', hts, hclosed, hcur⟩ := exec_header
    (s := { globals := g, item := it, transfers := ts }) rfl blob.length name fd
  obtain ⟨hflatten, -, t, ht, hcontents, hclose, -⟩ := h
  by_cases hlt : bufferedAmount < blob.length
  · rw [flatten_onload hlt] at hflatten
    have hbuffered : buffered = 0 := by
      have hlength := congrArg List.length hflatten
      rw [List.length_drop] at hlength
      omega
    refine ⟨hlt, hbuffered, ?_⟩
    by_contra hfd
    obtain ⟨t', ht', hempty⟩ := exec_data_of_not_open
      (onload blob chunkSize bufferedAmount buffered) hclosed hts (hcur.fd_eq ▸ hfd)
    obtain rfl : t = t' := by
      have hhead := Option.mem_some_iff.mp (ht' ▸ ht : t ∈ (t' :: ts').head?)
      exact hhead.symm
    rw [← hcontents, hempty] at hlt
    exact Nat.not_lt_zero _ hlt
  · -- nothing but the header is sent, and a header closes nothing
    rw [onload_of_le (Nat.not_lt.mp hlt)] at ht
    obtain rfl : t = { size := blob.length, fd := fd } := by
      have hhead := Option.mem_some_iff.mp (hts ▸ ht : t ∈ (_ :: ts').head?)
      exact hhead.symm
    exact absurd hclose (by simp)

theorem delivered_onload (hlt : bufferedAmount < blob.length) (hfd : 0 < fd) :
    Delivered { globals := g, item := it, transfers := ts } blob name fd
      (onload blob chunkSize bufferedAmount 0) := by
  obtain ⟨ts', hts, hclosed, hcur⟩ := exec_header
    (s := { globals := g, item := it, transfers := ts }) rfl blob.length name fd
  have hflatten : (onload blob chunkSize bufferedAmount 0).flatten = blob := flatten_onload hlt
  have hne : ∀ data ∈ onload blob chunkSize bufferedAmount 0, data ≠ [] :=
    onload_ne_nil (Nat.zero_le bufferedAmount)
  have hgood : Transfer.Good { size := blob.length, fd := fd } :=
    (Transfer.good_new_iff _ _).mpr (by omega)
  have hexec : ∀ slices : List (List UInt8), slices.flatten.length ≤ blob.length →
      ∃ t', (Run.exec step { globals := g, item := it, transfers := ts }
        (upload blob.length name fd slices)).transfers = t' :: ts' ∧
      t'.Current (Run.exec step { globals := g, item := it, transfers := ts }
        (upload blob.length name fd slices)).item.dcfile ∧
      Extends { size := blob.length, fd := fd } t' slices.flatten := by
    intro slices hle
    exact exec_data slices hclosed hts hgood hcur hfd
      ((zero_add _).trans_le (Int.ofNat_le.mpr hle))
  refine ⟨hflatten, ?_, ?_⟩
  · rintro n hn dc rfl
    have hle :
        ((onload blob chunkSize bufferedAmount 0).take n).flatten.length ≤ blob.length := by
      have hsplit := length_flatten_take (onload blob chunkSize bufferedAmount 0) n
      rw [hflatten] at hsplit
      omega
    obtain ⟨t', -, hcur', hext⟩ := hexec _ hle
    have hfd' : 0 < t'.fd := by rw [hext.fd_eq]; exact hfd
    rw [hcur'.pos_eq, if_pos hfd', hcur'.fsize_eq, hext.size_eq, hext.received_eq, Nat.zero_add,
      Int.natCast_inj, ← length_flatten_take_eq_iff hne hn, hflatten]
  · obtain ⟨t', ht', hcur', hext⟩ := hexec _ (by rw [hflatten])
    have hfull : (t'.received : ℤ) = t'.size := by
      rw [hext.received_eq, hext.size_eq, hflatten, Nat.zero_add]
    refine ⟨t', by rw [ht']; rfl, ?_, ?_, ?_⟩
    · rw [hext.contents_eq, hflatten]
      rfl
    · have hclose := hext.good.closed (by rw [hext.fd_eq]; exact Int.le_of_lt hfd)
      rw [if_pos (.inr hfull), hext.fd_eq] at hclose
      exact hclose
    · rw [hext.good.playback, if_pos hfull]

end delivery

/-- **Delivery.** What the page sends arrives exactly if something was left to count when the
recording stopped, nothing was buffered when it was loaded, and the server could open the file. -/
theorem delivered_onload_iff (g : Globals) (it : WebrtcItem) (ts : List Transfer)
    (blob : List UInt8) (name : CString) (fd : ℤ) (chunkSize : ℕ+) (bufferedAmount buffered : ℕ) :
    Delivered { globals := g, item := it, transfers := ts } blob name fd
        (onload blob chunkSize bufferedAmount buffered)
      ↔ bufferedAmount < blob.length ∧ buffered = 0 ∧ 0 < fd := by
  constructor
  · exact cond_of_delivered
  · rintro ⟨hlt, rfl, hfd⟩
    exact delivered_onload hlt hfd

/-- The header, of 100 bytes, has not left the channel: as many bytes of the recording are never
sent. -/
theorem not_delivered_onload :
    ¬ Delivered (init {} { connection := 0, hashId := 0 }) (List.replicate 40000 0)
      (CString.ofString "voice-73512.8.ogg") 5
      (onload (List.replicate 40000 0) 16384 100 100) := by
  intro h
  have hlength : (List.replicate 40000 (0 : UInt8)).length = 40000 := List.length_replicate
  have hflatten := congrArg List.length h.flatten_eq
  rw [flatten_onload (by rw [hlength]; decide), List.length_drop, hlength] at hflatten
  exact absurd hflatten (by decide)

end Voice

end GstWebrtcCamera

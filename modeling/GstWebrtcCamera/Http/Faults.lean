import GstWebrtcCamera.Http.Digest
import GstWebrtcCamera.Http.Serve

/-!
# Faults of the file handler

`soup_http_handler` gives up at its first fault, and so says nothing about the uses that follow.
Here each use of a header value counts for itself: the user name that is looked up in
`Authorization`, and `Uid` and `Role`, of which a character is skipped. `digest_auth_callback` adds
`Uid` and `Role`, but only to requests inside the domain; the page handler takes them for granted on
every path.
-/

namespace GstWebrtcCamera

open CString PosixPath

/-! ## Each use for itself -/

def faultOf {α : Type} : Except Fault α → List Fault
  | .error f => [f]
  | .ok _ => []

/-- The faults of `htmlPage`. -/
def pageFaults (msg : Request) : List Fault :=
  match getOne msg "Authorization" with
  | none => []
  | some auth =>
    if getOne msg "Active" = some (ofString "off") then []
    else
      faultOf (getAuthValueByKey auth "username") ++ faultOf (advance (getOne msg "Uid"))
        ++ faultOf (advance (getOne msg "Role"))

/-- A page is put together: the request is a `GET` for a readable file of the list that is a page.
-/
structure SendsPage (env : HttpEnv) (fs : FileSystem) (msg : Request) (path : List Char) :
    Prop where
  get : msg.method = .get
  root : path ≠ ['/']
  length : (env.webroot.chars ++ path).length < maxUrlLen
  stat : ∃ size, fs.stat (resolve fs.cwd (env.webroot.chars ++ path)) = .ok size
  listed : ∃ name ∈ httpSrc, name <:+ '.' :: path
  read : ∃ bytes, fs.read (resolve fs.cwd (env.webroot.chars ++ path)) = some bytes
  html : lit ".html" <:+ '.' :: path

/-- The faults of `doGet`. -/
def doGetFaults (env : HttpEnv) (fs : FileSystem) (msg : Request) (path : List Char) :
    List Fault :=
  let tpath := env.webroot.chars ++ if path.head? = some '.' then path.tail else path
  if maxUrlLen ≤ tpath.length then []
  else
    match fs.stat (resolve fs.cwd tpath) with
    | .error _ => []
    | .ok _ =>
      if ¬ ∃ name ∈ httpSrc, name <:+ path then []
      else if msg.method = .get then
        match fs.read (resolve fs.cwd tpath) with
        | none => []
        | some _ => if lit ".html" <:+ path then pageFaults msg else []
      else []

/-- The faults of `soupHttpHandler`. -/
def handlerFaults (env : HttpEnv) (fs : FileSystem) (msg : Request) (path : List Char) :
    List Fault :=
  if tableFull env then []
  else
    match msg.method with
    | .get | .post | .head => if path = ['/'] then [] else doGetFaults env fs msg ('.' :: path)
    | .other _ => [.uninitFree]

/-! ## The first fault is the one the handler reports -/

/-- A result reports the first of these faults. -/
def Reports {α : Type} (x : Except Fault α) (faults : List Fault) : Prop :=
  ∀ f, x = .error f ↔ faults.head? = some f

theorem reports_ok {α : Type} (a : α) : Reports (.ok a) [] := fun _ ↦ iff_of_false nofun nofun

theorem reports_bind {α β : Type} {x : Except Fault α} {g : α → Except Fault β}
    {faults : List Fault} (h : ∀ a, Reports (g a) faults) :
    Reports (x >>= g) (faultOf x ++ faults) := by
  rcases x with f | a
  · intro f'
    simp [faultOf, bind, Except.bind]
  · exact h a

theorem htmlPage_reports (env : HttpEnv) (msg : Request) (file : Location) (bytes : List Char) :
    Reports (htmlPage env msg file bytes) (pageFaults msg) := by
  rw [htmlPage, pageFaults]
  rcases getOne msg "Authorization" with _ | auth
  · exact reports_ok _
  · by_cases hactive : getOne msg "Active" = some (ofString "off")
    · simp only [hactive, if_true]
      exact reports_ok _
    · simp only [hactive, if_false, List.append_assoc]
      refine reports_bind fun username ↦ reports_bind fun uid ↦ ?_
      rw [← List.append_nil (faultOf (advance (getOne msg "Role")))]
      exact reports_bind fun role ↦ reports_ok _

theorem doGet_reports (env : HttpEnv) (fs : FileSystem) (msg : Request) (path : List Char) :
    Reports (doGet env fs msg path) (doGetFaults env fs msg path) := by
  simp only [doGet, doGetFaults]
  generalize env.webroot.chars ++ (if path.head? = some '.' then path.tail else path) = tpath
  by_cases hlen : maxUrlLen ≤ tpath.length
  · rw [if_pos hlen, if_pos hlen]
    exact reports_ok _
  rw [if_neg hlen, if_neg hlen]
  rcases fs.stat (resolve fs.cwd tpath) with e | size
  · rcases e with _ | _ | _ <;> exact reports_ok _
  simp only [sendFile]
  by_cases hsuffix : ∃ name ∈ httpSrc, name <:+ path
  · rw [if_neg (not_not.mpr hsuffix), if_neg (not_not.mpr hsuffix)]
    by_cases hget : msg.method = .get
    · rw [if_pos hget, if_pos hget]
      rcases fs.read (resolve fs.cwd tpath) with _ | bytes
      · exact reports_ok _
      · by_cases hhtml : lit ".html" <:+ path
        · simp only [if_pos hhtml]
          exact htmlPage_reports env msg _ bytes
        · simp only [if_neg hhtml]
          exact reports_ok _
    · rw [if_neg hget, if_neg hget]
      exact reports_ok _
  · rw [if_pos hsuffix, if_pos hsuffix]
    exact reports_ok _

theorem soupHttpHandler_reports (env : HttpEnv) (fs : FileSystem) (msg : Request)
    (path : List Char) :
    Reports (soupHttpHandler env fs msg path) (handlerFaults env fs msg path) := by
  rw [soupHttpHandler, handlerFaults]
  by_cases hfull : tableFull env = true
  · rw [if_pos hfull, if_pos hfull]
    exact reports_ok _
  · rw [if_neg hfull, if_neg hfull]
    rcases msg.method with _ | _ | _ | name
    iterate 3
      by_cases hroot : path = ['/']
      · simp only [hroot, if_true]
        exact reports_ok _
      · simp only [hroot, if_false]
        exact doGet_reports env fs msg _
    intro f
    simp

/-! ## When there are none -/

/-- What the page handler takes for granted. -/
def HeadersPresent (msg : Request) : Prop :=
  ∀ auth, getOne msg "Authorization" = some auth → getOne msg "Active" ≠ some (ofString "off") →
    (∀ piece, firstPiece auth "username" = some piece → '=' ∈ piece) ∧
      getOne msg "Uid" ≠ none ∧ getOne msg "Role" ≠ none

theorem nullDeref_mem_advance {s : Option CString} :
    .nullDeref ∈ faultOf (advance s) ↔ s = none := by
  rcases s with _ | ⟨chars, hnul⟩
  · simp [advance, faultOf]
  · rcases chars with _ | ⟨c, rest⟩ <;> simp [advance, faultOf]

theorem nullDeref_mem_username {auth : CString} {key : String} :
    .nullDeref ∈ faultOf (getAuthValueByKey auth key)
      ↔ ∃ piece, firstPiece auth key = some piece ∧ '=' ∉ piece := by
  rw [getAuthValueByKey_eq]
  rcases firstPiece auth key with _ | piece
  · simp [faultOf]
  · by_cases heq : '=' ∈ piece
    · obtain ⟨name, value, rfl, hname⟩ := List.eq_append_cons_of_mem heq
      rcases value with _ | ⟨skipped, rest⟩
      · simp [splitEq_append hname, readValue, faultOf]
      · simp [splitEq_append hname, readValue, faultOf]
    · simp [splitEq_of_notMem heq, readValue, faultOf, heq]

theorem uninitFree_notMem_pageFaults (msg : Request) : .uninitFree ∉ pageFaults msg := by
  have hadvance : ∀ s, .uninitFree ∉ faultOf (advance s) := by
    rintro (_ | ⟨_ | ⟨c, rest⟩, hnul⟩) <;> simp [advance, faultOf]
  have hread : ∀ text, .uninitFree ∉ faultOf (readValue text) := by
    rintro (_ | _ | ⟨c, rest⟩) <;> simp [readValue, faultOf]
  have husername : ∀ auth, .uninitFree ∉ faultOf (getAuthValueByKey auth "username") := by
    intro auth
    rw [getAuthValueByKey, authValue_eq]
    rcases firstText _ _ with _ | text
    · simp [faultOf]
    · exact hread text
  rw [pageFaults]
  rcases getOne msg "Authorization" with _ | auth
  · simp
  · by_cases hactive : getOne msg "Active" = some (ofString "off")
    · simp [hactive]
    · simp [hactive, hadvance, husername]

theorem nullDeref_notMem_pageFaults_iff (msg : Request) :
    .nullDeref ∉ pageFaults msg ↔ HeadersPresent msg := by
  rw [pageFaults, HeadersPresent]
  rcases getOne msg "Authorization" with _ | auth
  · simp
  · by_cases hactive : getOne msg "Active" = some (ofString "off")
    · simp [hactive]
    · simp [hactive, nullDeref_mem_username, nullDeref_mem_advance]

theorem doGetFaults_eq (env : HttpEnv) (fs : FileSystem) {msg : Request} {path : List Char}
    (hroot : path ≠ ['/']) :
    doGetFaults env fs msg ('.' :: path) = pageFaults msg ∧ SendsPage env fs msg path ∨
      doGetFaults env fs msg ('.' :: path) = [] ∧ ¬ SendsPage env fs msg path := by
  simp only [doGetFaults, List.head?_cons, List.tail_cons, if_true]
  by_cases hlen : maxUrlLen ≤ (env.webroot.chars ++ path).length
  · rw [if_pos hlen]
    exact .inr ⟨rfl, fun h ↦ absurd h.length (not_lt.mpr hlen)⟩
  rw [if_neg hlen]
  rcases hstat : fs.stat (resolve fs.cwd (env.webroot.chars ++ path)) with e | size
  · refine .inr ⟨by simp, fun h ↦ ?_⟩
    obtain ⟨size, hsize⟩ := h.stat
    exact absurd (hstat.symm.trans hsize) nofun
  by_cases hsuffix : ∃ name ∈ httpSrc, name <:+ '.' :: path
  · simp only [if_neg (not_not.mpr hsuffix)]
    by_cases hget : msg.method = .get
    · rw [if_pos hget]
      rcases hread : fs.read (resolve fs.cwd (env.webroot.chars ++ path)) with _ | bytes
      · refine .inr ⟨by simp, fun h ↦ ?_⟩
        obtain ⟨bytes, hbytes⟩ := h.read
        exact absurd (hread.symm.trans hbytes) nofun
      · by_cases hhtml : lit ".html" <:+ '.' :: path
        · simp only [if_pos hhtml]
          exact .inl ⟨by simp, hget, hroot, not_le.mp hlen, ⟨size, hstat⟩, hsuffix, ⟨bytes, hread⟩,
            hhtml⟩
        · simp only [if_neg hhtml]
          exact .inr ⟨by simp, fun h ↦ hhtml h.html⟩
    · rw [if_neg hget]
      exact .inr ⟨by simp, fun h ↦ hget h.get⟩
  · simp only [if_pos hsuffix]
    exact .inr ⟨by simp, fun h ↦ hsuffix h.listed⟩

theorem handlerFaults_of_sendsPage {env : HttpEnv} {fs : FileSystem} {msg : Request}
    {path : List Char} (hfull : tableFull env = false) (h : SendsPage env fs msg path) :
    handlerFaults env fs msg path = pageFaults msg := by
  have hfaults : doGetFaults env fs msg ('.' :: path) = pageFaults msg :=
    (doGetFaults_eq env fs h.root).elim And.left fun hnone ↦ absurd h hnone.2
  simp [handlerFaults, hfull, h.get, h.root, hfaults]

/-- **No fault.** Nothing uninitialised is freed and no missing header value is used exactly if the
table is full, or the method is served and a page that is put together finds its headers. -/
theorem handlerFaults_iff (env : HttpEnv) (fs : FileSystem) (msg : Request) (path : List Char) :
    (.uninitFree ∉ handlerFaults env fs msg path ∧ .nullDeref ∉ handlerFaults env fs msg path)
      ↔ tableFull env = true ∨ (∀ name, msg.method ≠ .other name) ∧
        (SendsPage env fs msg path → HeadersPresent msg) := by
  rw [handlerFaults]
  by_cases hfull : tableFull env = true
  · simp [hfull]
  rw [if_neg hfull, or_iff_right hfull]
  have hserved : (.uninitFree ∉ (if path = ['/'] then [] else doGetFaults env fs msg ('.' :: path))
      ∧ .nullDeref ∉ (if path = ['/'] then [] else doGetFaults env fs msg ('.' :: path)))
      ↔ (SendsPage env fs msg path → HeadersPresent msg) := by
    by_cases hroot : path = ['/']
    · simp only [hroot, if_true]
      exact iff_of_true ⟨List.not_mem_nil, List.not_mem_nil⟩ fun h ↦ absurd rfl h.root
    · rw [if_neg hroot]
      rcases doGetFaults_eq env fs hroot with ⟨hfaults, hpage⟩ | ⟨hfaults, hpage⟩
      · rw [hfaults, and_iff_right (uninitFree_notMem_pageFaults msg),
          nullDeref_notMem_pageFaults_iff, forall_prop_of_true hpage]
      · rw [hfaults]
        exact iff_of_true ⟨List.not_mem_nil, List.not_mem_nil⟩ fun h ↦ absurd h hpage
  rcases msg.method with _ | _ | _ | name
  iterate 3 exact hserved.trans (and_iff_right nofun).symm
  simp

/-- A client that sends an `Authorization` of its own. -/
def bareRequest : Request where
  method := .get
  headers := [(ofString "Authorization", ofString "Digest")]

/-- `DELETE` frees a variable that was never assigned. A page on a path outside the domain is asked
for with an `Authorization` of the client's own, and `Uid` is missing. -/
theorem not_handlerFaults :
    (∃ (env : HttpEnv) (fs : FileSystem) (msg : Request) (path : List Char),
      msg.method = .other (ofString "DELETE") ∧ .uninitFree ∈ handlerFaults env fs msg path) ∧
    ∃ (env : HttpEnv) (fs : FileSystem) (msg : Request) (path : List Char),
      msg.method = .get ∧ ¬ Covered path ∧ .nullDeref ∈ handlerFaults env fs msg path := by
  constructor
  · refine ⟨quietEnv (ofString "/srv"), diskWith [], ⟨.other (ofString "DELETE"), []⟩, ['/'], rfl,
      ?_⟩
    exact List.mem_singleton_self _
  · obtain ⟨file, hfile⟩ : ∃ file,
        file = resolve [] ((ofString "/srv").chars ++ lit "//webroot/index.html") := ⟨_, rfl⟩
    have hroot : lit "//webroot/index.html" ≠ ['/'] := by decide +kernel
    have hpage : SendsPage (quietEnv (ofString "/srv")) (diskWith file) bareRequest
        (lit "//webroot/index.html") :=
      ⟨rfl, hroot, by decide +kernel, ⟨0, if_pos hfile.symm⟩, by decide +kernel,
        ⟨[], if_pos hfile.symm⟩, by decide +kernel⟩
    have hcovered : ¬ Covered (lit "//webroot/index.html") := by
      unfold Covered
      decide +kernel
    refine ⟨quietEnv (ofString "/srv"), diskWith file, bareRequest,
      lit "//webroot/index.html", rfl, hcovered, ?_⟩
    rw [handlerFaults_of_sendsPage rfl hpage]
    decide +kernel

end GstWebrtcCamera

import GstWebrtcCamera.Http.Serve

/-!
# Serving files next to a receiver

`webrtc-sendonly.c` and `rtspsrc-webrtc.c` have a `do_get` and a `soup_http_handler` each, which
differ in the directory, the pages and the page behind `/`. Unlike the handler of `soup.c` these end
with `soup_server_message_set_status(msg, SOUP_STATUS_OK, NULL)`, whatever was set before.
-/

namespace GstWebrtcCamera

open CString PosixPath

/-- What the two programs differ in. -/
structure Site where
  /-- The file for a path, given `$USER`. -/
  fullPath : Option CString → List Char → List Char
  /-- The names a request path may end in. -/
  httpSrc : List (List Char)
  /-- Where `/` leads. -/
  index : List Char

/-- The site of `webrtc-sendonly.c`. `g_strconcat` stops at a `NULL`. -/
def sendonlySite : Site where
  fullPath
    | none, _ => lit "/home/"
    | some user, path => lit "/home/" ++ user.chars ++ lit "/.config/gwc/" ++ path
  httpSrc :=
    [lit "bootstrap.min.css", lit "bootstrap.bundle.min.js", lit "jquery.min.js", lit "main.html",
      lit "main.js"]
  index := lit "/webroot/main.html"

/-- The site of `rtspsrc-webrtc.c`. -/
def rtspsrcSite : Site where
  fullPath
    | none, path => lit "/home/" ++ path
    | some user, path => lit "/home/" ++ user.chars ++ lit "/.config/gwc" ++ path
  httpSrc :=
    [lit "bootstrap.min.css", lit "bootstrap.bundle.min.js", lit "jquery.min.js",
      lit "rtspsrc.html"]
  index := lit "/webroot/rtspsrc.html"

namespace Site

variable (site : Site) (user : Option CString) (fs : FileSystem) (msg : Request) (path : List Char)

/-- `do_get`. `path` is the request path with a dot in front, which is dropped again. -/
def doGet : Response :=
  let tpath := site.fullPath user (if path.head? = some '.' then path.tail else path)
  if maxUrlLen ≤ tpath.length then { status := .internalServerError }
  else
    match fs.stat (resolve fs.cwd tpath) with
    | .error .eperm => { status := .forbidden }
    | .error .enoent => { status := .notFound }
    | .error .other => { status := .internalServerError }
    | .ok size =>
      if ¬ ∃ name ∈ site.httpSrc, name <:+ path then { status := .internalServerError }
      else if msg.method = .get then
        match fs.read (resolve fs.cwd tpath) with
        | none => { status := .internalServerError }
        | some bytes => { status := .ok, body := .mapped (resolve fs.cwd tpath) bytes }
      else { status := .ok, contentLength := some size }

/-- `soup_http_handler`. -/
def soupHttpHandler : Except Fault Response :=
  match msg.method with
  | .get | .post | .head =>
    if path = ['/'] then .ok { status := .movedPermanently, location := some site.index }
    else .ok { site.doGet user fs msg ('.' :: path) with status := .ok }
  -- sets 501, then frees `file_path`, which only the other branch assigns
  | .other _ => .error .uninitFree

/-- The status that is set on the way, before the last line. -/
def decided : Status :=
  match msg.method with
  | .get | .post | .head =>
    if path = ['/'] then .movedPermanently else (site.doGet user fs msg ('.' :: path)).status
  | .other _ => .notImplemented

/-- A readable whitelisted file for the path. -/
def Found : Prop :=
  (site.fullPath user path).length < maxUrlLen ∧ (∃ name ∈ site.httpSrc, name <:+ '.' :: path) ∧
    (∃ size, fs.stat (resolve fs.cwd (site.fullPath user path)) = .ok size) ∧
      ∃ bytes, fs.read (resolve fs.cwd (site.fullPath user path)) = some bytes

/-- The statuses of a refusal. -/
def refusals : List Status := [.notFound, .forbidden, .internalServerError, .notImplemented]

/-- The client is told what happened. -/
structure Honest : Prop where
  ok : ∀ r, site.soupHttpHandler user fs msg path = .ok r → r.status = .ok →
    site.Found user fs path
  refusal : site.decided user fs msg path ∈ refusals →
    ∃ r, site.soupHttpHandler user fs msg path = .ok r ∧
      r.status = site.decided user fs msg path

variable {site user fs path}

theorem Found.doGet_status (h : site.Found user fs path) (msg : Request) :
    (site.doGet user fs msg ('.' :: path)).status = .ok := by
  obtain ⟨hlen, hsuffix, ⟨size, hsize⟩, bytes, hbytes⟩ := h
  simp only [doGet, List.head?_cons, List.tail_cons, if_true]
  rw [if_neg (not_le.mpr hlen), hsize]
  simp only [hsuffix, not_true_eq_false, if_false]
  by_cases hget : msg.method = .get
  · rw [if_pos hget, hbytes]
  · rw [if_neg hget]

theorem honest_of_served {msg : Request}
    (hhandler : site.soupHttpHandler user fs msg path
      = if path = ['/'] then .ok { status := .movedPermanently, location := some site.index }
        else .ok { site.doGet user fs msg ('.' :: path) with status := .ok })
    (hdecided : site.decided user fs msg path
      = if path = ['/'] then .movedPermanently
        else (site.doGet user fs msg ('.' :: path)).status) :
    site.Honest user fs msg path ↔ path = ['/'] ∨ site.Found user fs path := by
  by_cases hroot : path = ['/']
  · rw [if_pos hroot] at hhandler hdecided
    refine iff_of_true ⟨fun r hr hok ↦ ?_, fun hrefusal ↦ ?_⟩ (.inl hroot)
    · obtain rfl := Except.ok.inj (hhandler.symm.trans hr)
      contradiction
    · exact ⟨_, hhandler, hdecided.symm⟩
  · rw [if_neg hroot] at hhandler hdecided
    rw [or_iff_right hroot]
    constructor
    · intro h
      exact h.ok _ hhandler rfl
    · intro hfound
      refine ⟨fun _ _ _ ↦ hfound, fun hrefusal ↦ ?_⟩
      rw [hdecided, hfound.doGet_status] at hrefusal
      exact absurd hrefusal (by decide)

/-- **What the client is told.** It is told what happened exactly if the method is served, and the
request is one for `/` or finds a readable file of the list. -/
theorem honest_iff (site : Site) (user : Option CString) (fs : FileSystem) (msg : Request)
    (path : List Char) :
    site.Honest user fs msg path
      ↔ (∀ name, msg.method ≠ .other name) ∧ (path = ['/'] ∨ site.Found user fs path) := by
  rcases hmethod : msg.method with _ | _ | _ | name
  iterate 3
    rw [and_iff_right nofun]
    exact honest_of_served (by simp [soupHttpHandler, hmethod]) (by simp [decided, hmethod])
  refine iff_of_false (fun h ↦ ?_) fun h ↦ h.1 name rfl
  have hdecided : site.decided user fs msg path = .notImplemented := by simp [decided, hmethod]
  obtain ⟨r, hr, -⟩ := h.refusal (by simp [hdecided, refusals])
  simp [soupHttpHandler, hmethod] at hr

end Site

/-- Both programs. -/
theorem receiverSites_honest_iff (user : Option CString) (fs : FileSystem) (msg : Request)
    (path : List Char) :
    (sendonlySite.Honest user fs msg path ↔ (∀ name, msg.method ≠ .other name) ∧
      (path = ['/'] ∨ sendonlySite.Found user fs path)) ∧
    (rtspsrcSite.Honest user fs msg path ↔ (∀ name, msg.method ≠ .other name) ∧
      (path = ['/'] ∨ rtspsrcSite.Found user fs path)) :=
  ⟨Site.honest_iff _ user fs msg path, Site.honest_iff _ user fs msg path⟩

/-- A disk with nothing on it. -/
def emptyDisk : FileSystem where
  cwd := []
  stat _ := .error .enoent
  read _ := none

theorem Site.not_honest_emptyDisk (site : Site) (user : Option CString) {msg : Request}
    (hget : msg.method = .get) {path : List Char} (hroot : path ≠ ['/']) :
    ¬ site.Honest user emptyDisk msg path := by
  intro h
  have hhandler : site.soupHttpHandler user emptyDisk msg path
      = .ok { site.doGet user emptyDisk msg ('.' :: path) with status := .ok } := by
    simp [soupHttpHandler, hget, hroot]
  obtain ⟨-, -, ⟨size, hsize⟩, -⟩ := h.ok _ hhandler rfl
  exact absurd hsize nofun

/-- On an empty disk a missing page is not answered with the 404 that was decided. -/
theorem not_receiverSites_honest :
    ∃ (user : Option CString) (fs : FileSystem) (msg : Request) (path : List Char),
      (sendonlySite.decided user fs msg path = .notFound ∧
        ¬ sendonlySite.Honest user fs msg path) ∧
      (rtspsrcSite.decided user fs msg path = .notFound ∧
        ¬ rtspsrcSite.Honest user fs msg path) := by
  have hroot : lit "/webroot/main.html" ≠ ['/'] := by decide +kernel
  refine ⟨some (ofString "camera"), emptyDisk, { method := .get, headers := [] },
    lit "/webroot/main.html", ⟨?_, Site.not_honest_emptyDisk _ _ rfl hroot⟩,
    ⟨?_, Site.not_honest_emptyDisk _ _ rfl hroot⟩⟩
  · decide +kernel
  · decide +kernel

end GstWebrtcCamera

import GstWebrtcCamera.Http.Request
import GstWebrtcCamera.Text.Path

/-!
# Serving files

`soup_http_handler` and `do_get` of `soup.c`. The server is asked for a path, prefixes it with the
configured directory, looks the result up, and then looks at how the *request* path ends to decide
whether to answer. Access control happens before, in libsoup, and looks at how the request path
begins. `authCovers_iff` puts the two together.

The body of a response remembers which file its bytes came from.
-/

namespace GstWebrtcCamera

open CString PosixPath

/-! ## Files and responses -/

inductive Errno
  | eperm
  | enoent
  | other
  deriving DecidableEq, Repr

/-- What `stat` and `g_mapped_file_new` see at a location. -/
structure FileSystem where
  cwd : Location
  /-- The size, or why the lookup failed. -/
  stat : Location → Except Errno ℕ
  read : Location → Option (List Char)

inductive Status
  | ok
  | movedPermanently
  | forbidden
  | notFound
  | internalServerError
  | notImplemented
  | insufficientStorage
  deriving DecidableEq, Repr

inductive Body
  | empty
  | text (s : List Char)
  | mapped (file : Location) (bytes : List Char)
  /-- A page, with its tag filled in. -/
  | page (file : Location) (bytes : List Char)
  deriving DecidableEq, Repr

structure Response where
  status : Status
  location : Option (List Char) := none
  contentLength : Option ℕ := none
  body : Body := .empty
  deriving DecidableEq, Repr

/-- The file whose bytes are in the answer. -/
def Response.file? (r : Response) : Option Location :=
  match r.body with
  | .mapped file _ | .page file _ => some file
  | .empty | .text _ => none

/-- What the handlers read besides the request: the configured directory, the connection table's
size and limit, and the session type of the desktop. -/
structure HttpEnv where
  webroot : CString
  tableSize : ℕ
  clientLimit : ℤ
  xdgSessionType : Option CString

/-! ## `do_get` -/

def maxUrlLen : ℕ := 1024

/-- The names a request path may end in. -/
def httpSrc : List (List Char) :=
  [lit "bootstrap.min.css", lit "bootstrap.bundle.min.js", lit "jquery.min.js", lit "index.html",
    lit "hls.js", lit "webrtc.html", lit "webrtc.js"]

/-- `g_string_replace` without a limit. After a match the `skip` characters it covers are passed
over. -/
def gStringReplace (find replace : List Char) : ℕ → List Char → List Char
  | _, [] => []
  | skip + 1, _ :: cs => gStringReplace find replace skip cs
  | 0, c :: cs =>
    if find <+: c :: cs then replace ++ gStringReplace find replace (find.length - 1) cs
    else c :: gStringReplace find replace 0 cs

def metaTags (username : Option CString) (uid role : CString) (xdg : Option CString) : List Char :=
  lit "<meta name=\"user\" content=\"" ++ percentS username ++ lit "\">\n"
    ++ lit "<meta name=\"uid\" content=\"" ++ uid.chars ++ lit "\">\n"
    ++ lit "<meta name=\"role\" content=\"" ++ role.chars ++ lit "\">\n"
    ++ lit "<meta name=\"type\" content=\"" ++ percentS xdg ++ lit "\">\n"

/-- The page branch of `do_get`: without an `Authorization` header the page stays empty. -/
def htmlPage (env : HttpEnv) (msg : Request) (file : Location) (bytes : List Char) :
    Except Fault Response :=
  match getOne msg "Authorization" with
  | none => .ok { status := .ok }
  | some auth =>
    if getOne msg "Active" = some (ofString "off") then
      .ok { status := .forbidden, body := .text (lit "This account is inactive.") }
    else do
      let username ← getAuthValueByKey auth "username"
      let uid ← advance (getOne msg "Uid")
      let role ← advance (getOne msg "Role")
      let tags := metaTags username uid role env.xdgSessionType
      return {
        status := .ok
        body := .page file (gStringReplace (lit "\x7b\x7btag\x7d\x7d") tags 0 (cut bytes).chars) }

/-- `do_get` once the file is known to exist. -/
def sendFile (env : HttpEnv) (fs : FileSystem) (msg : Request) (path : List Char) (file : Location)
    (size : ℕ) : Except Fault Response :=
  if ¬ ∃ name ∈ httpSrc, name <:+ path then .ok { status := .internalServerError }
  else if msg.method = .get then
    match fs.read file with
    | none => .ok { status := .internalServerError }
    | some bytes =>
      if lit ".html" <:+ path then htmlPage env msg file bytes
      else .ok { status := .ok, body := .mapped file bytes }
  else .ok { status := .ok, contentLength := some size }

/-- `path` is the request path with a dot in front, which is dropped again. -/
def doGet (env : HttpEnv) (fs : FileSystem) (msg : Request) (path : List Char) :
    Except Fault Response :=
  let tpath := env.webroot.chars ++ if path.head? = some '.' then path.tail else path
  if maxUrlLen ≤ tpath.length then .ok { status := .internalServerError }
  else
    match fs.stat (resolve fs.cwd tpath) with
    | .error .eperm => .ok { status := .forbidden }
    | .error .enoent => .ok { status := .notFound }
    | .error .other => .ok { status := .internalServerError }
    | .ok size => sendFile env fs msg path (resolve fs.cwd tpath) size

/-! ## `soup_http_handler` -/

/-- The number of values of a `guint`. -/
def guintRange : ℕ := 4294967296

/-- `g_hash_table_size(table) > client_limit` converts the limit to `guint`. -/
def tableFull (env : HttpEnv) : Bool := env.clientLimit % guintRange < env.tableSize

def soupHttpHandler (env : HttpEnv) (fs : FileSystem) (msg : Request) (path : List Char) :
    Except Fault Response :=
  if tableFull env then
    .ok {
      status := .insufficientStorage
      body := .text (lit "The maximum number of connections has been reached.") }
  else
    match msg.method with
    | .get | .post | .head =>
      if path = ['/'] then
        .ok { status := .movedPermanently, location := some (lit "/webroot/index.html") }
      else doGet env fs msg ('.' :: path)
    -- answers 501, then frees `file_path`, which only the other branch assigns
    | .other _ => .error .uninitFree

/-! ## Which file is answered -/

private theorem bind_ok {α β : Type} {x : Except Fault α} {f : α → Except Fault β} {b : β}
    (h : (x >>= f) = .ok b) : ∃ a, x = .ok a ∧ f a = .ok b := by
  cases x with
  | error e => exact absurd h nofun
  | ok a => exact ⟨a, rfl, h⟩

private theorem not_file_of_empty {r r' : Response} {f : Location}
    (h : (.ok r' : Except Fault Response) = .ok r) (hf : r.file? = some f)
    (hempty : r'.file? = none) : False := by
  obtain rfl := Except.ok.inj h
  rw [hempty] at hf
  contradiction

theorem htmlPage_file {env : HttpEnv} {msg : Request} {file f : Location} {bytes : List Char}
    {r : Response} (h : htmlPage env msg file bytes = .ok r) (hf : r.file? = some f) :
    f = file := by
  rw [htmlPage] at h
  split at h
  · exact (not_file_of_empty h hf rfl).elim
  · split_ifs at h
    · exact (not_file_of_empty h hf rfl).elim
    · obtain ⟨username, -, h⟩ := bind_ok h
      obtain ⟨uid, -, h⟩ := bind_ok h
      obtain ⟨role, -, h⟩ := bind_ok h
      obtain rfl := Except.ok.inj h
      exact (Option.some.inj hf).symm

theorem sendFile_file {env : HttpEnv} {fs : FileSystem} {msg : Request} {path : List Char}
    {file f : Location} {size : ℕ} {r : Response} (h : sendFile env fs msg path file size = .ok r)
    (hf : r.file? = some f) : f = file ∧ ∃ name ∈ httpSrc, name <:+ path := by
  rw [sendFile] at h
  by_cases hsuffix : ∃ name ∈ httpSrc, name <:+ path
  · refine ⟨?_, hsuffix⟩
    rw [if_neg (not_not.mpr hsuffix)] at h
    by_cases hget : msg.method = .get
    · rw [if_pos hget] at h
      split at h
      · exact (not_file_of_empty h hf rfl).elim
      · by_cases hhtml : lit ".html" <:+ path
        · rw [if_pos hhtml] at h
          exact htmlPage_file h hf
        · rw [if_neg hhtml] at h
          obtain rfl := Except.ok.inj h
          exact (Option.some.inj hf).symm
    · rw [if_neg hget] at h
      exact (not_file_of_empty h hf rfl).elim
  · rw [if_pos hsuffix] at h
    exact (not_file_of_empty h hf rfl).elim

/-- The only file in an answer is the one the path leads to, and the path is short enough and has
one of the expected endings. -/
theorem doGet_file {env : HttpEnv} {fs : FileSystem} {msg : Request} {path : List Char}
    {r : Response} {f : Location} (h : doGet env fs msg ('.' :: path) = .ok r)
    (hf : r.file? = some f) :
    f = resolve fs.cwd (env.webroot.chars ++ path) ∧ (∃ name ∈ httpSrc, name <:+ '.' :: path) ∧
      (env.webroot.chars ++ path).length < maxUrlLen := by
  simp only [doGet, List.head?_cons, List.tail_cons, if_true] at h
  by_cases hlen : maxUrlLen ≤ (env.webroot.chars ++ path).length
  · rw [if_pos hlen] at h
    exact (not_file_of_empty h hf rfl).elim
  · rw [if_neg hlen] at h
    split at h
    iterate 3 exact (not_file_of_empty h hf rfl).elim
    obtain ⟨hfile, hsuffix⟩ := sendFile_file h hf
    exact ⟨hfile, hsuffix, not_le.mp hlen⟩

theorem doGet_of_stat {env : HttpEnv} {fs : FileSystem} {msg : Request} {path : List Char}
    {size : ℕ} (hlen : (env.webroot.chars ++ path).length < maxUrlLen)
    (hstat : fs.stat (resolve fs.cwd (env.webroot.chars ++ path)) = .ok size) :
    doGet env fs msg ('.' :: path)
      = sendFile env fs msg ('.' :: path) (resolve fs.cwd (env.webroot.chars ++ path)) size := by
  simp only [doGet, List.head?_cons, List.tail_cons, if_true]
  rw [if_neg (not_le.mpr hlen), hstat]

theorem doGet_of_soupHttpHandler_file {env : HttpEnv} {fs : FileSystem} {msg : Request}
    {path : List Char} {r : Response} {f : Location}
    (h : soupHttpHandler env fs msg path = .ok r) (hf : r.file? = some f) :
    doGet env fs msg ('.' :: path) = .ok r := by
  rw [soupHttpHandler] at h
  by_cases hfull : tableFull env
  · rw [if_pos hfull] at h
    exact (not_file_of_empty h hf rfl).elim
  rw [if_neg hfull] at h
  by_cases hroot : path = ['/']
  · simp only [hroot, if_true] at h
    split at h
    iterate 3 exact (not_file_of_empty h hf rfl).elim
    exact absurd h nofun
  · simp only [hroot, if_false] at h
    split at h
    iterate 3 exact h
    exact absurd h nofun

/-! ## Access control -/

/-- A path that libsoup hands over: absolute, without a `..` segment. -/
structure RequestPath extends CString where
  absolute : ∃ rest, chars = '/' :: rest
  noDotDot : dotDot ∉ segments chars

/-- The digest domain: `soup_auth_domain_add_path(auth_domain, "/webroot")`. -/
def Covered (path : List Char) : Prop := lit "/webroot" <+: path

/-- The directory that holds the pages. -/
def pageDir (webroot : CString) (cwd : Location) : Location :=
  resolve cwd (webroot.chars ++ lit "/webroot")

/-- Nobody gets the bytes of a page by this path without a login. -/
def AuthCovers (webroot : CString) (p : RequestPath) : Prop :=
  ∀ (env : HttpEnv) (fs : FileSystem) (msg : Request) (r : Response) (file : Location),
    env.webroot = webroot → soupHttpHandler env fs msg p.chars = .ok r → r.file? = some file →
    Below (pageDir webroot fs.cwd) file → Covered p.chars

/-- The path leads to a page: its names start with the directory, its last one is expected, and the
full path fits the buffer. -/
def Reaches (webroot : CString) (p : RequestPath) : Prop :=
  (∃ name rest, names p.chars = lit "webroot" :: name :: rest) ∧
    (∃ name ∈ httpSrc, name <:+ p.chars) ∧ (webroot.chars ++ p.chars).length < maxUrlLen

private theorem lit_webroot : lit "/webroot" = '/' :: lit "webroot" := by decide +kernel

theorem below_pageDir_iff (webroot : CString) (cwd : Location) (p : RequestPath) :
    Below (pageDir webroot cwd) (resolve cwd (webroot.chars ++ p.chars))
      ↔ ∃ name rest, names p.chars = lit "webroot" :: name :: rest := by
  obtain ⟨rest, hrest⟩ := p.absolute
  have hdots : dotDot ∉ segments rest := by
    intro hmem
    apply p.noDotDot
    rw [hrest, segments_slash]
    exact List.mem_cons_of_mem _ hmem
  have hdir : dotDot ∉ segments (lit "webroot") := by decide +kernel
  have hnames : names (lit "webroot") = [lit "webroot"] := by decide +kernel
  rw [pageDir, lit_webroot, hrest, resolve_append_slash _ _ hdots, resolve_append_slash _ _ hdir,
    below_append_iff, hnames, names_slash]
  rfl

/-- No expected ending starts with the dot that the handler puts in front. -/
theorem suffix_dot_cons_iff {path : List Char} :
    (∃ name ∈ httpSrc, name <:+ '.' :: path) ↔ ∃ name ∈ httpSrc, name <:+ path := by
  have hhead : ∀ name ∈ httpSrc, name.head? ≠ some '.' := by decide +kernel
  refine exists_congr fun name ↦ and_congr_right fun hname ↦ ?_
  rw [List.suffix_cons_iff]
  refine or_iff_right ?_
  rintro rfl
  exact hhead _ hname rfl

/-- A client that sends the headers of a login itself. -/
def forgedRequest : Request where
  method := .get
  headers := [(ofString "Authorization", ofString ""), (ofString "Uid", ofString " 1"),
    (ofString "Role", ofString " 1")]

/-- A disk with one file. -/
def diskWith (file : Location) : FileSystem where
  cwd := []
  stat := fun l ↦ if l = file then .ok 0 else .error .enoent
  read := fun l ↦ if l = file then some [] else none

def quietEnv (webroot : CString) : HttpEnv where
  webroot := webroot
  tableSize := 0
  clientLimit := 3
  xdgSessionType := none

private theorem htmlPage_forgedRequest (env : HttpEnv) (file : Location) (bytes : List Char) :
    ∃ r, htmlPage env forgedRequest file bytes = .ok r ∧ r.file? = some file := by
  have hauth : getOne forgedRequest "Authorization" = some (ofString "") := by decide +kernel
  have hactive : getOne forgedRequest "Active" ≠ some (ofString "off") := by decide +kernel
  have huser : getAuthValueByKey (ofString "") "username" = .ok none := by decide +kernel
  have huid : advance (getOne forgedRequest "Uid") = .ok (ofString "1") := by decide +kernel
  have hrole : advance (getOne forgedRequest "Role") = .ok (ofString "1") := by decide +kernel
  simp only [htmlPage, hauth, if_neg hactive, huser, huid, hrole]
  exact ⟨_, rfl, rfl⟩

theorem exists_file_of_reaches {webroot : CString} {p : RequestPath} (h : Reaches webroot p) :
    ∃ fs r, fs.cwd = [] ∧
      soupHttpHandler (quietEnv webroot) fs forgedRequest p.chars = .ok r ∧
      r.file? = some (resolve [] (webroot.chars ++ p.chars)) := by
  obtain ⟨⟨name, rest, hnames⟩, hsuffix, hlen⟩ := h
  have hroot : p.chars ≠ ['/'] := by
    intro heq
    rw [heq, show names ['/'] = [] by decide +kernel] at hnames
    contradiction
  obtain ⟨file, hfile⟩ : ∃ file, file = resolve [] (webroot.chars ++ p.chars) := ⟨_, rfl⟩
  have hdo : soupHttpHandler (quietEnv webroot) (diskWith file) forgedRequest p.chars
      = doGet (quietEnv webroot) (diskWith file) forgedRequest ('.' :: p.chars) := by
    have hfull : tableFull (quietEnv webroot) = false := rfl
    simp only [soupHttpHandler, hfull, forgedRequest, if_neg hroot]
    rfl
  have hsend : doGet (quietEnv webroot) (diskWith file) forgedRequest ('.' :: p.chars)
      = sendFile (quietEnv webroot) (diskWith file) forgedRequest ('.' :: p.chars) file 0 := by
    rw [hfile]
    exact doGet_of_stat hlen (if_pos rfl)
  have hread : (diskWith file).read file = some [] := if_pos rfl
  refine ⟨diskWith file, ?_⟩
  rw [hdo, hsend, sendFile, if_neg (not_not.mpr (suffix_dot_cons_iff.mpr hsuffix)),
    if_pos (show forgedRequest.method = .get from rfl), hread, ← hfile]
  by_cases hhtml : lit ".html" <:+ '.' :: p.chars
  · simp only [if_pos hhtml]
    obtain ⟨r, hr, hrfile⟩ := htmlPage_forgedRequest (quietEnv webroot) file []
    exact ⟨r, rfl, hr, hrfile⟩
  · simp only [if_neg hhtml]
    exact ⟨_, rfl, rfl, rfl⟩

/-- **What the login covers.** The pages are behind the login on a path exactly when the path is
spelled with the prefix, or does not lead to a page at all. -/
theorem authCovers_iff (webroot : CString) (p : RequestPath) :
    AuthCovers webroot p ↔ Covered p.chars ∨ ¬ Reaches webroot p := by
  constructor
  · intro h
    by_cases hreach : Reaches webroot p
    · obtain ⟨fs, r, hcwd, hr, hfile⟩ := exists_file_of_reaches hreach
      have hbelow := (below_pageDir_iff webroot [] p).mpr hreach.1
      exact Or.inl (h _ fs _ r _ rfl hr hfile (hcwd ▸ hbelow))
    · exact Or.inr hreach
  · rintro (hcov | hreach) env fs msg r file rfl hr hfile hbelow
    · exact hcov
    · obtain ⟨rfl, hsuffix, hlen⟩ := doGet_file (doGet_of_soupHttpHandler_file hr hfile) hfile
      have hnames := (below_pageDir_iff _ _ p).mp hbelow
      exact absurd ⟨hnames, suffix_dot_cons_iff.mp hsuffix, hlen⟩ hreach

/-- A second slash in front names the same file outside the domain. -/
def aliasPath : RequestPath where
  chars := lit "//webroot/webrtc.js"
  noNul := by decide +kernel
  absolute := ⟨lit "/webroot/webrtc.js", by decide +kernel⟩
  noDotDot := by decide +kernel

theorem not_authCovers_aliasPath : ¬ AuthCovers (ofString "/home/user/.config/gwc") aliasPath := by
  intro h
  have hnames : ∃ name rest, names aliasPath.chars = lit "webroot" :: name :: rest :=
    ⟨lit "webrtc.js", [], by decide +kernel⟩
  have hreach : Reaches (ofString "/home/user/.config/gwc") aliasPath :=
    ⟨hnames, by decide +kernel, by decide +kernel⟩
  obtain ⟨fs, r, hcwd, hr, hfile⟩ := exists_file_of_reaches hreach
  have hbelow := (below_pageDir_iff (ofString "/home/user/.config/gwc") [] aliasPath).mpr hnames
  have hcov := h _ fs _ r _ rfl hr hfile (hcwd ▸ hbelow)
  exact absurd hcov (by unfold Covered; decide +kernel)

end GstWebrtcCamera

import GstWebrtcCamera.Http.Faults
import GstWebrtcCamera.Sql.Statements

/-!
# Identity from the login to the page

`digest_auth_callback` looks the user up and appends `Uid`, `Role` and `Active` to the headers of
the request, and the page handler reads them back from there. A client may send headers of these
names itself. They come first in the list, and `soup_message_headers_get_one` takes the last, so on
a page behind a login they have no effect.
-/

namespace GstWebrtcCamera

open CString PosixPath

/-! ## The callback -/

/-- A row of `webrtc_user` as the JSON members are read. -/
structure UserRow where
  uid : ℤ
  name : Option CString
  pwd : Option CString
  active : ℤ
  role : ℤ
  deriving DecidableEq

/-- What `get_user_auth` gives. -/
inductive UserAuth
  | null
  | unparsable
  /-- The text has no root. -/
  | rootless
  | row (r : UserRow)
  deriving DecidableEq

/-- `% lld`: a space in place of a plus sign. -/
def percentSpaceD (n : ℤ) : List Char :=
  if 0 ≤ n then ' ' :: Nat.toDigits 10 n.toNat else '-' :: Nat.toDigits 10 n.natAbs

/-- The headers that are appended. -/
def loginHeaders (row : UserRow) : List (CString × CString) :=
  [(ofString "Uid", cut (percentSpaceD row.uid)), (ofString "Role", cut (percentSpaceD row.role)),
    (ofString "Active", ofString (if row.active ≠ 0 then "on" else "off"))]

/-- What is left when the callback returns. -/
structure DigestAuth where
  ret : Option CString
  msg : Request
  log : List SqlCall
  /-- The row, if the last line was reached. -/
  row : Option UserRow

def Method.text : Method → CString
  | .get => ofString "GET"
  | .post => ofString "POST"
  | .head => ofString "HEAD"
  | .other name => name

/-- The row for `http_log`, written for pages. -/
def accessLog (msg : Request) (auth : CString) (uri : Option CString) :
    Except Fault (List SqlCall) :=
  match uri with
  | none => .ok []
  | some uri =>
    if lit ".html" <:+ uri.chars then do
      let dname ← getAuthValueByKey auth "username"
      return [.httpLog (getOne msg "Host") msg.method.text (some uri) dname
        (getOne msg "User-Agent") (getOne msg "X-Forwarded-For")]
    else .ok []

/-- `digest_auth_callback`. Every way out but the last returns `NULL`. -/
def digestAuthCallback (getUserAuth : CString → CString → UserAuth) (msg : Request)
    (username : CString) : Except Fault DigestAuth :=
  match getOne msg "authorization" with
  | none => .ok { ret := none, msg := msg, log := [], row := none }
  | some auth => do
    let uri ← getAuthValueByKey auth "uri"
    let log ← accessLog msg auth uri
    let realm ← getAuthValueByKey auth "realm"
    match realm with
    | none => return { ret := none, msg := msg, log := log, row := none }
    | some realm =>
      match getUserAuth username realm with
      | .null | .unparsable | .rootless =>
        return { ret := none, msg := msg, log := log, row := none }
      | .row row =>
        if row.name = none then return { ret := none, msg := msg, log := log, row := none }
        else
          return {
            ret := row.pwd
            msg := { msg with headers := msg.headers ++ loginHeaders row }
            log := log
            row := some row }

/-! ## Headers from two sources -/

/-- The headers that carry an identity. -/
def isIdentity (name : CString) : Bool :=
  ["Uid", "Role", "Active"].any fun s ↦ sameName name (ofString s)

/-- The requests differ in identity headers only. -/
structure SameButIdentity (m₁ m₂ : Request) : Prop where
  method : m₁.method = m₂.method
  headers : m₁.headers.filter (fun h ↦ !isIdentity h.1)
    = m₂.headers.filter fun h ↦ !isIdentity h.1

/-- The headers after a login. -/
def Request.loggedIn (msg : Request) (row : UserRow) : Request :=
  { msg with headers := msg.headers ++ loginHeaders row }

/-- The ways out of the callback. It reaches its end with the row of the user, or it returns `NULL`
and leaves the request as it is. -/
theorem digestAuthCallback_cases {getUserAuth : CString → CString → UserAuth} {msg : Request}
    {username : CString} {c : DigestAuth}
    (h : digestAuthCallback getUserAuth msg username = .ok c) :
    (∃ auth realm row, getOne msg "authorization" = some auth ∧
        getAuthValueByKey auth "realm" = .ok (some realm) ∧
        getUserAuth username realm = .row row ∧ row.name ≠ none ∧
        c.ret = row.pwd ∧ c.msg = msg.loggedIn row ∧ c.row = some row) ∨
      (c.ret = none ∧ c.msg = msg ∧ c.row = none ∧
        ∀ auth realm row, getOne msg "authorization" = some auth →
          getAuthValueByKey auth "realm" = .ok (some realm) →
            getUserAuth username realm = .row row → row.name = none) := by
  rw [digestAuthCallback] at h
  rcases hauth : getOne msg "authorization" with _ | auth
  · rw [hauth] at h
    obtain rfl := Except.ok.inj h
    refine .inr ⟨rfl, rfl, rfl, fun auth _ _ hsome ↦ ?_⟩
    cases hsome
  rw [hauth] at h
  rcases huri : getAuthValueByKey auth "uri" with e | uri
  · simp [huri, bind, Except.bind] at h
  rcases hlog : accessLog msg auth uri with e | log
  · simp [huri, hlog, bind, Except.bind] at h
  rcases hrealm : getAuthValueByKey auth "realm" with e | realm
  · simp [huri, hlog, hrealm, bind, Except.bind] at h
  simp only [huri, hlog, hrealm, bind, Except.bind, pure, Except.pure] at h
  rcases realm with _ | realm
  · obtain rfl := Except.ok.inj h
    refine .inr ⟨rfl, rfl, rfl, fun auth' realm' _ hsome hthere ↦ ?_⟩
    rw [← Option.some.inj hsome, hrealm] at hthere
    cases hthere
  by_cases hrow : ∃ row, getUserAuth username realm = .row row ∧ row.name ≠ none
  · obtain ⟨row, huser, hname⟩ := hrow
    simp only [huser, if_neg hname] at h
    obtain rfl := Except.ok.inj h
    exact .inl ⟨auth, realm, row, rfl, hrealm, huser, hname, rfl, rfl, rfl⟩
  · have hnone : c = { ret := none, msg := msg, log := log, row := none } := by
      rcases huser : getUserAuth username realm with _ | _ | _ | row
      iterate 3
        simp only [huser] at h
        exact (Except.ok.inj h).symm
      have hname : row.name = none := by
        by_contra hname
        exact hrow ⟨row, huser, hname⟩
      simp only [huser, if_pos hname] at h
      exact (Except.ok.inj h).symm
    rw [hnone]
    refine .inr ⟨rfl, rfl, rfl, fun auth' realm' row hsome hthere huser ↦ ?_⟩
    rw [← Option.some.inj hsome, hrealm] at hthere
    obtain rfl := Option.some.inj (Except.ok.inj hthere)
    by_contra hname
    exact hrow ⟨row, huser, hname⟩

theorem msg_of_row {getUserAuth : CString → CString → UserAuth} {msg : Request}
    {username : CString} {c : DigestAuth} {row : UserRow}
    (h : digestAuthCallback getUserAuth msg username = .ok c) (hrow : c.row = some row) :
    c.msg = msg.loggedIn row ∧ ∃ auth, getOne msg "authorization" = some auth := by
  obtain ⟨auth, _, row', hauth, -, -, -, -, hmsg, hrow'⟩ | ⟨-, -, hnone, -⟩ :=
    digestAuthCallback_cases h
  · obtain rfl := Option.some.inj (hrow'.symm.trans hrow)
    exact ⟨hmsg, auth, hauth⟩
  · rw [hnone] at hrow
    cases hrow

theorem getOne_loggedIn (msg : Request) (row : UserRow) (name : String) :
    getOne (msg.loggedIn row) name
      = (getOne { msg with headers := loginHeaders row } name).or (getOne msg name) := by
  rw [getOne, getOne, getOne, Request.loggedIn, List.reverse_append, List.find?_append,
    Option.map_or]

theorem getOne_loginHeaders (msg : Request) (row : UserRow) :
    getOne { msg with headers := loginHeaders row } "Uid" = some (cut (percentSpaceD row.uid)) ∧
      getOne { msg with headers := loginHeaders row } "Role"
        = some (cut (percentSpaceD row.role)) ∧
      getOne { msg with headers := loginHeaders row } "Active"
        = some (ofString (if row.active ≠ 0 then "on" else "off")) ∧
      getOne { msg with headers := loginHeaders row } "Authorization" = none := by
  have h : ∀ s ∈ ["Uid", "Role", "Active"], ∀ s' ∈ ["Uid", "Role", "Active", "Authorization"],
      sameName (ofString s) (ofString s') = decide (s = s') := by decide +kernel
  simp only [List.forall_mem_cons] at h
  simp [getOne, loginHeaders, h]

theorem getOne_authorization (msg : Request) :
    getOne msg "authorization" = getOne msg "Authorization" := by
  have hlower : (ofString "authorization").chars.map Char.toLower
      = (ofString "Authorization").chars.map Char.toLower := by decide +kernel
  simp only [getOne, sameName, hlower]

theorem SameButIdentity.getOne_authorization {m₁ m₂ : Request} (h : SameButIdentity m₁ m₂) :
    getOne m₁ "Authorization" = getOne m₂ "Authorization" := by
  have hnot : ∀ name : CString, sameName name (ofString "Authorization") = true →
      isIdentity name = false := by
    intro name hname
    have hlower : ∀ s ∈ ["Uid", "Role", "Active"],
        ((ofString "Authorization").chars.map Char.toLower
          == (ofString s).chars.map Char.toLower) = false := by decide +kernel
    rw [isIdentity, List.any_eq_false]
    intro s hs
    rw [sameName, eq_of_beq hname, hlower s hs]
    exact Bool.false_ne_true
  have hfilter : ∀ m : Request,
      m.headers.reverse.find? (fun h ↦ sameName h.1 (ofString "Authorization"))
        = (m.headers.filter fun h ↦ !isIdentity h.1).reverse.find?
            fun h ↦ sameName h.1 (ofString "Authorization") := by
    intro m
    rw [← List.filter_reverse, List.find?_filter]
    refine congrArg (List.find? · _) (funext fun header ↦ ?_)
    rcases hname : sameName header.1 (ofString "Authorization") with _ | _
    · simp
    · simp [hnot _ hname]
  rw [getOne, getOne, hfilter, hfilter, h.headers]

/-! ## What the page depends on -/

/-- The headers the page handler reads. -/
structure SameHeaders (m₁ m₂ : Request) : Prop where
  authorization : getOne m₁ "Authorization" = getOne m₂ "Authorization"
  active : getOne m₁ "Active" = getOne m₂ "Active"
  uid : getOne m₁ "Uid" = getOne m₂ "Uid"
  role : getOne m₁ "Role" = getOne m₂ "Role"

theorem SameHeaders.doGet_eq {m₁ m₂ : Request} (h : SameHeaders m₁ m₂)
    (hmethod : m₁.method = m₂.method) (env : HttpEnv) (fs : FileSystem) (path : List Char) :
    doGet env fs m₁ path = doGet env fs m₂ path := by
  simp only [doGet, sendFile, htmlPage, h.authorization, h.active, h.uid, h.role, hmethod]

theorem SameButIdentity.loggedIn {m₁ m₂ : Request} (h : SameButIdentity m₁ m₂) (row : UserRow) :
    SameHeaders (m₁.loggedIn row) (m₂.loggedIn row) := by
  obtain ⟨huid₁, hrole₁, hactive₁, hauth₁⟩ := getOne_loginHeaders m₁ row
  obtain ⟨huid₂, hrole₂, hactive₂, hauth₂⟩ := getOne_loginHeaders m₂ row
  constructor
  · rw [getOne_loggedIn, getOne_loggedIn, hauth₁, hauth₂, h.getOne_authorization]
  · rw [getOne_loggedIn, getOne_loggedIn, hactive₁, hactive₂, Option.some_or, Option.some_or]
  · rw [getOne_loggedIn, getOne_loggedIn, huid₁, huid₂, Option.some_or, Option.some_or]
  · rw [getOne_loggedIn, getOne_loggedIn, hrole₁, hrole₂, Option.some_or, Option.some_or]

/-- After a login the page handler has what it takes for granted, unless the user name cannot be
read from the header. -/
theorem headersPresent_loggedIn {msg : Request} (row : UserRow)
    (husername : ∀ auth, getOne msg "Authorization" = some auth →
      ∀ piece, firstPiece auth "username" = some piece → '=' ∈ piece) :
    HeadersPresent (msg.loggedIn row) := by
  obtain ⟨huid, hrole, -, hauth⟩ := getOne_loginHeaders msg row
  intro auth hget _
  rw [getOne_loggedIn, hauth, Option.none_or] at hget
  rw [getOne_loggedIn, getOne_loggedIn, huid, hrole]
  exact ⟨husername auth hget, Option.some_ne_none _, Option.some_ne_none _⟩

/-- A page that is there and on the list, asked for by `GET`. -/
structure AsksPage (env : HttpEnv) (fs : FileSystem) (msg : Request) (path : List Char) : Prop where
  get : msg.method = .get
  stat : ∃ size, fs.stat (resolve fs.cwd (env.webroot.chars ++ path)) = .ok size
  listed : ∃ name ∈ httpSrc, name <:+ '.' :: path
  html : lit ".html" <:+ '.' :: path

/-- The page can be sent: its name fits the buffer, and the file can be mapped. -/
def Sendable (env : HttpEnv) (fs : FileSystem) (path : List Char) : Prop :=
  (env.webroot.chars ++ path).length < maxUrlLen ∧
    (fs.read (resolve fs.cwd (env.webroot.chars ++ path))).isSome

instance (env : HttpEnv) (fs : FileSystem) (path : List Char) : Decidable (Sendable env fs path) :=
  inferInstanceAs (Decidable (_ ∧ _))

theorem doGet_inactive {env : HttpEnv} {fs : FileSystem} {msg : Request} {path : List Char}
    (hpage : AsksPage env fs msg path) {auth : CString}
    (hauth : getOne msg "Authorization" = some auth)
    (hactive : getOne msg "Active" = some (ofString "off")) :
    ∃ r, doGet env fs msg ('.' :: path) = .ok r ∧ r.file? = none ∧
      r.status = if Sendable env fs path then .forbidden else .internalServerError := by
  obtain ⟨size, hsize⟩ := hpage.stat
  by_cases hlen : (env.webroot.chars ++ path).length < maxUrlLen
  · rw [doGet_of_stat hlen hsize, sendFile, if_neg (not_not.mpr hpage.listed), if_pos hpage.get]
    rcases hread : fs.read (resolve fs.cwd (env.webroot.chars ++ path)) with _ | bytes
    · have hnot : ¬ Sendable env fs path := fun h ↦ by simp [Sendable, hread] at h
      rw [if_neg hnot]
      exact ⟨_, rfl, rfl, rfl⟩
    · have hsendable : Sendable env fs path := ⟨hlen, by rw [hread]; rfl⟩
      simp only [if_pos hpage.html, htmlPage, hauth, hactive, if_true, if_pos hsendable]
      exact ⟨_, rfl, rfl, rfl⟩
  · have hnot : ¬ Sendable env fs path := fun h ↦ hlen h.1
    simp only [doGet, List.head?_cons, List.tail_cons, if_true, if_pos (not_lt.mp hlen),
      if_neg hnot]
    exact ⟨_, rfl, rfl, rfl⟩

theorem doGet_loggedIn_inactive {env : HttpEnv} {fs : FileSystem} {msg : Request}
    {path : List Char} {row : UserRow} (hpage : AsksPage env fs msg path) {auth : CString}
    (hauth : getOne msg "authorization" = some auth) (hrow : row.active = 0) :
    ∃ r, doGet env fs (msg.loggedIn row) ('.' :: path) = .ok r ∧ r.file? = none ∧
      r.status = if Sendable env fs path then .forbidden else .internalServerError := by
  obtain ⟨-, -, hactive, hauth'⟩ := getOne_loginHeaders msg row
  rw [getOne_authorization] at hauth
  have hlogin : getOne (msg.loggedIn row) "Authorization" = some auth := by
    rw [getOne_loggedIn, hauth', Option.none_or, hauth]
  have hoff : getOne (msg.loggedIn row) "Active" = some (ofString "off") := by
    rw [getOne_loggedIn, hactive, hrow]
    rfl
  exact doGet_inactive ⟨hpage.get, hpage.stat, hpage.listed, hpage.html⟩ hlogin hoff

/-- **Identity comes from the login.** Two requests that are accepted with the same row and differ
in identity headers only are answered alike, and an inactive user gets no page. -/
theorem doGet_login {getUserAuth₁ getUserAuth₂ : CString → CString → UserAuth} {m₁ m₂ : Request}
    {username : CString} {c₁ c₂ : DigestAuth} {row : UserRow} (hsame : SameButIdentity m₁ m₂)
    (h₁ : digestAuthCallback getUserAuth₁ m₁ username = .ok c₁) (hrow₁ : c₁.row = some row)
    (h₂ : digestAuthCallback getUserAuth₂ m₂ username = .ok c₂) (hrow₂ : c₂.row = some row)
    (env : HttpEnv) (fs : FileSystem) (path : List Char) :
    doGet env fs c₁.msg ('.' :: path) = doGet env fs c₂.msg ('.' :: path) ∧
      (row.active = 0 → AsksPage env fs m₁ path →
        ∃ r, doGet env fs c₁.msg ('.' :: path) = .ok r ∧ r.file? = none ∧
          r.status = if Sendable env fs path then .forbidden else .internalServerError) := by
  obtain ⟨hmsg₁, auth, hauth⟩ := msg_of_row h₁ hrow₁
  obtain ⟨hmsg₂, -⟩ := msg_of_row h₂ hrow₂
  rw [hmsg₁, hmsg₂]
  refine ⟨(hsame.loggedIn row).doGet_eq hsame.method env fs _, fun hactive hpage ↦ ?_⟩
  exact doGet_loggedIn_inactive hpage hauth hactive

/-! ## A login -/

def digestText : CString :=
  ofString "Digest username=\"admin\", realm=\"gwc\", uri=\"/webroot/index.html\""

/-- A request for a page, with headers of the client's own in front. -/
def loginRequest (own : List (CString × CString)) : Request where
  method := .get
  headers := own ++ [(ofString "Authorization", digestText)]

def inactiveRow : UserRow where
  uid := 7
  name := some (ofString "admin")
  pwd := some (ofString "secret")
  active := 0
  role := 2

theorem exists_callback_loginRequest (own : List (CString × CString)) :
    ∃ c, digestAuthCallback (fun _ _ ↦ .row inactiveRow) (loginRequest own) (ofString "admin")
      = .ok c ∧ c.row = some inactiveRow ∧ c.ret = some (ofString "secret") := by
  have hname : sameName (ofString "Authorization") (ofString "authorization") = true := by
    decide +kernel
  have hauth : getOne (loginRequest own) "authorization" = some digestText := by
    simp [getOne, loginRequest, hname]
  have huri : getAuthValueByKey digestText "uri" = .ok (some (ofString "/webroot/index.html")) := by
    decide +kernel
  have huser : getAuthValueByKey digestText "username" = .ok (some (ofString "admin")) := by
    decide +kernel
  have hrealm : getAuthValueByKey digestText "realm" = .ok (some (ofString "gwc")) := by
    decide +kernel
  have hhtml : lit ".html" <:+ (ofString "/webroot/index.html").chars := by decide +kernel
  simp only [digestAuthCallback, hauth, huri, hrealm, accessLog, hhtml, if_true, huser, bind,
    Except.bind, pure, Except.pure, inactiveRow, reduceCtorEq, if_false]
  exact ⟨_, rfl, rfl, rfl⟩

/-- A disk on which every page is there, with these contents. -/
def pageDisk (bytes : Option (List Char)) : FileSystem where
  cwd := []
  stat _ := .ok 0
  read _ := bytes

theorem asksPage_loginRequest (own : List (CString × CString)) (bytes : Option (List Char)) :
    AsksPage (quietEnv (ofString "/srv")) (pageDisk bytes) (loginRequest own)
      (lit "/webroot/index.html") :=
  ⟨rfl, ⟨0, rfl⟩, by decide +kernel, by decide +kernel⟩

/-- A role of the client's own does not help an inactive user. -/
theorem doGet_login_inactive :
    ∃ c₁ c₂ : DigestAuth, c₁.row = some inactiveRow ∧ c₂.row = some inactiveRow ∧
      doGet (quietEnv (ofString "/srv")) (pageDisk (some [])) c₁.msg
          ('.' :: lit "/webroot/index.html")
        = doGet (quietEnv (ofString "/srv")) (pageDisk (some [])) c₂.msg
          ('.' :: lit "/webroot/index.html") ∧
      ∃ r, doGet (quietEnv (ofString "/srv")) (pageDisk (some [])) c₁.msg
        ('.' :: lit "/webroot/index.html") = .ok r ∧ r.status = .forbidden := by
  obtain ⟨c₁, h₁, hrow₁, -⟩ := exists_callback_loginRequest [(ofString "Active", ofString "on")]
  obtain ⟨c₂, h₂, hrow₂, -⟩ := exists_callback_loginRequest []
  have hsame : SameButIdentity (loginRequest [(ofString "Active", ofString "on")])
      (loginRequest []) := ⟨rfl, by decide +kernel⟩
  obtain ⟨heq, hinactive⟩ := doGet_login hsame h₁ hrow₁ h₂ hrow₂ (quietEnv (ofString "/srv"))
    (pageDisk (some [])) (lit "/webroot/index.html")
  obtain ⟨r, hr, -, hstatus⟩ := hinactive rfl (asksPage_loginRequest _ _)
  refine ⟨c₁, c₂, hrow₁, hrow₂, heq, r, hr, hstatus.trans (if_pos ⟨?_, rfl⟩)⟩
  decide +kernel

/-- A page that cannot be mapped is refused before the account is looked at. -/
theorem not_doGet_login_forbidden :
    ∃ (env : HttpEnv) (fs : FileSystem) (m : Request) (username : CString) (c : DigestAuth)
      (row : UserRow) (path : List Char),
      digestAuthCallback (fun _ _ ↦ .row row) m username = .ok c ∧ c.row = some row ∧
        c.ret.isSome ∧ row.active = 0 ∧ Covered path ∧ AsksPage env fs m path ∧
        ∃ r, doGet env fs c.msg ('.' :: path) = .ok r ∧ r.status ≠ .forbidden := by
  obtain ⟨c, hc, hrow, hret⟩ := exists_callback_loginRequest []
  obtain ⟨hmsg, auth, hauth⟩ := msg_of_row hc hrow
  have hpage := asksPage_loginRequest [] none
  have hcovered : Covered (lit "/webroot/index.html") := by
    unfold Covered
    decide +kernel
  refine ⟨quietEnv (ofString "/srv"), pageDisk none, loginRequest [], ofString "admin", c,
    inactiveRow, lit "/webroot/index.html", hc, hrow, by rw [hret]; rfl, rfl, hcovered, hpage, ?_⟩
  obtain ⟨r, hr, -, hstatus⟩ := doGet_loggedIn_inactive hpage hauth (rfl : inactiveRow.active = 0)
  refine ⟨r, hmsg ▸ hr, ?_⟩
  rw [hstatus, if_neg fun h ↦ Bool.false_ne_true h.2]
  decide

end GstWebrtcCamera

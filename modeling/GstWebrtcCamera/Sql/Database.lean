import GstWebrtcCamera.Sql.Statements

/-!
# The tables

`webrtc_log` has a row for every `client` message, `webrtc_user` one for every user and realm. The
rows of the log are told apart by `hashid`, which is the address of a connection: a close sets the
`outdate` of all rows with its address, and the list of online users is made of all rows with the
address of an open connection. Nothing in the table says which session a row is from.

What a statement does is given here for a text that is its template. What SQLite makes of another
text is a parameter. Addresses of user space are below `2^63`, so SQLite keeps them as integers.
-/

namespace GstWebrtcCamera

open CString

/-- A row of `webrtc_user`, as far as it is asked for. -/
structure WebrtcUser where
  id : ℕ
  username : List Char
  realm : List Char
  deriving DecidableEq

/-- `webrtc_user`. A name may occur once in every realm. -/
structure UserTable where
  rows : List WebrtcUser
  unique : (rows.map fun u ↦ (u.username, u.realm)).Nodup

namespace UserTable

def named (t : UserTable) (username : List Char) : List WebrtcUser :=
  t.rows.filter (·.username = username)

/-- Somebody has that name. -/
def Registered (t : UserTable) (username : List Char) : Prop := t.named username ≠ []

instance (t : UserTable) (username : List Char) : Decidable (t.Registered username) :=
  inferInstanceAs (Decidable (_ ≠ _))

end UserTable

/-- A row of `webrtc_log`. The last two are not columns. -/
structure LogRow where
  username : List Char
  hashid : UInt64
  host : List Char
  origin : List Char
  path : List Char
  useragent : List Char
  indate : ℕ
  outdate : ℕ
  /-- The connection it is from, unless an earlier process put it there. -/
  session : Option ℕ
  /-- What `outdate` would be if only that session had ever set it. -/
  recorded : ℕ
  deriving DecidableEq

/-- A row an earlier process has left. -/
def LogRow.left (r : LogRow) : LogRow := { r with session := none, recorded := r.outdate }

/-- One object of the answer to `get_online_user_list`, and the session its log row is from. -/
structure OnlineUser where
  id : ℕ
  name : List Char
  hashid : UInt64
  indate : ℕ
  session : Option ℕ
  deriving DecidableEq

def LogRow.online (r : LogRow) (u : WebrtcUser) : OnlineUser where
  id := u.id
  name := r.username
  hashid := r.hashid
  indate := r.indate
  session := r.session

/-- `get_online_user_list`: the rows with one of these addresses, joined with the users by name. The
answer is one row, so its limit does nothing. -/
def getOnlineUserList (log : List LogRow) (users : UserTable) (list : List UInt64) :
    List OnlineUser :=
  (log.filter (·.hashid ∈ list)).flatMap fun r ↦ (users.named r.username).map r.online

/-- `SET outdate=CURRENT_TIMESTAMP WHERE hashid=..`, when a session is closed. -/
def LogRow.out (hashId : UInt64) (now : ℕ) (session : Option ℕ) (r : LogRow) : LogRow :=
  { r with
    outdate := if r.hashid = hashId then now else r.outdate
    recorded := if r.session = session then now else r.recorded }

section out

variable (h : UInt64) (now : ℕ) (session : Option ℕ) (r : LogRow)

@[simp] theorem LogRow.out_username : (r.out h now session).username = r.username := rfl

@[simp] theorem LogRow.out_hashid : (r.out h now session).hashid = r.hashid := rfl

@[simp] theorem LogRow.out_session : (r.out h now session).session = r.session := rfl

end out

instance (q : SqlCall) : Decidable q.LexesAsTemplate :=
  decidable_of_iff' _ q.lexesAsTemplate_iff_percentS

/-- `add_webrtc_access_log` at a time, for a session. -/
def addWebrtcAccessLog (other : List Char → List LogRow → List LogRow) (now : ℕ)
    (session : Option ℕ) (log : List LogRow) (q : SqlCall) : List LogRow :=
  if q.LexesAsTemplate then
    match q with
    | .webrtcLog hashId ip origin path username useragent => log ++ [{
        username := percentS username
        hashid := hashId
        host := percentS ip
        origin := percentS origin
        path := percentS path
        useragent := percentS useragent
        indate := now
        outdate := now
        session := session
        recorded := now }]
    | .webrtcOut hashId => log.map (.out hashId now session)
    -- these two touch other tables
    | .userAuth _ _ | .httpLog _ _ _ _ _ _ => log
  else other q.text log

section addWebrtcAccessLog

variable (other : List Char → List LogRow → List LogRow) (now : ℕ) (session : Option ℕ)
  (log : List LogRow)

theorem addWebrtcAccessLog_webrtcLog {h : UInt64}
    {ip origin path username useragent : Option CString}
    (hq : (SqlCall.webrtcLog h ip origin path username useragent).LexesAsTemplate) :
    ∃ r : LogRow, addWebrtcAccessLog other now session log
        (.webrtcLog h ip origin path username useragent) = log ++ [r] ∧
      r.session = session ∧ r.hashid = h ∧ r.username = percentS username ∧
      r.outdate = r.recorded := by
  rw [addWebrtcAccessLog, if_pos hq]
  exact ⟨_, rfl, rfl, rfl, rfl, rfl⟩

theorem addWebrtcAccessLog_webrtcOut (h : UInt64) :
    addWebrtcAccessLog other now session log (.webrtcOut h) = log.map (.out h now session) := by
  have hlex : (SqlCall.webrtcOut h).LexesAsTemplate :=
    (SqlCall.lexesAsTemplate_iff_percentS _).mpr fun f hf ↦ absurd hf List.not_mem_nil
  rw [addWebrtcAccessLog, if_pos hlex]

end addWebrtcAccessLog

end GstWebrtcCamera

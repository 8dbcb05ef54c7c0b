import GstWebrtcCamera.Text.CString
import GstWebrtcCamera.Text.SqlLex

/-!
# The SQL texts handed to `sqlite3_exec`

`sql.c` opens the database for every request and hands `sqlite3_exec` a text that was put together
with `g_strdup_printf`. Three of the four templates take strings that come from the other end of
the connection: `get_user_auth` before the login is checked, the `http_log` row of
`digest_auth_callback`, and the `webrtc_log` row that a websocket `client` message asks for.

Every hole is a `'%s'`, so the template means one string literal per field. Nothing doubles the
quotes of what is put in.
-/

namespace GstWebrtcCamera

open CString SqlLex

/-- A call of `sqlite3_exec`, with the arguments of its format. -/
inductive SqlCall
  /-- `get_user_auth`. -/
  | userAuth (username realm : Option CString)
  /-- `digest_auth_callback`. -/
  | httpLog (host : Option CString) (method : CString)
      (uri dname useragent ipaddr : Option CString)
  /-- `soup_websocket_message_cb`, a `client` message. -/
  | webrtcLog (hashId : UInt64) (ip origin path username useragent : Option CString)
  /-- `destroy_webrtc_table`. -/
  | webrtcOut (hashId : UInt64)
  deriving DecidableEq

namespace SqlCall

/-- The text, as the four `g_strdup_printf` calls build it. -/
def text : SqlCall → List Char
  | userAuth username realm =>
    lit "SELECT json_object('uid',id,'name',username,'pwd',password,'active',active,'role',role) "
      ++ lit "FROM webrtc_user WHERE username='" ++ percentS username
      ++ lit "' AND realm='" ++ percentS realm ++ lit "';"
  | httpLog host method uri dname useragent ipaddr =>
    lit "INSERT INTO http_log(host,method,path,username,useragent,ipaddr)"
      ++ lit "VALUES('" ++ percentS host ++ lit "','" ++ percentS (some method)
      ++ lit "','" ++ percentS uri ++ lit "','" ++ percentS dname
      ++ lit "','" ++ percentS useragent
      -- `ipaddr == NULL ? "" : ipaddr`, the only argument that is tested
      ++ lit "','" ++ percentS (some (ipaddr.getD (ofString ""))) ++ lit "');"
  | webrtcLog hashId ip origin path username useragent =>
    lit "INSERT INTO webrtc_log(hashid,host,origin,path,username,useragent) "
      ++ lit "VALUES(" ++ percentLu hashId
      ++ lit ",'" ++ percentS ip ++ lit "','" ++ percentS origin
      ++ lit "','" ++ percentS path ++ lit "','" ++ percentS username
      ++ lit "','" ++ percentS useragent ++ lit "');"
  | webrtcOut hashId =>
    lit "UPDATE webrtc_log SET outdate=CURRENT_TIMESTAMP WHERE hashid=" ++ percentLu hashId
      ++ lit ";"

/-- The strings that go into the holes. -/
def fields : SqlCall → List (Option CString)
  | userAuth username realm => [username, realm]
  | httpLog host method uri dname useragent ipaddr =>
    [host, some method, uri, dname, useragent, some (ipaddr.getD (ofString ""))]
  | webrtcLog _ ip origin path username useragent => [ip, origin, path, username, useragent]
  | webrtcOut _ => []

/-! ## The templates -/

/-- The fixed text before the first hole. -/
def head : SqlCall → List Char
  | userAuth _ _ =>
    lit "SELECT json_object('uid',id,'name',username,'pwd',password,'active',active,'role',role) "
      ++ lit "FROM webrtc_user WHERE username="
  | httpLog _ _ _ _ _ _ =>
    lit "INSERT INTO http_log(host,method,path,username,useragent,ipaddr)" ++ lit "VALUES("
  | webrtcLog hashId _ _ _ _ _ =>
    lit "INSERT INTO webrtc_log(hashid,host,origin,path,username,useragent) "
      ++ lit "VALUES(" ++ (percentLu hashId ++ lit ",")
  | webrtcOut hashId =>
    lit "UPDATE webrtc_log SET outdate=CURRENT_TIMESTAMP WHERE hashid=" ++ (percentLu hashId
      ++ lit ";")

/-- The fixed text after each hole. -/
def tails : SqlCall → List (List Char)
  | userAuth _ _ => [lit " AND realm=", lit ";"]
  | httpLog _ _ _ _ _ _ => [lit ",", lit ",", lit ",", lit ",", lit ",", lit ");"]
  | webrtcLog _ _ _ _ _ _ => [lit ",", lit ",", lit ",", lit ",", lit ");"]
  | webrtcOut _ => []

def holes (q : SqlCall) : List Hole := q.fields.zipWith (fun f t ↦ ⟨percentS f, t⟩) q.tails

/-- The template with one literal per field, each decoding to the field as it was formatted. -/
def template (q : SqlCall) : List Token := intended q.head q.holes

/-- What the code means to hand over: one statement, the template with the fields as literals. -/
def LexesAsTemplate (q : SqlCall) : Prop := lex q.text = some q.template ∧ IsStatement q.template

/-! ## The text is the template filled in -/

private theorem lit_values : lit "VALUES('" = lit "VALUES(" ++ ['\''] := by decide +kernel

private theorem lit_comma : lit "','" = '\'' :: (lit "," ++ ['\'']) := by decide +kernel

private theorem lit_close : lit "');" = '\'' :: lit ");" := by decide +kernel

theorem text_eq_render (q : SqlCall) : q.text = render q.head q.holes := by
  cases q with
  | userAuth username realm =>
    have hwhere : lit "FROM webrtc_user WHERE username='"
        = lit "FROM webrtc_user WHERE username=" ++ ['\''] := by decide +kernel
    have hand : lit "' AND realm='" = '\'' :: (lit " AND realm=" ++ ['\'']) := by decide +kernel
    have hend : lit "';" = '\'' :: lit ";" := by decide +kernel
    simp [text, render, head, holes, fields, tails, hwhere, hand, hend]
  | httpLog host method uri dname useragent ipaddr =>
    simp [text, render, head, holes, fields, tails, lit_values, lit_comma, lit_close]
  | webrtcLog hashId ip origin path username useragent =>
    have hfirst : lit ",'" = lit "," ++ ['\''] := by decide +kernel
    simp [text, render, head, holes, fields, tails, hfirst, lit_comma, lit_close]
  | webrtcOut hashId => simp [text, render, head, holes, fields]

/-! ## The fixed texts close every token -/

private theorem begin_of_isDigit {c : Char} (hc : c.isDigit = true) :
    begin c = (.word [c], []) := by
  have hne : ∀ d : Char, d.isDigit = false → c ≠ d := by
    rintro d hd rfl
    rw [hc] at hd
    contradiction
  have hspace : isSpace c = false := by
    simp [isSpace, hne ' ' rfl, hne '\n' rfl, hne '\t' rfl, hne '\r' rfl, hne '\x0c' rfl]
  have hword : isWord c = true := by simp [isWord, Char.isAlphanum, hc]
  rw [begin, if_neg (hne '\'' rfl), if_neg (hne '"' rfl), if_neg (hne '-' rfl),
    if_neg (hne '/' rfl), hspace, if_neg Bool.false_ne_true, hword, if_pos rfl]

theorem scan_percentLu (n : UInt64) {p : Char} (hp : isWord p = false)
    (hpunct : begin p = (.start, [.punct p])) :
    scan .start (percentLu n ++ [p]) = (.start, [.word (percentLu n), .punct p]) := by
  have hdigit : ∀ c ∈ percentLu n, c.isDigit = true := fun c hc ↦
    Nat.isDigit_of_mem_toDigits (by decide) (by decide) hc
  have hword : ∀ c ∈ percentLu n, isWord c = true := by
    intro c hc
    simp [isWord, Char.isAlphanum, hdigit c hc]
  exact scan_word_punct Nat.toDigits_ne_nil hword (fun c hc ↦ begin_of_isDigit (hdigit c hc)) hp
    hpunct

/-- Every fixed text before a hole or a number closes its tokens and ends no statement. -/
private theorem closed_fixed : ∀ t ∈
    [lit "SELECT json_object('uid',id,'name',username,'pwd',password,'active',active,'role',role) "
      ++ lit "FROM webrtc_user WHERE username=",
    lit "INSERT INTO http_log(host,method,path,username,useragent,ipaddr)" ++ lit "VALUES(",
    lit "INSERT INTO webrtc_log(hashid,host,origin,path,username,useragent) " ++ lit "VALUES(",
    lit "UPDATE webrtc_log SET outdate=CURRENT_TIMESTAMP WHERE hashid="],
    Closed t ∧ .punct ';' ∉ tokensOf t := by decide +kernel

private theorem scan_percentLu_comma (n : UInt64) :
    scan .start (percentLu n ++ lit ",") = (.start, [.word (percentLu n), .punct ',']) := by
  rw [show lit "," = [','] by decide +kernel]
  exact scan_percentLu n (by decide) (by decide)

private theorem scan_percentLu_semicolon (n : UInt64) :
    scan .start (percentLu n ++ lit ";") = (.start, [.word (percentLu n), .punct ';']) := by
  rw [show lit ";" = [';'] by decide +kernel]
  exact scan_percentLu n (by decide) (by decide)

theorem closed_head (q : SqlCall) : Closed q.head := by
  cases q with
  | userAuth username realm => exact (closed_fixed _ (by simp [head])).1
  | httpLog host method uri dname useragent ipaddr => exact (closed_fixed _ (by simp [head])).1
  | webrtcLog hashId ip origin path username useragent =>
    exact (closed_fixed _ (by simp)).1.append (congrArg Prod.fst (scan_percentLu_comma hashId))
  | webrtcOut hashId =>
    exact (closed_fixed _ (by simp)).1.append (congrArg Prod.fst (scan_percentLu_semicolon hashId))

theorem follows_tail {q : SqlCall} {t : List Char} (ht : t ∈ q.tails) : Follows t := by
  have hall : ∀ u ∈ [lit " AND realm=", lit ";", lit ",", lit ");"], Follows u := by
    decide +kernel
  refine hall t ?_
  cases q with
  | userAuth username realm => simp only [tails, List.mem_cons] at ht ⊢; tauto
  | httpLog host method uri dname useragent ipaddr =>
    simp only [tails, List.mem_cons] at ht ⊢; tauto
  | webrtcLog hashId ip origin path username useragent =>
    simp only [tails, List.mem_cons] at ht ⊢; tauto
  | webrtcOut hashId => exact absurd ht List.not_mem_nil

/-! ## Each template is one statement -/

private theorem isStatement_lit_close : IsStatement (tokensOf (lit ");")) :=
  ⟨[.punct ')'], by decide +kernel, by decide⟩

private theorem semicolon_notMem_comma : Token.punct ';' ∉ tokensOf (lit ",") := by decide +kernel

theorem isStatement_template (q : SqlCall) : IsStatement q.template := by
  cases q with
  | userAuth username realm =>
    have hand : Token.punct ';' ∉ tokensOf (lit " AND realm=") := by decide +kernel
    have hlast : IsStatement (tokensOf (lit ";")) := ⟨[], by decide +kernel, by decide⟩
    exact isStatement_intended (closed_fixed _ (by simp [head])).2
      (List.forall_mem_singleton.mpr hand) hlast
  | httpLog host method uri dname useragent ipaddr =>
    have hcommas : ∀ h ∈ [host, some method, uri, dname, useragent].map
        fun f ↦ (⟨percentS f, lit ","⟩ : Hole), Token.punct ';' ∉ tokensOf h.tail := by
      rw [List.forall_mem_map]
      exact fun _ _ ↦ semicolon_notMem_comma
    exact isStatement_intended (closed_fixed _ (by simp [head])).2 hcommas isStatement_lit_close
  | webrtcLog hashId ip origin path username useragent =>
    have hcommas : ∀ h ∈ [ip, origin, path, username].map
        fun f ↦ (⟨percentS f, lit ","⟩ : Hole), Token.punct ';' ∉ tokensOf h.tail := by
      rw [List.forall_mem_map]
      exact fun _ _ ↦ semicolon_notMem_comma
    have hhead : Token.punct ';' ∉
        tokensOf (head (webrtcLog hashId ip origin path username useragent)) := by
      have hfixed := closed_fixed
        (lit "INSERT INTO webrtc_log(hashid,host,origin,path,username,useragent) " ++ lit "VALUES(")
        (by simp)
      have hnum : Token.punct ';' ∉ tokensOf (percentLu hashId ++ lit ",") := by
        rw [tokensOf, scan_percentLu_comma]
        simp
      rw [head, tokensOf_append hfixed.1, List.mem_append, not_or]
      exact ⟨hfixed.2, hnum⟩
    exact isStatement_intended hhead hcommas isStatement_lit_close
  | webrtcOut hashId =>
    have hfixed := closed_fixed
      (lit "UPDATE webrtc_log SET outdate=CURRENT_TIMESTAMP WHERE hashid=") (by simp)
    have htokens : template (webrtcOut hashId) = tokensOf (head (webrtcOut hashId)) :=
      List.append_nil _
    rw [htokens, head, tokensOf_append hfixed.1]
    refine IsStatement.append hfixed.2 ⟨[.word (percentLu hashId)], ?_, by simp⟩
    rw [tokensOf, scan_percentLu_semicolon]
    rfl

/-! ## Exactly the fields without quotes are safe -/

private theorem map_value_holes (q : SqlCall) :
    q.holes.map Hole.value = q.fields.map percentS := by
  cases q <;> rfl

private theorem map_tail_holes (q : SqlCall) : q.holes.map Hole.tail = q.tails := by
  cases q <;> rfl

theorem lexesAsTemplate_iff_percentS (q : SqlCall) :
    q.LexesAsTemplate ↔ ∀ f ∈ q.fields, '\'' ∉ percentS f := by
  have hfollows : ∀ h ∈ q.holes, Follows h.tail := by
    intro h hh
    apply follows_tail (q := q)
    rw [← map_tail_holes q]
    exact List.mem_map_of_mem hh
  have hvalues : (∀ h ∈ q.holes, '\'' ∉ h.value) ↔ ∀ v ∈ q.fields.map percentS, '\'' ∉ v := by
    rw [← map_value_holes, List.forall_mem_map]
  rw [LexesAsTemplate, and_iff_left (isStatement_template q), text_eq_render, template,
    lex_render_iff (closed_head q) hfollows, hvalues, List.forall_mem_map]

/-- **Statement integrity.** A request's text is the one statement its template means exactly when
no field holds a quote. -/
theorem lexesAsTemplate_iff (q : SqlCall) :
    q.LexesAsTemplate ↔ ∀ f ∈ q.fields, ∀ s, f = some s → '\'' ∉ s.chars := by
  rw [lexesAsTemplate_iff_percentS]
  refine forall₂_congr fun f _ ↦ ?_
  rw [quote_mem_percentS]
  simp only [not_exists, not_and]

/-- The login name that ends the first literal early and turns the rest into a condition. -/
theorem not_lexesAsTemplate_userAuth :
    ¬ (userAuth (some (ofString "' OR '1'='1")) (some (ofString "gst"))).LexesAsTemplate := by
  have hquote : '\'' ∈ (ofString "' OR '1'='1").chars := by decide +kernel
  rw [lexesAsTemplate_iff_percentS]
  exact fun h ↦ h _ List.mem_cons_self hquote

end SqlCall

end GstWebrtcCamera

import GstWebrtcCamera.Core.Run
import GstWebrtcCamera.Http.Login

/-!
# The users of the pages

`add_user.sh` and `del_user.sh` keep the table `webrtc_user`, and `digest_auth_callback` looks a
user up in it. A name is in the table once for each realm. A second user of the same name is
refused, so the password that counts is the one that was given first since the name was deleted.
-/

namespace GstWebrtcCamera

open CString

/-- A row of `webrtc_user`. -/
structure Account where
  id : ℕ
  username : CString
  /-- Under `password`: the hash of the name, the realm and the password. -/
  pwd : CString
  realm : CString
  role : ℤ := 999
  active : ℤ := 1
  deriving DecidableEq

/-- A text that the statements and the shell take as it is. -/
def Plain (s : CString) : Prop := ∀ c ∈ s.chars, c.isAlphanum ∨ c = '-' ∨ c = '_' ∨ c = '.'

instance (s : CString) : Decidable (Plain s) := List.decidableBAll _ s.chars

/-- `HTTP_AUTH_DOMAIN_REALM`, and what the scripts take for a realm that is not given. -/
def authDomainRealm : CString := ofString "lcy-gsteramer-camera"

namespace Accounts

/-- `-r`, or what stands for it. -/
def realmArg (realm : CString) : CString := if realm.chars = [] then authDomainRealm else realm

/-- The row is the one of a user. -/
def Names (r : Account) (username realm : CString) : Prop :=
  r.username = username ∧ r.realm = realm

instance (r : Account) (username realm : CString) : Decidable (Names r username realm) :=
  inferInstanceAs (Decidable (_ ∧ _))

/-- The number of the next row: one more than the largest. -/
def nextId (rows : List Account) : ℕ := (rows.map Account.id).foldr max 0 + 1

/-- `md5sum` of the three texts between colons. -/
def hashpwd (md5 : List Char → CString) (username realm password : CString) : CString :=
  md5 (username.chars ++ ':' :: realm.chars ++ ':' :: password.chars)

/-- The `INSERT` of `add_user.sh`, which fails on a user that is there. -/
def addUser (md5 : List Char → CString) (rows : List Account) (username password realm : CString) :
    List Account :=
  if rows.any fun r ↦ Names r username (realmArg realm) then rows
  else
    rows ++ [{
      id := nextId rows
      username := username
      pwd := hashpwd md5 username (realmArg realm) password
      realm := realmArg realm }]

/-- The `DELETE` of `del_user.sh`. -/
def delUser (rows : List Account) (username realm : CString) : List Account :=
  rows.filter fun r ↦ ¬ Names r username (realmArg realm)

/-- `get_user_auth`. It keeps the last row of the answer. What becomes of a statement that is not
read as it is meant is left open. -/
def getUserAuth (injected : CString → CString → UserAuth) (rows : List Account)
    (username realm : CString) : UserAuth :=
  if Plain username ∧ Plain realm then
    match (rows.filter fun r ↦ Names r username realm).getLast? with
    | none => .null
    | some r => .row {
        uid := r.id
        name := some r.username
        pwd := some r.pwd
        active := r.active
        role := r.role }
  else injected username realm

/-- A script that is run, with a name and a realm it can take. -/
inductive Event
  | add (username realm : { s : CString // Plain s }) (password : CString)
  | del (username realm : { s : CString // Plain s })

def step (md5 : List Char → CString) (rows : List Account) : Event → List Account
  | .add username realm password => addUser md5 rows username.1 password realm.1
  | .del username realm => delUser rows username.1 realm.1

section Run

variable {md5 : List Char → CString} {rows : List Account} {username realm : CString}

end Run

end Accounts

end GstWebrtcCamera

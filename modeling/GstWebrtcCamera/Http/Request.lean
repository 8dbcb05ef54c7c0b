import GstWebrtcCamera.Text.CString
import Mathlib.Data.List.Infix

/-!
# Requests as the handlers see them

The headers are the list the client sent, to which the authentication callback appends. A handler
reads them with `soup_message_headers_get_one`, and digest parameters with the parser of `soup.c`.

That parser steps over the character after the equals sign without looking at it, so it is not
total on C strings: `Fault` names the three ways a handler leaves the defined part of C.
-/

namespace GstWebrtcCamera

open CString

inductive Fault
  /-- A `NULL` pointer was advanced or read. -/
  | nullDeref
  /-- A pointer moved past the terminating NUL. -/
  | pastEnd
  /-- `g_free` of a variable that was never assigned. -/
  | uninitFree
  deriving DecidableEq, Repr

/-- Methods are interned strings, compared by address. -/
inductive Method
  | get
  | post
  | head
  | other (name : CString)
  deriving DecidableEq

structure Request where
  method : Method
  headers : List (CString × CString)

/-- Header names are compared without regard to case. -/
def sameName (a b : CString) : Bool := a.chars.map Char.toLower == b.chars.map Char.toLower

/-- `soup_message_headers_get_one`: the last value of a repeated header. -/
def getOne (msg : Request) (name : String) : Option CString :=
  (msg.headers.reverse.find? fun h ↦ sameName h.1 (ofString name)).map Prod.snd

/-- `++s` on a string that may be `NULL`. -/
def advance : Option CString → Except Fault CString
  | none => .error .nullDeref
  | some s => match s.chars with
    | [] => .error .pastEnd
    | _ :: rest => .ok (cut rest)

/-! ## Digest parameters -/

/-- `g_strsplit` with one separator: the empty string has no piece at all. -/
def gStrsplit (s : List Char) (sep : Char) : List (List Char) :=
  if s = [] then [] else s.splitOn sep

/-- A piece at its first `=`: the name, and the value when there is one. -/
def splitEq (piece : List Char) : List Char × Option (List Char) :=
  (piece.takeWhile (· ≠ '='), (piece.dropWhile (· ≠ '=')).tail?)

/-- The loop of `get_auth_value_by_key`. -/
def authValue (key : List Char) : List (List Char) → Except Fault (Option CString)
  | [] => .ok none
  | piece :: pairs =>
    if key <:+ (splitEq piece).1 then
      -- `++value` skips the opening quote unseen
      match (splitEq piece).2 with
      | none => .error .nullDeref
      | some [] => .error .pastEnd
      | some (_ :: value) => .ok (some (cut (value.takeWhile (· ≠ '"'))))
    else authValue key pairs

def getAuthValueByKey (auth : CString) (key : String) : Except Fault (Option CString) :=
  authValue (ofString key).chars (gStrsplit auth.chars ',')

end GstWebrtcCamera

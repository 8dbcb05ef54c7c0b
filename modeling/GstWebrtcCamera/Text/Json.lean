import GstWebrtcCamera.Text.CString

/-!
# JSON through typed getters

A parsed document and the getters of `json-glib`. A getter on a missing object, a missing member or
a member of another type returns nothing, zero or false, and never fails. A caller that needs to
know more asks `hasMember`, which looks at the name only.
-/

/-- A parsed value. Numbers with a fraction carry what the integer and boolean getters make of
them. -/
inductive Json
  | null
  | bool (b : Bool)
  | int (n : ℤ)
  | double (toInt : ℤ) (toBool : Bool)
  | string (s : CString)
  | array (elems : List Json)
  | object (members : List (CString × Json))

namespace Json

/-- A `JsonObject *`, which may be `NULL`. -/
abbrev Object := Option (List (CString × Json))

namespace Object

variable (o : Object)

def member? (name : CString) : Option Json :=
  o.bind fun members ↦ (members.find? fun m ↦ m.1 = name).map Prod.snd

def hasMember (name : String) : Bool := (member? o (CString.ofString name)).isSome

/-- The name may itself be the result of a getter. -/
def getStringMember (name : Option CString) : Option CString :=
  match name.bind (member? o) with
  | some (.string s) => some s
  | _ => none

def getString (name : String) : Option CString := getStringMember o (some (CString.ofString name))

def getInt (name : String) : ℤ :=
  match member? o (CString.ofString name) with
  | some (.int n) => n
  | some (.double n _) => n
  | some (.bool b) => if b then 1 else 0
  | _ => 0

def getBool (name : String) : Bool :=
  match member? o (CString.ofString name) with
  | some (.bool b) => b
  | some (.int n) => n ≠ 0
  | some (.double _ b) => b
  | _ => false

def getObject (name : String) : Object :=
  match member? o (CString.ofString name) with
  | some (.object members) => some members
  | _ => none

variable {o}

theorem hasMember_of_getString {name : String} {v : CString} (h : getString o name = some v) :
    hasMember o name = true := by
  rw [getString, getStringMember, Option.bind_some] at h
  rw [hasMember]
  split at h
  · next s heq => rw [heq]; rfl
  · contradiction

theorem hasMember_of_getObject {name member : String}
    (h : hasMember (getObject o name) member = true) : hasMember o name = true := by
  rw [hasMember]
  rw [getObject] at h
  split at h
  · next members heq => rw [heq]; rfl
  · contradiction

end Object

/-- `JSON_NODE_HOLDS_OBJECT` and `json_node_get_object`, on the root of a document. -/
def rootObject? : Option Json → Object
  | some (.object members) => some members
  | _ => none

theorem rootObject?_eq_some_iff {root : Option Json} {members : List (CString × Json)} :
    rootObject? root = some members ↔ root = some (.object members) := by
  constructor
  · intro h
    unfold rootObject? at h
    split at h
    · exact congrArg (some <| Json.object ·) (Option.some.inj h)
    · contradiction
  · rintro rfl
    rfl

theorem exists_root_iff {root : Option Json} {P : List (CString × Json) → Prop} :
    (∃ members, root = some (.object members) ∧ P members) ↔
      ∃ members, rootObject? root = some members ∧ P members := by
  simp only [rootObject?_eq_some_iff]

end Json

import Mathlib.Data.List.Basic
import Mathlib.Data.List.Infix

/-!
# Path lookup

A path is cut at its slashes and walked from the root or from the current directory. Empty and `.`
segments stay where they are, so one file has many spellings; `names` is the spelling that is left
when they are gone. `..` climbs one directory.

Concatenating a directory and a path that starts with a slash never joins two segments, so the walk
of the result is the walk of the path from where the directory leads (`resolve_append_slash`).

Without looking at any directory, a path can be brought to a normal form in which all climbing comes
first (`route`), and the normal form says where it leads from anywhere (`walk_eq_route`).
-/

namespace PosixPath

/-- A canonical location: the names from the root down. -/
abbrev Location := List (List Char)

def segments (path : List Char) : List (List Char) := path.splitOn '/'

def dotDot : List Char := ['.', '.']

/-- A segment that does not move. -/
def IsStill (s : List Char) : Prop := s = [] ∨ s = ['.']

instance (s : List Char) : Decidable (IsStill s) := inferInstanceAs (Decidable (_ ∨ _))

def enter (dir : Location) (s : List Char) : Location :=
  if IsStill s then dir else if s = dotDot then dir.dropLast else dir ++ [s]

def walk (dir : Location) (path : List Char) : Location := (segments path).foldl enter dir

/-- Look a path up, from the root when it starts with a slash. -/
def resolve (cwd : Location) (path : List Char) : Location :=
  walk (if path.head? = some '/' then [] else cwd) path

/-- The segments that move. -/
def names (path : List Char) : List (List Char) := (segments path).filter (¬ IsStill ·)

/-- `file` lies in the directory `dir` or deeper. -/
def Below (dir file : Location) : Prop := ∃ name rest, file = dir ++ name :: rest

theorem segments_append_slash (a b : List Char) :
    segments (a ++ '/' :: b) = segments a ++ segments b :=
  List.splitOn_append_cons_self a b

theorem segments_slash (b : List Char) : segments ('/' :: b) = [] :: segments b :=
  segments_append_slash [] b

theorem names_slash (b : List Char) : names ('/' :: b) = names b := by
  rw [names, segments_slash, List.filter_cons_of_neg (by simp [IsStill]), names]

theorem walk_of_no_dotDot {dir : Location} {path : List Char} (h : dotDot ∉ segments path) :
    walk dir path = dir ++ names path := by
  rw [walk, names]
  generalize segments path = segs at h
  induction segs generalizing dir with
  | nil => simp
  | cons s segs ih =>
    rw [List.mem_cons, not_or] at h
    rw [List.foldl_cons, ih h.2, enter]
    by_cases hs : IsStill s
    · rw [if_pos hs, List.filter_cons_of_neg (by simp [hs])]
    · rw [if_neg hs, if_neg (Ne.symm h.1), List.filter_cons_of_pos (by simp [hs]),
        List.append_assoc, List.singleton_append]

theorem resolve_append_slash (cwd : Location) (dir : List Char) {path : List Char}
    (h : dotDot ∉ segments path) :
    resolve cwd (dir ++ '/' :: path)
      = walk (if (dir ++ ['/']).head? = some '/' then [] else cwd) dir ++ names path := by
  have hhead : (dir ++ '/' :: path).head? = (dir ++ ['/']).head? := by
    cases dir <;> rfl
  rw [resolve, hhead, walk, segments_append_slash, List.foldl_append]
  exact walk_of_no_dotDot h

theorem below_append_iff {dir sub rest : Location} :
    Below (dir ++ sub) (dir ++ rest) ↔ ∃ name deeper, rest = sub ++ name :: deeper := by
  simp [Below, List.append_assoc]

/-! ## The normal form of a path -/

/-- A path that climbs first and then goes down. -/
structure Route where
  ups : ℕ := 0
  down : List (List Char) := []
  deriving DecidableEq

namespace Route

/-- A `..` takes back the last name, and climbs when there is none. -/
def enter (r : Route) (s : List Char) : Route :=
  if IsStill s then r
  else if s = dotDot then
    if r.down = [] then { r with ups := r.ups + 1 } else { r with down := r.down.dropLast }
  else { r with down := r.down ++ [s] }

/-- Where it leads. At the root there is nothing to climb. -/
def follow (r : Route) (dir : Location) : Location := dir.take (dir.length - r.ups) ++ r.down

theorem follow_enter (r : Route) (dir : Location) (s : List Char) :
    (r.enter s).follow dir = PosixPath.enter (r.follow dir) s := by
  rw [enter, PosixPath.enter]
  split_ifs with hstill hup hdown
  · rfl
  · have hlength : min (dir.length - r.ups - 1) (dir.length - r.ups) =
        dir.length - (r.ups + 1) := by
      omega
    rw [follow, follow, hdown, List.append_nil, List.append_nil, List.dropLast_eq_take,
      List.take_take, List.length_take_of_le (Nat.sub_le ..), hlength]
  · rw [follow, follow, List.dropLast_append_of_ne_nil hdown]
  · rw [follow, follow, List.append_assoc]

end Route

/-- The normal form. -/
def route (path : List Char) : Route := (segments path).foldl Route.enter {}

theorem walk_eq_route (dir : Location) (path : List Char) :
    walk dir path = (route path).follow dir := by
  have hfold : ∀ (segs : List (List Char)) (r : Route),
      segs.foldl enter (r.follow dir) = (segs.foldl Route.enter r).follow dir := by
    intro segs
    induction segs with
    | nil => exact fun r ↦ rfl
    | cons s segs ih =>
      intro r
      rw [List.foldl_cons, List.foldl_cons, ← r.follow_enter, ih]
  have hstart : Route.follow {} dir = dir := by simp [Route.follow]
  rw [walk, route, ← hfold, hstart]

end PosixPath

import Mathlib.Data.List.AList
import Mathlib.Data.List.Induction
import Mathlib.Logic.Function.Basic

/-!
# The last write

A store that is written key by key holds under a key what was written there last, and a table that
is filled entry by entry has under a key the entry that was put there last.
-/

namespace Store

variable {κ α β : Type*} [DecidableEq κ]

/-- The values written, the first one first. -/
def writeAll (f : κ → α) (ws : List (κ × α)) : κ → α :=
  ws.foldl (fun f w ↦ Function.update f w.1 w.2) f

/-- What was written under a key last. -/
def last (ws : List (κ × α)) (k : κ) : Option α :=
  ((ws.filter fun w ↦ w.1 = k).getLast?).map Prod.snd

end Store

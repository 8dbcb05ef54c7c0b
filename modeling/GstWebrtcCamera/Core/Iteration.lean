import Mathlib.Data.List.Basic

/-!
# Iterators that notice a change

An iterator over a collection that may change under it does not hold the collection: every call is
given the collection as it is now. `rest` says where the iterator stands. It is `some r` while the
iterator is in step with the collection and `r` is still to come, and `none` once the collection has
changed. A call then asks for a resync, and a resync begins again with everything that is there.

## A loop that empties what it iterates

`loop` is the usual loop over such an iterator, whose body may change the collection. If the body
takes out the element it is given, each round of the loop but the first finds a stale iterator, and
the elements still come up in order, each of them once (`loop_eq_foldl`). Two calls for each element
and one at the end are enough.
-/

universe u v w

/-- What a call gives. -/
inductive Answer (ε : Type*)
  | ok (e : ε)
  | resync
  | error
  | done

/-- An iterator over the collections in `β`, of which `items` are the elements. `Changes` is what it
notices. -/
structure ResyncIterator {β : Type u} {ε : Type v} (items : β → List ε)
    (Changes : β → β → Prop) where
  State : Type w
  iterate : β → State
  next : State → β → Answer ε × State
  resync : State → β → State
  /-- What is still to come, of an iterator in step. -/
  rest : State → β → Option (List ε)
  rest_iterate : ∀ b, rest (iterate b) b = some (items b)
  rest_resync : ∀ s b, rest (resync s b) b = some (items b)
  rest_of_changes : ∀ {s b b'}, rest s b ≠ none → Changes b b' → rest s b' = none
  next_of_stale : ∀ {s b}, rest s b = none → (next s b).1 = .resync
  next_of_cons : ∀ {s b e r}, rest s b = some (e :: r) →
    (next s b).1 = .ok e ∧ rest (next s b).2 b = some r
  next_of_nil : ∀ {s b}, rest s b = some [] → (next s b).1 = .done

namespace ResyncIterator

variable {β : Type u} {ε : Type v} {items : β → List ε} {Changes : β → β → Prop}

/-- An iterator that remembers a number, which every change of the collection changes. -/
def ofCookie (cookie : β → ℕ) (hcookie : ∀ {b b'}, Changes b b' → cookie b ≠ cookie b') :
    ResyncIterator items Changes where
  State := ℕ × List ε
  iterate b := (cookie b, items b)
  next s b :=
    if s.1 = cookie b then
      match s.2 with
      | [] => (.done, s)
      | e :: r => (.ok e, (s.1, r))
    else (.resync, s)
  resync _ b := (cookie b, items b)
  rest s b := if s.1 = cookie b then some s.2 else none
  rest_iterate _ := if_pos rfl
  rest_resync _ _ := if_pos rfl
  rest_of_changes := by
    intro s b b' hrest hchanges
    have hs : s.1 = cookie b := by_contra fun h ↦ hrest (if_neg h)
    rw [if_neg (hs ▸ hcookie hchanges)]
  next_of_stale := by
    intro s b hrest
    have hs : s.1 ≠ cookie b := fun h ↦ by simp [h] at hrest
    rw [if_neg hs]
  next_of_cons := by
    intro s b e r hrest
    obtain ⟨hs, hr⟩ : s.1 = cookie b ∧ s.2 = e :: r := by simpa using hrest
    simp [hs, hr]
  next_of_nil := by
    intro s b hrest
    obtain ⟨hs, hr⟩ : s.1 = cookie b ∧ s.2 = [] := by simpa using hrest
    simp [hs, hr]

variable {σ : Type*}

/-- Call until an answer ends the loop. `none` is a loop that needs more calls. -/
def loop (it : ResyncIterator items Changes) (coll : σ → β) (body : σ → ε → σ) :
    ℕ → it.State → σ → Option σ
  | 0, _, _ => none
  | fuel + 1, s, x =>
    match it.next s (coll x) with
    | (.ok e, s) => it.loop coll body fuel s (body x e)
    | (.resync, s) => it.loop coll body fuel (it.resync s (coll x)) x
    | (.error, _) => some x
    | (.done, _) => some x

variable (it : ResyncIterator items Changes) {coll : σ → β} {body : σ → ε → σ}
variable {s : it.State} {x : σ}

theorem loop_of_cons {e : ε} {r : List ε} (h : it.rest s (coll x) = some (e :: r)) (fuel : ℕ) :
    it.loop coll body (fuel + 1) s x
      = it.loop coll body fuel (it.next s (coll x)).2 (body x e) := by
  have hnext : it.next s (coll x) = (.ok e, (it.next s (coll x)).2) :=
    Prod.ext (it.next_of_cons h).1 rfl
  rw [loop, hnext]

theorem loop_of_stale (h : it.rest s (coll x) = none) (fuel : ℕ) :
    it.loop coll body (fuel + 1) s x
      = it.loop coll body fuel (it.resync (it.next s (coll x)).2 (coll x)) x := by
  have hnext : it.next s (coll x) = (.resync, (it.next s (coll x)).2) :=
    Prod.ext (it.next_of_stale h) rfl
  rw [loop, hnext]

theorem loop_of_nil (h : it.rest s (coll x) = some []) (fuel : ℕ) :
    it.loop coll body (fuel + 1) s x = some x := by
  have hnext : it.next s (coll x) = (.done, (it.next s (coll x)).2) :=
    Prod.ext (it.next_of_nil h) rfl
  rw [loop, hnext]

/-- **Taking everything out.** A body that takes out the element it is given is run once for each
element, in order, and then the loop ends. -/
theorem loop_eq_foldl
    (hbody : ∀ x e r, items (coll x) = e :: r →
      Changes (coll x) (coll (body x e)) ∧ items (coll (body x e)) = r)
    (l : List ε) :
    ∀ {s : it.State} {x : σ}, items (coll x) = l → it.rest s (coll x) = some l →
      ∀ {fuel : ℕ}, 2 * l.length + 1 ≤ fuel →
        it.loop coll body fuel s x = some (l.foldl body x) := by
  induction l with
  | nil =>
    intro s x hitems hrest fuel hfuel
    obtain ⟨fuel, rfl⟩ := Nat.exists_eq_add_of_le' hfuel
    exact it.loop_of_nil hrest _
  | cons e l ih =>
    intro s x hitems hrest fuel hfuel
    rw [List.length_cons] at hfuel
    -- one call for the element and one for the resync
    obtain ⟨fuel, rfl⟩ : ∃ n, fuel = n + 1 + 1 := ⟨fuel - 2, by omega⟩
    obtain ⟨hchanges, hleft⟩ := hbody x e l hitems
    have hafter := (it.next_of_cons hrest).2
    have hstale : it.rest (it.next s (coll x)).2 (coll (body x e)) = none :=
      it.rest_of_changes (by simp [hafter]) hchanges
    rw [it.loop_of_cons hrest, it.loop_of_stale hstale]
    exact ih hleft (by rw [it.rest_resync, hleft]) (by omega)

end ResyncIterator

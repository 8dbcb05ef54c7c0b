import Mathlib.Data.List.Basic

/-!
# Words of a command line

A command line is read from left to right and cut into words at its unquoted blanks. How quoting
works differs from one language to the next: which characters quote or escape, what they do to the
characters behind them, and where it ends. A `Lexer` fixes only what all of them have in common.
Outside of quotes a blank ends the word, a quote or an escape is not part of it, and any other
character is.

That is enough to say when a text pasted into a word stays there. It is read back as it was written
exactly if it has no blank, no quote and no escape in it (`words_paste_iff`). In one direction such
text is read character by character. In the other the first character of another kind decides: a
blank ends the word early, and a quote or an escape is a character the words lack in the end,
whatever comes of the rest (`spread_wordsFrom_le`).
-/

namespace Launch

def IsBlank (c : Char) : Prop := c ∈ [' ', '\t', '\n', '\x0b', '\x0c', '\r']

instance : DecidablePred IsBlank := fun _ ↦ inferInstanceAs (Decidable (_ ∈ _))

/-- How a language reads its command lines. -/
structure Lexer (σ : Type*) where
  /-- The state outside of quotes. -/
  start : σ
  /-- Whether a blank ends the word. -/
  separates : σ → Bool
  /-- The next state, and whether the character is part of the word. -/
  read : σ → Char → σ × Bool
  /-- Quotes and escapes. -/
  special : List Char
  separates_start : separates start = true
  read_special : ∀ c ∈ special, (read start c).2 = false
  read_ordinary : ∀ c, c ∉ special → ¬ IsBlank c → read start c = (start, true)

namespace Lexer

variable {σ : Type*} (L : Lexer σ)

/-- The words of a text that is read in state `q`, in the middle of a word or between two. -/
def wordsFrom (q : σ) (word : Option (List Char)) : List Char → List (List Char)
  | [] => word.toList
  | c :: cs =>
    if L.separates q = true ∧ IsBlank c then word.toList ++ wordsFrom L.start none cs
    else
      wordsFrom (L.read q c).1
        (some (word.getD [] ++ if (L.read q c).2 = true then [c] else [])) cs

/-- The words of a command line. -/
def words (line : List Char) : List (List Char) := L.wordsFrom L.start none line

/-- Neither blank nor quote nor escape. -/
def Ordinary (c : Char) : Prop := c ∉ L.special ∧ ¬ IsBlank c

instance : DecidablePred L.Ordinary := fun _ ↦ inferInstanceAs (Decidable (_ ∧ _))

variable {L}

/-! ## Reading outside of quotes -/

theorem wordsFrom_blank {c : Char} (hc : IsBlank c) (word : Option (List Char)) (cs : List Char) :
    L.wordsFrom L.start word (c :: cs) = word.toList ++ L.words cs := by
  rw [wordsFrom, if_pos ⟨L.separates_start, hc⟩, words]

theorem wordsFrom_ordinary {c : Char} (hc : L.Ordinary c) (word : Option (List Char))
    (cs : List Char) :
    L.wordsFrom L.start word (c :: cs) = L.wordsFrom L.start (some (word.getD [] ++ [c])) cs := by
  rw [wordsFrom, if_neg (fun h ↦ hc.2 h.2), L.read_ordinary c hc.1 hc.2, if_pos rfl]

theorem wordsFrom_append (word text cs : List Char) (htext : ∀ c ∈ text, L.Ordinary c) :
    L.wordsFrom L.start (some word) (text ++ cs) =
      L.wordsFrom L.start (some (word ++ text)) cs := by
  induction text generalizing word with
  | nil => rw [List.nil_append, List.append_nil]
  | cons c text ih =>
    obtain ⟨hc, hrest⟩ := List.forall_mem_cons.mp htext
    rw [List.cons_append, wordsFrom_ordinary hc, Option.getD_some, ih _ hrest, List.append_assoc,
      List.singleton_append]

theorem words_append {text : List Char} (hne : text ≠ []) (htext : ∀ c ∈ text, L.Ordinary c)
    (cs : List Char) : L.words (text ++ cs) = L.wordsFrom L.start (some text) cs := by
  obtain ⟨c, text, rfl⟩ := List.exists_cons_of_ne_nil hne
  obtain ⟨hc, hrest⟩ := List.forall_mem_cons.mp htext
  rw [words, List.cons_append, wordsFrom_ordinary hc, wordsFrom_append _ _ _ hrest]
  rfl

/-- The text of words that follow another. -/
def further (ws : List (List Char)) : List Char := ws.flatMap (' ' :: ·)

/-- Ordinary words with blanks between them are read back. -/
theorem wordsFrom_further (word : List Char) {ws : List (List Char)}
    (hws : ∀ w ∈ ws, w ≠ [] ∧ ∀ c ∈ w, L.Ordinary c) :
    L.wordsFrom L.start (some word) (further ws) = word :: ws := by
  induction ws generalizing word with
  | nil => rfl
  | cons w ws ih =>
    obtain ⟨⟨hne, hw⟩, hrest⟩ := List.forall_mem_cons.mp hws
    rw [further, List.flatMap_cons, List.cons_append, wordsFrom_blank (by decide), ← further,
      words_append hne hw, ih _ hrest]
    rfl

/-! ## Nothing is read twice -/

/-- The characters of some words, with one more for each word. -/
def spread : List (List Char) → ℕ
  | [] => 0
  | w :: ws => w.length + 1 + spread ws

theorem length_further (ws : List (List Char)) : (further ws).length = spread ws := by
  induction ws with
  | nil => rfl
  | cons w ws ih =>
    rw [further, List.flatMap_cons, List.length_append, List.length_cons, ← further, ih, spread]

theorem spread_toList_append (word : Option (List Char)) (ws : List (List Char)) :
    spread (word.toList ++ ws) ≤ (word.getD []).length + 1 + spread ws := by
  cases word with
  | none => exact Nat.le_add_left _ _
  | some w => exact Nat.le_refl _

theorem spread_wordsFrom_le (q : σ) (word : Option (List Char)) (cs : List Char) :
    spread (L.wordsFrom q word cs) ≤ (word.getD []).length + 1 + cs.length := by
  induction cs generalizing q word with
  | nil =>
    have hnil := spread_toList_append word []
    rwa [List.append_nil] at hnil
  | cons c cs ih =>
    rw [wordsFrom, List.length_cons]
    split_ifs with hblank hread
    · have hws := spread_toList_append word (L.wordsFrom L.start none cs)
      have hrest := ih L.start none
      rw [Option.getD_none, List.length_nil] at hrest
      omega
    · have hrest := ih (L.read q c).1 (some (word.getD [] ++ [c]))
      rw [Option.getD_some, List.length_append, List.length_singleton] at hrest
      omega
    · have hrest := ih (L.read q c).1 (some (word.getD [] ++ []))
      rw [Option.getD_some, List.append_nil] at hrest
      rw [List.append_nil]
      omega

/-! ## Pasting -/

theorem wordsFrom_ne {c : Char} (hc : ¬ L.Ordinary c) (word text : List Char)
    (ws : List (List Char)) :
    L.wordsFrom L.start (some word) (c :: (text ++ further ws)) ≠ (word ++ c :: text) :: ws := by
  intro heq
  by_cases hblank : IsBlank c
  · -- the word ends too early
    rw [wordsFrom_blank hblank] at heq
    have hword : word = word ++ c :: text := (List.cons.inj heq).1
    simp at hword
  · -- the character is no part of any word
    have hspecial : c ∈ L.special := by
      by_contra hspecial
      exact hc ⟨hspecial, hblank⟩
    have hle := L.spread_wordsFrom_le (L.read L.start c).1 (some (word ++ []))
      (text ++ further ws)
    rw [wordsFrom, if_neg (fun h ↦ hblank h.2), L.read_special c hspecial, Option.getD_some,
      if_neg Bool.false_ne_true] at heq
    rw [heq, spread, List.append_nil, Option.getD_some, List.length_append, List.length_append,
      List.length_cons, length_further] at hle
    omega

/-- **Pasting.** A text that is pasted behind a word, in front of further ones, is read as a part of
that word, and leaves the others alone, exactly if all of it is ordinary. -/
theorem words_paste_iff (word text : List Char) {ws : List (List Char)}
    (hws : ∀ w ∈ ws, w ≠ [] ∧ ∀ c ∈ w, L.Ordinary c) :
    L.wordsFrom L.start (some word) (text ++ further ws) = (word ++ text) :: ws ↔
      ∀ c ∈ text, L.Ordinary c := by
  constructor
  · intro heq
    induction text generalizing word with
    | nil => exact fun c hc ↦ absurd hc List.not_mem_nil
    | cons c text ih =>
      by_cases hc : L.Ordinary c
      · rw [List.cons_append, wordsFrom_ordinary hc, List.append_cons word] at heq
        exact List.forall_mem_cons.mpr ⟨hc, ih _ heq⟩
      · exact absurd heq (wordsFrom_ne hc word text ws)
  · intro htext
    rw [wordsFrom_append _ _ _ htext, wordsFrom_further _ hws]

end Lexer

/-! ## Backslashes and quotes -/

/-- What the next character has to do with: a quote that is open, and a backslash before it. -/
structure Mode where
  quote : Option Char := none
  escaped : Bool := false
  deriving DecidableEq

/-- A backslash takes the next character as it is, and a quote all characters up to the next quote
of its kind. -/
def Mode.read (quotes : List Char) (m : Mode) (c : Char) : Mode × Bool :=
  if m.escaped then ({ m with escaped := false }, true)
  else if c = '\\' then ({ m with escaped := true }, false)
  else
    match m.quote with
    | some q => if c = q then ({}, false) else (m, true)
    | none => if c ∈ quotes then ({ quote := some c }, false) else (m, true)

/-- The usual way of quoting, with these quotes. -/
def quoting (quotes : List Char) : Lexer Mode where
  start := {}
  separates m := m = {}
  read := Mode.read quotes
  special := '\\' :: quotes
  separates_start := rfl
  read_special c hc := by
    by_cases hbackslash : c = '\\'
    · simp [Mode.read, hbackslash]
    · have hquote : c ∈ quotes := List.mem_of_ne_of_mem hbackslash hc
      simp [Mode.read, hbackslash, hquote]
  read_ordinary c hc _ := by
    obtain ⟨hbackslash, hquote⟩ := not_or.mp (mt List.mem_cons.mpr hc)
    simp [Mode.read, hbackslash, hquote]

end Launch

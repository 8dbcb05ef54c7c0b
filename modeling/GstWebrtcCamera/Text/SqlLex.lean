import Mathlib.Data.List.Basic

/-!
# Lexing SQL text

A one-pass lexer for the part of SQLite's lexical grammar that decides where a statement ends:
string literals, quoted identifiers, comments, words and single-character operators. It is an
automaton read one character at a time, so that a text can be lexed piece by piece
(`lexFrom_append`).

The rule that matters is the one for literals. A literal ends at the first quote that is not
doubled, and a doubled quote stands for one. Both readings of a quote need the next character, so
the automaton has a mode `strQuote` for "a quote was just seen inside a literal".

## Templates

A template is fixed text with holes, each hole written between quotes. `lex_render_iff` is the
whole story of filling it without escaping: the filled text lexes as the template with one literal
per hole, each decoding to what was put in, exactly when no filling contains a quote. The
forward direction is unique decodability: the first hole with a quote in it cannot decode to
itself, since decoding halves every run of quotes.
-/

namespace SqlLex

/-- A lexical token. Literals carry their decoded value. -/
inductive Token
  | word (cs : List Char)
  | str (cs : List Char)
  | quoted (cs : List Char)
  | punct (c : Char)
  deriving DecidableEq, Repr

/-- What the lexer has read of the token it is in. -/
inductive Mode
  | start
  | word (acc : List Char)
  | str (acc : List Char)
  | strQuote (acc : List Char)
  | quoted (acc : List Char)
  | quotedQuote (acc : List Char)
  | dash
  | line
  | slash
  | block
  | blockStar
  deriving DecidableEq, Repr

def isSpace (c : Char) : Bool := c == ' ' || c == '\n' || c == '\t' || c == '\r' || c == '\x0c'

/-- Letters, digits, `_`, `$` and everything outside ASCII: what SQLite keeps in one word. -/
def isWord (c : Char) : Bool := c.isAlphanum || c == '_' || c == '$' || decide (127 < c.toNat)

/-- Put `out` before what has been emitted. -/
def emit (out : List Token) (r : Mode × List Token) : Mode × List Token := (r.1, out ++ r.2)

/-- Read a character that starts a token. -/
def begin (c : Char) : Mode × List Token :=
  if c = '\'' then (.str [], [])
  else if c = '"' then (.quoted [], [])
  else if c = '-' then (.dash, [])
  else if c = '/' then (.slash, [])
  else if isSpace c then (.start, [])
  else if isWord c then (.word [c], [])
  else (.start, [.punct c])

def step : Mode → Char → Mode × List Token
  | .start, c => begin c
  | .word acc, c => if isWord c then (.word (acc ++ [c]), []) else emit [.word acc] (begin c)
  | .str acc, c => if c = '\'' then (.strQuote acc, []) else (.str (acc ++ [c]), [])
  | .strQuote acc, c =>
    if c = '\'' then (.str (acc ++ ['\'']), []) else emit [.str acc] (begin c)
  | .quoted acc, c => if c = '"' then (.quotedQuote acc, []) else (.quoted (acc ++ [c]), [])
  | .quotedQuote acc, c =>
    if c = '"' then (.quoted (acc ++ ['"']), []) else emit [.quoted acc] (begin c)
  | .dash, c => if c = '-' then (.line, []) else emit [.punct '-'] (begin c)
  | .line, c => if c = '\n' then (.start, []) else (.line, [])
  | .slash, c => if c = '*' then (.block, []) else emit [.punct '/'] (begin c)
  | .block, c => if c = '*' then (.blockStar, []) else (.block, [])
  | .blockStar, c =>
    if c = '/' then (.start, []) else if c = '*' then (.blockStar, []) else (.block, [])

/-- What the end of the text completes. An open literal is an error; a comment may stay open. -/
def finish : Mode → Option (List Token)
  | .start | .line | .block | .blockStar => some []
  | .word acc => some [.word acc]
  | .strQuote acc => some [.str acc]
  | .quotedQuote acc => some [.quoted acc]
  | .dash => some [.punct '-']
  | .slash => some [.punct '/']
  | .str _ | .quoted _ => none

/-- Lex a text from a mode; `none` if the text ends inside a literal. -/
def lexFrom : Mode → List Char → Option (List Token)
  | m, [] => finish m
  | m, c :: cs => (lexFrom (step m c).1 cs).map ((step m c).2 ++ ·)

def lex (text : List Char) : Option (List Token) := lexFrom .start text

/-- Lex a piece of a text: the mode it ends in and the tokens it completed. -/
def scan : Mode → List Char → Mode × List Token
  | m, [] => (m, [])
  | m, c :: cs => emit (step m c).2 (scan (step m c).1 cs)

/-- One statement: the tokens up to a semicolon, which is the only one. -/
def IsStatement (toks : List Token) : Prop :=
  ∃ body, toks = body ++ [.punct ';'] ∧ .punct ';' ∉ body

/-! ## Lexing piece by piece -/

private theorem map_nil_append (o : Option (List Token)) : o.map ([] ++ ·) = o := by
  cases o with
  | none => rfl
  | some toks => rfl

theorem lexFrom_append (m : Mode) (a b : List Char) :
    lexFrom m (a ++ b) = (lexFrom (scan m a).1 b).map ((scan m a).2 ++ ·) := by
  induction a generalizing m with
  | nil => simp [scan]
  | cons c a ih =>
    rw [List.cons_append, lexFrom, ih, Option.map_map, scan, emit]
    congr 1
    funext toks
    rw [Function.comp_apply, List.append_assoc]

theorem scan_append (m : Mode) (a b : List Char) :
    scan m (a ++ b) = emit (scan m a).2 (scan (scan m a).1 b) := by
  induction a generalizing m with
  | nil => simp [scan, emit]
  | cons c a ih => rw [List.cons_append, scan, ih, scan, emit, emit, emit, emit, List.append_assoc]

/-- Inside a literal, text without a quote is read as it is. -/
theorem scan_str {f : List Char} (hf : '\'' ∉ f) (acc : List Char) :
    scan (.str acc) f = (.str (acc ++ f), []) := by
  induction f generalizing acc with
  | nil => simp [scan]
  | cons c f ih =>
    rw [List.mem_cons, not_or] at hf
    rw [scan, step, if_neg (Ne.symm hf.1), ih hf.2, emit, List.append_assoc]
    rfl

theorem scan_word {w : List Char} (hw : ∀ c ∈ w, isWord c = true) (acc : List Char) :
    scan (.word acc) w = (.word (acc ++ w), []) := by
  induction w generalizing acc with
  | nil => simp [scan]
  | cons c w ih =>
    rw [scan, step, if_pos (hw c List.mem_cons_self),
      ih (fun c' hc' ↦ hw c' (List.mem_cons_of_mem c hc')), emit, List.append_assoc]
    rfl

theorem lexFrom_quoted {f : List Char} (hf : '\'' ∉ f) {c : Char} (hc : c ≠ '\'')
    (rest : List Char) :
    lexFrom .start ('\'' :: (f ++ '\'' :: c :: rest))
      = (lexFrom .start (c :: rest)).map (.str f :: ·) := by
  have hopen : lexFrom .start ('\'' :: (f ++ '\'' :: c :: rest))
      = lexFrom (.str []) (f ++ '\'' :: c :: rest) := by
    rw [lexFrom]
    exact map_nil_append _
  have hclose : lexFrom (.str f) ('\'' :: c :: rest) = lexFrom (.strQuote f) (c :: rest) := by
    rw [lexFrom, step, if_pos rfl]
    exact map_nil_append _
  have hnext : step (.strQuote f) c = emit [.str f] (step .start c) := by
    simp only [step, if_neg hc]
  rw [hopen, lexFrom_append, scan_str hf, List.nil_append, hclose, map_nil_append, lexFrom, hnext,
    lexFrom, Option.map_map]
  rfl

/-! ## Unique decodability -/

/-- The body of the literal that stands for `f`: every quote doubled. -/
def double (f : List Char) : List Char := f.flatMap fun c ↦ if c = '\'' then ['\'', '\''] else [c]

theorem double_cons_quote (f : List Char) : double ('\'' :: f) = '\'' :: '\'' :: double f := by
  rw [double, List.flatMap_cons, if_pos rfl]
  rfl

theorem double_cons_of_ne {c : Char} (hc : c ≠ '\'') (f : List Char) :
    double (c :: f) = c :: double f := by
  rw [double, List.flatMap_cons, if_neg hc]
  rfl

/-- The first token that comes out of an open literal is a literal, and the text starts with the
doubled form of what it adds, closed by a quote. The two modes of an open literal call each other,
so the induction carries both. -/
private theorem lexFrom_open (x : List Char) : ∀ (acc : List Char) (t : Token) (ts : List Token),
    (lexFrom (.str acc) x = some (t :: ts) →
      ∃ d rest, t = .str (acc ++ d) ∧ x = double d ++ '\'' :: rest) ∧
    (lexFrom (.strQuote acc) x = some (t :: ts) →
      t = .str acc ∨ ∃ d rest, t = .str (acc ++ '\'' :: d) ∧ x = '\'' :: (double d ++ '\'' :: rest))
    := by
  induction x with
  | nil =>
    intro acc t ts
    refine ⟨fun h ↦ by simp [lexFrom, finish] at h, fun h ↦ Or.inl ?_⟩
    rw [lexFrom, finish, Option.some_inj, List.cons.injEq] at h
    exact h.1.symm
  | cons c x ih =>
    intro acc t ts
    by_cases hc : c = '\''
    · subst hc
      constructor
      · intro h
        rw [lexFrom, step, if_pos rfl] at h
        have h' : lexFrom (.strQuote acc) x = some (t :: ts) := (map_nil_append _).symm.trans h
        rcases (ih acc t ts).2 h' with rfl | ⟨d, rest, rfl, rfl⟩
        · exact ⟨[], x, by rw [List.append_nil], rfl⟩
        · exact ⟨'\'' :: d, rest, rfl, by rw [double_cons_quote]; rfl⟩
      · intro h
        rw [lexFrom, step, if_pos rfl] at h
        have h' : lexFrom (.str (acc ++ ['\''])) x = some (t :: ts) :=
          (map_nil_append _).symm.trans h
        obtain ⟨d, rest, rfl, rfl⟩ := (ih _ t ts).1 h'
        exact Or.inr ⟨d, rest, by rw [List.append_assoc]; rfl, rfl⟩
    · constructor
      · intro h
        rw [lexFrom, step, if_neg hc] at h
        have h' : lexFrom (.str (acc ++ [c])) x = some (t :: ts) :=
          (map_nil_append _).symm.trans h
        obtain ⟨d, rest, rfl, rfl⟩ := (ih _ t ts).1 h'
        exact ⟨c :: d, rest, by rw [List.append_assoc]; rfl, by rw [double_cons_of_ne hc]; rfl⟩
      · intro h
        rw [lexFrom, step, if_neg hc, emit, Option.map_eq_some_iff] at h
        obtain ⟨toks, -, htoks⟩ := h
        exact Or.inl (List.cons.inj htoks).1.symm

theorem lexFrom_str_head {acc x : List Char} {t : Token} {ts : List Token}
    (h : lexFrom (.str acc) x = some (t :: ts)) :
    ∃ d rest, t = .str (acc ++ d) ∧ x = double d ++ '\'' :: rest :=
  (lexFrom_open x acc t ts).1 h

/-- Reading `f` after a positive number of quotes can never catch up with its doubled form. -/
private theorem replicate_double_ne (f : List Char) : ∀ {n : ℕ} {rest y : List Char}, 0 < n →
    (∀ y', y ≠ '\'' :: y') →
    List.replicate n '\'' ++ (double f ++ '\'' :: rest) ≠ f ++ '\'' :: y := by
  induction f with
  | nil =>
    intro n rest y hn hy heq
    obtain ⟨n, rfl⟩ : ∃ m, n = m + 1 := ⟨n - 1, by omega⟩
    rw [List.replicate_succ, List.cons_append, List.nil_append, List.cons.injEq] at heq
    cases n with
    | zero => exact hy rest heq.2.symm
    | succ n => exact hy _ heq.2.symm
  | cons c f ih =>
    intro n rest y hn hy heq
    obtain ⟨n, rfl⟩ : ∃ m, n = m + 1 := ⟨n - 1, by omega⟩
    rw [List.replicate_succ, List.cons_append, List.cons_append, List.cons.injEq] at heq
    obtain ⟨rfl, heq⟩ := heq
    rw [double_cons_quote] at heq
    have hpos : 0 < n + 2 := by omega
    refine ih hpos hy (?_ : List.replicate (n + 2) '\'' ++ (double f ++ '\'' :: rest) = _)
    rw [← heq, show n + 2 = n + (1 + 1) from rfl, List.replicate_add, List.append_assoc]
    rfl

/-- **A text that decodes to itself has no quotes.** -/
theorem not_mem_of_double_eq {f : List Char} : ∀ {rest y : List Char}, (∀ y', y ≠ '\'' :: y') →
    double f ++ '\'' :: rest = f ++ '\'' :: y → '\'' ∉ f := by
  induction f with
  | nil => intro rest y _ _; simp
  | cons c f ih =>
    intro rest y hy heq
    by_cases hc : c = '\''
    · subst hc
      rw [double_cons_quote, List.cons_append, List.cons_append, List.cons_append,
        List.cons.injEq] at heq
      exact absurd heq.2 (replicate_double_ne f (n := 1) Nat.one_pos hy)
    · rw [double_cons_of_ne hc, List.cons_append, List.cons_append, List.cons.injEq] at heq
      rw [List.mem_cons, not_or]
      exact ⟨Ne.symm hc, ih hy heq.2⟩

/-! ## Templates -/

/-- A hole of a template: what was put between the quotes, and the fixed text up to the next hole
or the end. -/
structure Hole where
  value : List Char
  tail : List Char
  deriving DecidableEq, Repr

def render (head : List Char) (holes : List Hole) : List Char :=
  head ++ holes.flatMap fun h ↦ '\'' :: (h.value ++ '\'' :: h.tail)

/-- The tokens a piece of fixed text completes. -/
def tokensOf (text : List Char) : List Token := (scan .start text).2

/-- The template as it is meant to lex: fixed tokens, with one literal per hole. -/
def intended (head : List Char) (holes : List Hole) : List Token :=
  tokensOf head ++ holes.flatMap fun h ↦ .str h.value :: tokensOf h.tail

/-- Fixed text that leaves no token open. -/
def Closed (text : List Char) : Prop := (scan .start text).1 = .start

instance (text : List Char) : Decidable (Closed text) := inferInstanceAs (Decidable (_ = _))

/-- Fixed text that may follow a hole: closed, and not starting with another quote. -/
def Follows (text : List Char) : Prop := Closed text ∧ text.head?.any (· ≠ '\'') = true

instance (text : List Char) : Decidable (Follows text) := inferInstanceAs (Decidable (_ ∧ _))

theorem Closed.append {a b : List Char} (ha : Closed a) (hb : Closed b) : Closed (a ++ b) := by
  rw [Closed, scan_append, emit, show (scan .start a).1 = .start from ha]
  exact hb

theorem tokensOf_append {a : List Char} (ha : Closed a) (b : List Char) :
    tokensOf (a ++ b) = tokensOf a ++ tokensOf b := by
  rw [tokensOf, scan_append, emit, show (scan .start a).1 = .start from ha, tokensOf, tokensOf]

theorem scan_word_punct {w : List Char} (hne : w ≠ []) (hw : ∀ c ∈ w, isWord c = true)
    (hbegin : ∀ c ∈ w, begin c = (.word [c], [])) {p : Char} (hp : isWord p = false)
    (hpunct : begin p = (.start, [.punct p])) :
    scan .start (w ++ [p]) = (.start, [.word w, .punct p]) := by
  obtain ⟨c, w, rfl⟩ := List.exists_cons_of_ne_nil hne
  have hscan : scan .start (c :: w) = (.word (c :: w), []) := by
    rw [scan, step, hbegin c List.mem_cons_self,
      scan_word (fun c' hc' ↦ hw c' (List.mem_cons_of_mem c hc'))]
    rfl
  have hlast : step (.word (c :: w)) p = (.start, [.word (c :: w), .punct p]) := by
    simp [step, hp, hpunct, emit]
  rw [scan_append, hscan, scan, hlast]
  rfl

theorem Follows.exists_cons {text : List Char} (h : Follows text) :
    ∃ c rest, text = c :: rest ∧ c ≠ '\'' := by
  cases text with
  | nil => exact absurd h.2 (by simp)
  | cons c rest => exact ⟨c, rest, rfl, by simpa using h.2⟩

theorem IsStatement.cons {t : Token} {ts : List Token} (ht : t ≠ .punct ';')
    (h : IsStatement ts) : IsStatement (t :: ts) := by
  obtain ⟨body, rfl, hbody⟩ := h
  exact ⟨t :: body, rfl, by simp [hbody, Ne.symm ht]⟩

theorem IsStatement.append {a ts : List Token} (ha : .punct ';' ∉ a) (h : IsStatement ts) :
    IsStatement (a ++ ts) := by
  obtain ⟨body, rfl, hbody⟩ := h
  exact ⟨a ++ body, (List.append_assoc _ _ _).symm, by simp [ha, hbody]⟩

/-- A template is one statement when its last piece ends one and no other piece does. -/
theorem isStatement_intended {head : List Char} {holes : List Hole} {last : Hole}
    (hhead : .punct ';' ∉ tokensOf head) (hholes : ∀ h ∈ holes, .punct ';' ∉ tokensOf h.tail)
    (hlast : IsStatement (tokensOf last.tail)) : IsStatement (intended head (holes ++ [last])) := by
  refine IsStatement.append hhead ?_
  induction holes with
  | nil =>
    rw [List.nil_append, List.flatMap_singleton]
    exact hlast.cons nofun
  | cons h holes ih =>
    rw [List.cons_append, List.flatMap_cons, List.cons_append]
    refine IsStatement.cons nofun (IsStatement.append (hholes h List.mem_cons_self) ?_)
    exact ih fun h' hh' ↦ hholes h' (List.mem_cons_of_mem h hh')

theorem lexFrom_closed {text : List Char} (h : Closed text) (rest : List Char) :
    lexFrom .start (text ++ rest) = (lexFrom .start rest).map (tokensOf text ++ ·) := by
  rw [lexFrom_append, show (scan .start text).1 = .start from h, tokensOf]

private theorem map_append_eq_some {o : Option (List Token)} {a b : List Token} :
    o.map (a ++ ·) = some (a ++ b) ↔ o = some b := by
  cases o with
  | none => simp
  | some toks => simp

private theorem lexFrom_holes_iff {holes : List Hole} (hholes : ∀ h ∈ holes, Follows h.tail) :
    lexFrom .start (holes.flatMap fun h ↦ '\'' :: (h.value ++ '\'' :: h.tail))
        = some (holes.flatMap fun h ↦ .str h.value :: tokensOf h.tail)
      ↔ ∀ h ∈ holes, '\'' ∉ h.value := by
  induction holes with
  | nil => simp [lexFrom, finish]
  | cons h holes ih =>
    have hih := ih fun h' hh' ↦ hholes h' (List.mem_cons_of_mem h hh')
    have htail := hholes h List.mem_cons_self
    obtain ⟨c, rest, hcons, hc⟩ := htail.exists_cons
    have hassoc : ∀ r : List Char, '\'' :: (h.value ++ '\'' :: h.tail) ++ r
        = '\'' :: (h.value ++ '\'' :: c :: (rest ++ r)) := by
      intro r; rw [hcons]; simp
    rw [List.flatMap_cons, List.flatMap_cons, hassoc, List.forall_mem_cons]
    by_cases hq : '\'' ∈ h.value
    · -- The first token decodes to something else, or there is none.
      refine iff_of_false (fun heq ↦ ?_) (fun hall ↦ hall.1 hq)
      have hopen : lexFrom (.str []) (h.value ++ '\'' :: c :: (rest ++ _)) = some _ :=
        (map_nil_append _).symm.trans heq
      obtain ⟨d, r, hd, hx⟩ := lexFrom_str_head hopen
      rw [List.nil_append, Token.str.injEq] at hd
      subst hd
      refine not_mem_of_double_eq (fun y' hy' ↦ ?_) hx.symm hq
      exact hc (List.cons.inj hy').1
    · rw [lexFrom_quoted hq hc, ← List.cons_append, ← hcons, lexFrom_closed htail.1,
        Option.map_map, and_iff_right hq, ← hih]
      exact map_append_eq_some (a := .str h.value :: tokensOf h.tail)

/-- **Unescaped templates.** The filled template lexes as intended exactly when no filling has a
quote in it. -/
theorem lex_render_iff {head : List Char} {holes : List Hole} (hhead : Closed head)
    (hholes : ∀ h ∈ holes, Follows h.tail) :
    lex (render head holes) = some (intended head holes) ↔ ∀ h ∈ holes, '\'' ∉ h.value := by
  rw [lex, render, lexFrom_closed hhead, intended, map_append_eq_some, lexFrom_holes_iff hholes]

end SqlLex

import GstWebrtcCamera.Http.Request
import Mathlib.Data.List.Nodup

/-!
# Digest parameters

`get_auth_value_by_key` of `soup.c` on the headers it is given. It cuts the header at the commas
before it looks at the quotes, and takes the first piece whose text before the equals sign *ends*
in the key. Two questions about it: on which headers it stays inside the piece it reads, and on
which well-formed headers the piece it takes is the parameter that was asked for.
-/

namespace GstWebrtcCamera

open CString

/-! ## The first match -/

/-- What is made of the text after the equals sign: one character is skipped, whatever it is. -/
def readValue : Option (List Char) → Except Fault (Option CString)
  | none => .error .nullDeref
  | some [] => .error .pastEnd
  | some (_ :: value) => .ok (some (cut (value.takeWhile (· ≠ '"'))))

/-- The text at the first place whose name ends in the key. -/
def firstText (key : List Char) (places : List (List Char × Option (List Char))) :
    Option (Option (List Char)) :=
  (places.find? fun place ↦ key <:+ place.1).map Prod.snd

theorem firstText_cons_pos {key : List Char} {place : List Char × Option (List Char)}
    (h : key <:+ place.1) (places : List (List Char × Option (List Char))) :
    firstText key (place :: places) = some place.2 := by
  rw [firstText, List.find?_cons_of_pos (by simpa using h), Option.map_some]

theorem firstText_cons_neg {key : List Char} {place : List Char × Option (List Char)}
    (h : ¬ key <:+ place.1) (places : List (List Char × Option (List Char))) :
    firstText key (place :: places) = firstText key places := by
  rw [firstText, List.find?_cons_of_neg (by simpa using h), firstText]

theorem firstText_append (key : List Char) (places rest : List (List Char × Option (List Char))) :
    firstText key (places ++ rest) = (firstText key places).or (firstText key rest) := by
  rw [firstText, List.find?_append, Option.map_or, firstText, firstText]

theorem authValue_eq (key : List Char) (pieces : List (List Char)) :
    authValue key pieces =
      match firstText key (pieces.map splitEq) with
      | none => .ok none
      | some text => readValue text := by
  induction pieces with
  | nil => rfl
  | cons piece pieces ih =>
    rw [authValue, List.map_cons]
    generalize splitEq piece = place
    by_cases hkey : key <:+ place.1
    · rw [if_pos hkey, firstText_cons_pos hkey]
      rcases place with ⟨name, - | - | value⟩ <;> rfl
    · rw [if_neg hkey, firstText_cons_neg hkey]
      exact ih

theorem forall_decide_ne {sep : Char} {s : List Char} (h : sep ∉ s) :
    ∀ c ∈ s, decide (c ≠ sep) = true := fun _ hc ↦
  decide_eq_true (ne_of_mem_of_not_mem hc h)

theorem splitEq_of_notMem {piece : List Char} (h : '=' ∉ piece) :
    splitEq piece = (piece, none) := by
  have hall := forall_decide_ne h
  rw [splitEq, List.takeWhile_eq_self_iff.mpr hall, List.dropWhile_eq_nil_iff.mpr hall]
  rfl

theorem splitEq_append {name : List Char} (h : '=' ∉ name) (value : List Char) :
    splitEq (name ++ '=' :: value) = (name, some value) := by
  have hall := forall_decide_ne h
  rw [splitEq, List.takeWhile_append_of_pos hall, List.dropWhile_append_of_pos hall]
  simp

/-! ## Staying inside the piece -/

/-- A piece as the parser takes every piece to be: a name, an equals sign, and a character to be
skipped. -/
def Assigned (piece : List Char) : Prop :=
  ∃ name skipped rest, '=' ∉ name ∧ piece = name ++ '=' :: skipped :: rest

theorem readValue_splitEq_iff (piece : List Char) :
    (∃ v, readValue (splitEq piece).2 = .ok v) ↔ Assigned piece := by
  constructor
  · rintro ⟨v, hv⟩
    by_cases heq : '=' ∈ piece
    · obtain ⟨name, value, rfl, hname⟩ := List.eq_append_cons_of_mem heq
      rw [splitEq_append hname] at hv
      rcases value with - | ⟨skipped, rest⟩
      · cases hv
      · exact ⟨name, skipped, rest, hname, rfl⟩
    · rw [splitEq_of_notMem heq] at hv
      cases hv
  · rintro ⟨name, skipped, rest, hname, rfl⟩
    rw [splitEq_append hname]
    exact ⟨_, rfl⟩

/-- The first piece between commas whose text before its first equals sign ends in the key. -/
def firstPiece (auth : CString) (key : String) : Option (List Char) :=
  (gStrsplit auth.chars ',').find? fun piece ↦ (ofString key).chars <:+ (splitEq piece).1

theorem getAuthValueByKey_eq (auth : CString) (key : String) :
    getAuthValueByKey auth key =
      match firstPiece auth key with
      | none => .ok none
      | some piece => readValue (splitEq piece).2 := by
  have hfind : firstText (ofString key).chars ((gStrsplit auth.chars ',').map splitEq)
      = (firstPiece auth key).map fun piece ↦ (splitEq piece).2 := by
    rw [firstText, List.find?_map, Option.map_map]
    rfl
  rw [getAuthValueByKey, authValue_eq, hfind]
  cases firstPiece auth key <;> rfl

/-- The parser stays in bounds exactly when the piece it takes, if it takes one, has an equals sign
with a character after it. -/
theorem getAuthValueByKey_ok_iff (auth : CString) (key : String) :
    (∃ v, getAuthValueByKey auth key = .ok v) ↔
      ∀ piece, firstPiece auth key = some piece → Assigned piece := by
  rw [getAuthValueByKey_eq]
  cases firstPiece auth key with
  | none => simp
  | some piece => simp [readValue_splitEq_iff]

/-- A parameter without a value, in front of the one that is meant. -/
def bareParameter : CString := ofString "Digest x-username, username=\"admin\""

theorem exists_getAuthValueByKey_error :
    ¬ ∀ auth : CString, ∀ key ∈ ["username", "uri", "realm"],
      ∃ v, getAuthValueByKey auth key = .ok v := by
  intro h
  have hfault : getAuthValueByKey bareParameter "username" = .error .nullDeref := by
    rfl
  obtain ⟨v, hv⟩ := h bareParameter "username" (by decide)
  rw [hfault] at hv
  cases hv

/-! ## Well-formed headers -/

/-- The characters of a token. -/
def isTokenChar (c : Char) : Bool := c.isAlphanum || "!#$%&'*+-.^_`|~".toList.contains c

structure AuthToken where
  chars : List Char
  ne_nil : chars ≠ []
  all_isTokenChar : chars.all isTokenChar = true
  deriving DecidableEq

theorem AuthToken.notMem (t : AuthToken) {c : Char} (hc : ¬ isTokenChar c) : c ∉ t.chars :=
  fun h ↦ hc (List.all_eq_true.mp t.all_isTokenChar c h)

/-- A token as the key of a lookup. -/
def AuthToken.key (t : AuthToken) : String := String.ofList t.chars

theorem AuthToken.chars_ofString_key (t : AuthToken) : (ofString t.key).chars = t.chars := by
  rw [ofString, key, String.toList_ofList, chars_cut (t.notMem (by decide))]

/-- A parameter with a quoted value. -/
structure AuthParam where
  name : AuthToken
  value : CString
  noQuote : '"' ∉ value.chars

namespace AuthParam

def text (p : AuthParam) : List Char := p.name.chars ++ '=' :: '"' :: (p.value.chars ++ ['"'])

/-- The value with its closing quote, cut at its commas. -/
def words (p : AuthParam) : List (List Char) := (p.value.chars ++ ['"']).splitOn ','

/-- Where a key can be found in the text of one parameter: at its name, with the value up to the
first comma behind it, and then in each further piece of the value. -/
def places (p : AuthParam) : List (List Char × Option (List Char)) :=
  (p.name.chars, some ('"' :: p.words.headI)) :: p.words.tail.map splitEq

theorem noNul_text (p : AuthParam) : '\x00' ∉ p.text := by
  have hname : '\x00' ∉ p.name.chars := p.name.notMem (by decide)
  simp [text, hname, p.value.noNul]

end AuthParam

theorem notMem_intercalate {c : Char} {sep : List Char} (hsep : c ∉ sep) {ls : List (List Char)}
    (hls : ∀ l ∈ ls, c ∉ l) : c ∉ sep.intercalate ls := by
  induction ls with
  | nil => exact List.not_mem_nil
  | cons l ls ih =>
    obtain ⟨hl, hrest⟩ := List.forall_mem_cons.mp hls
    rcases ls with - | ⟨l', ls⟩
    · rwa [List.intercalate_singleton]
    · rw [List.intercalate_cons_cons, List.mem_append, List.mem_append, not_or, not_or]
      exact ⟨⟨hl, hsep⟩, ih hrest⟩

/-- The header a client sends for a list of parameters. -/
def digestHeader (params : List AuthParam) : CString where
  chars := "Digest ".toList ++ ", ".toList.intercalate (params.map AuthParam.text)
  noNul := by
    rw [List.mem_append, not_or]
    refine ⟨by decide, notMem_intercalate (by decide) fun l hl ↦ ?_⟩
    obtain ⟨p, -, rfl⟩ := List.mem_map.mp hl
    exact p.noNul_text

/-! ## The pieces of a well-formed header -/

theorem splitOn_append_of_notMem {sep : Char} {pre : List Char} (h : sep ∉ pre) {s w : List Char}
    {ws : List (List Char)} (hs : s.splitOn sep = w :: ws) :
    (pre ++ s).splitOn sep = (pre ++ w) :: ws := by
  induction pre with
  | nil => exact hs
  | cons c pre ih =>
    have hc : (c == sep) = false := beq_eq_false_iff_ne.mpr fun hc ↦ h (hc ▸ List.mem_cons_self)
    rw [List.cons_append, List.splitOn_cons_eq_if_modifyHead, hc,
      ih fun hmem ↦ h (List.mem_cons_of_mem _ hmem)]
    rfl

theorem suffix_append_space_iff {key : List Char} (hkey : ' ' ∉ key) (pre name : List Char) :
    key <:+ pre ++ ' ' :: name ↔ key <:+ name := by
  constructor
  · intro h
    rcases List.suffix_or_suffix_of_suffix h (List.suffix_append pre (' ' :: name)) with h | h
    · rcases List.suffix_cons_iff.mp h with rfl | h
      · exact absurd List.mem_cons_self hkey
      · exact h
    · exact absurd (h.mem List.mem_cons_self) hkey
  · intro h
    exact h.trans ⟨pre ++ [' '], by simp⟩

namespace AuthParam

theorem exists_words (p : AuthParam) : ∃ w ws, p.words = w :: ws :=
  List.exists_cons_of_ne_nil (List.splitOn_ne_nil _ _)

theorem splitOn_text (p : AuthParam) {pre : List Char} (hpre : ',' ∉ pre) :
    (pre ++ p.text).splitOn ',' =
      (pre ++ p.name.chars ++ '=' :: '"' :: p.words.headI) :: p.words.tail := by
  obtain ⟨w, ws, hwords⟩ := p.exists_words
  have hname : ',' ∉ p.name.chars := p.name.notMem (by decide)
  have hfront : ',' ∉ pre ++ p.name.chars ++ ['=', '"'] := by simp [hpre, hname]
  have htext : pre ++ p.text = pre ++ p.name.chars ++ ['=', '"'] ++ (p.value.chars ++ ['"']) := by
    simp [text]
  rw [htext, splitOn_append_of_notMem hfront hwords, hwords]
  simp

theorem firstText_text (p : AuthParam) {key pre : List Char} (hkey : ' ' ∉ key)
    (hcomma : ',' ∉ pre) (heq : '=' ∉ pre) :
    firstText key (((pre ++ ' ' :: p.text).splitOn ',').map splitEq) = firstText key p.places := by
  have hpre : ',' ∉ pre ++ [' '] := by simp [hcomma]
  have hname : '=' ∉ pre ++ [' '] ++ p.name.chars := by
    simp [heq, p.name.notMem (show ¬ isTokenChar '=' by decide)]
  have hsuffix : key <:+ pre ++ [' '] ++ p.name.chars ↔ key <:+ p.name.chars := by
    rw [List.append_assoc, List.singleton_append, suffix_append_space_iff hkey]
  rw [List.append_cons, p.splitOn_text hpre, List.map_cons, splitEq_append hname, places]
  by_cases h : key <:+ p.name.chars
  · rw [firstText_cons_pos (hsuffix.mpr h), firstText_cons_pos h]
  · rw [firstText_cons_neg (mt hsuffix.mp h), firstText_cons_neg h]

end AuthParam

theorem firstText_params {key : List Char} (hkey : ' ' ∉ key) (p : AuthParam)
    (params : List AuthParam) {pre : List Char} (hcomma : ',' ∉ pre) (heq : '=' ∉ pre) :
    firstText key (((pre ++ ' ' :: ", ".toList.intercalate
        ((p :: params).map AuthParam.text)).splitOn ',').map splitEq) =
      firstText key ((p :: params).flatMap AuthParam.places) := by
  induction params generalizing p pre with
  | nil => simpa using p.firstText_text hkey hcomma heq
  | cons q params ih =>
    have hsplit : pre ++ ' ' :: ", ".toList.intercalate ((p :: q :: params).map AuthParam.text) =
        (pre ++ ' ' :: p.text) ++ ',' :: ([] ++ ' ' :: ", ".toList.intercalate
          ((q :: params).map AuthParam.text)) := by
      rw [List.map_cons, List.map_cons, List.intercalate_cons_cons]
      simp
    rw [hsplit, List.splitOn_append_cons_self, List.map_append, firstText_append,
      p.firstText_text hkey hcomma heq, ih q List.not_mem_nil List.not_mem_nil,
      ← firstText_append]
    rfl

theorem getAuthValueByKey_digestHeader (params : List AuthParam) (key : AuthToken) :
    getAuthValueByKey (digestHeader params) key.key =
      match firstText key.chars (params.flatMap AuthParam.places) with
      | none => .ok none
      | some text => readValue text := by
  have hkey : ' ' ∉ key.chars := key.notMem (by decide)
  have hchars : (digestHeader params).chars =
      "Digest".toList ++ ' ' :: ", ".toList.intercalate (params.map AuthParam.text) := rfl
  have hne : "Digest".toList ++ ' ' :: ", ".toList.intercalate (params.map AuthParam.text) ≠ [] :=
    List.append_ne_nil_of_left_ne_nil (by decide) _
  have hplaces : firstText key.chars ((("Digest".toList ++ ' ' :: ", ".toList.intercalate
      (params.map AuthParam.text)).splitOn ',').map splitEq) =
      firstText key.chars (params.flatMap AuthParam.places) := by
    rcases params with - | ⟨p, params⟩
    · have hnone : ¬ key.chars <:+ "Digest".toList ++ [' '] := by
        rw [suffix_append_space_iff hkey, List.suffix_nil]
        exact key.ne_nil
      have hscheme : '=' ∉ "Digest".toList ++ [' '] := by decide
      have hcomma : ',' ∉ "Digest".toList ++ [' '] := by decide
      rw [List.map_nil, List.intercalate_nil, List.splitOn_eq_singleton hcomma, List.map_cons,
        splitEq_of_notMem hscheme, firstText_cons_neg hnone]
      rfl
    · have hcomma : ',' ∉ "Digest".toList := by decide
      have heq : '=' ∉ "Digest".toList := by decide
      exact firstText_params hkey p params hcomma heq
  rw [getAuthValueByKey, authValue_eq, key.chars_ofString_key, hchars, gStrsplit,
    if_neg hne, hplaces]

/-! ## When the answer is the parameter that was asked for -/

/-- A text offers a value: behind one character, up to a double quote or the end. -/
def Offers (text : Option (List Char)) (value : CString) : Prop :=
  ∃ skipped rest, text = some (skipped :: rest) ∧ cut (rest.takeWhile (· ≠ '"')) = value

theorem readValue_eq_some_iff (text : Option (List Char)) (value : CString) :
    readValue text = .ok (some value) ↔ Offers text value := by
  rcases text with - | - | ⟨skipped, rest⟩
  · simp [readValue, Offers]
  · simp [readValue, Offers]
  · simp [readValue, Offers]

theorem readValue_ne_none (text : Option (List Char)) : readValue text ≠ .ok none := by
  rcases text with - | - | - <;> simp [readValue]

/-- The piece of a value, behind a comma, in which a key can be found. -/
def AuthParam.innerPiece (p : AuthParam) (key : AuthToken) : Option (List Char) :=
  p.words.tail.find? fun piece ↦ key.chars <:+ (splitEq piece).1

/-- Nothing in front of the parameter that is asked for can be mistaken for it, and its value has
no comma. What can be mistaken for it, a longer name or a piece of another value, does no harm
when the same value is written there. -/
def Clear (key : AuthToken) : List AuthParam → Prop
  | [] => True
  | p :: params =>
    if p.name = key then ',' ∉ p.value.chars
    else if key.chars <:+ p.name.chars then
      ∃ q ∈ params, q.name = key ∧ q.value.chars = p.value.chars.takeWhile (· ≠ ',')
    else
      match p.innerPiece key with
      | none => Clear key params
      | some piece => ∃ q ∈ params, q.name = key ∧ Offers (splitEq piece).2 q.value

/-- What the callers rely on. -/
structure Answers (params : List AuthParam) (key : AuthToken) : Prop where
  found : ∀ p ∈ params, p.name = key →
    getAuthValueByKey (digestHeader params) key.key = .ok (some p.value)
  missing : (∀ p ∈ params, p.name ≠ key) →
    getAuthValueByKey (digestHeader params) key.key = .ok none

theorem headI_splitOn (sep : Char) (s : List Char) :
    (s.splitOn sep).headI = s.takeWhile (· ≠ sep) := by
  by_cases h : sep ∈ s
  · obtain ⟨a, b, rfl, ha⟩ := List.eq_append_cons_of_mem h
    rw [List.splitOn_append_cons_self_of_not_mem ha, List.headI_cons,
      List.takeWhile_append_of_pos (forall_decide_ne ha), List.takeWhile_cons_of_neg (by simp),
      List.append_nil]
  · rw [List.splitOn_eq_singleton h, List.headI_cons,
      List.takeWhile_eq_self_iff.mpr (forall_decide_ne h)]

namespace AuthParam

theorem takeWhile_headI_words (p : AuthParam) :
    p.words.headI.takeWhile (· ≠ '"') = p.value.chars.takeWhile (· ≠ ',') := by
  have hquote := forall_decide_ne p.noQuote
  rw [words, headI_splitOn]
  generalize p.value.chars = value at hquote
  induction value with
  | nil => rfl
  | cons c value ih =>
    obtain ⟨hc, hvalue⟩ := List.forall_mem_cons.mp hquote
    by_cases hcomma : c = ','
    · simp [hcomma]
    · simpa [hcomma, of_decide_eq_true hc] using ih hvalue

theorem offers_name_iff (p : AuthParam) (value : CString) :
    Offers (some ('"' :: p.words.headI)) value ↔
      value.chars = p.value.chars.takeWhile (· ≠ ',') := by
  have hnul : '\x00' ∉ p.value.chars.takeWhile (· ≠ ',') := fun h ↦
    p.value.noNul (List.takeWhile_subset _ h)
  have hcut : (cut (p.words.headI.takeWhile (· ≠ '"'))).chars =
      p.value.chars.takeWhile (· ≠ ',') := by
    rw [p.takeWhile_headI_words, chars_cut hnul]
  constructor
  · rintro ⟨skipped, rest, htext, rfl⟩
    obtain ⟨rfl, rfl⟩ := List.cons.inj (Option.some.inj htext)
    exact hcut
  · intro hvalue
    exact ⟨_, _, rfl, chars_injective (hcut.trans hvalue.symm)⟩

theorem offers_self_iff (p : AuthParam) :
    Offers (some ('"' :: p.words.headI)) p.value ↔ ',' ∉ p.value.chars := by
  rw [offers_name_iff, eq_comm, List.takeWhile_eq_self_iff]
  refine ⟨fun h hmem ↦ ?_, forall_decide_ne⟩
  exact absurd (h _ hmem) (by decide)

theorem firstText_places (p : AuthParam) (key : AuthToken) :
    firstText key.chars p.places =
      if key.chars <:+ p.name.chars then some (some ('"' :: p.words.headI))
      else (p.innerPiece key).map fun piece ↦ (splitEq piece).2 := by
  rw [places]
  split_ifs with h
  · exact firstText_cons_pos h _
  · rw [firstText_cons_neg h, firstText, innerPiece, List.find?_map, Option.map_map]
    rfl

end AuthParam

theorem clear_iff {params : List AuthParam} {key : AuthToken}
    (hnames : (params.map AuthParam.name).Nodup) :
    Clear key params ↔
      ∀ text, firstText key.chars (params.flatMap AuthParam.places) = some text →
        ∃ p ∈ params, p.name = key ∧ Offers text p.value := by
  induction params with
  | nil => exact iff_of_true trivial fun text htext ↦ by cases htext
  | cons p params ih =>
    obtain ⟨hp, hrest⟩ := List.nodup_cons.mp hnames
    rw [Clear, List.flatMap_cons, firstText_append, p.firstText_places]
    by_cases hname : p.name = key
    · -- another parameter of this name would repeat it
      rw [if_pos hname, if_pos (hname ▸ List.suffix_rfl), Option.some_or, ← p.offers_self_iff]
      constructor
      · rintro h text ⟨⟩
        exact ⟨p, List.mem_cons_self, hname, h⟩
      · intro h
        obtain ⟨q, hq, hqname, hoffers⟩ := h _ rfl
        rcases List.mem_cons.mp hq with rfl | hq
        · exact hoffers
        · exact absurd (List.mem_map.mpr ⟨q, hq, hqname.trans hname.symm⟩) hp
    · have hcons : ∀ P : AuthParam → Prop, (∃ q ∈ p :: params, q.name = key ∧ P q) ↔
          ∃ q ∈ params, q.name = key ∧ P q := fun P ↦ by
        rw [List.exists_mem_cons_iff, or_iff_right fun h ↦ hname h.1]
      simp only [hcons, if_neg hname]
      by_cases hsuffix : key.chars <:+ p.name.chars
      · rw [if_pos hsuffix, if_pos hsuffix, Option.some_or]
        simp only [Option.some.injEq, forall_eq', p.offers_name_iff]
      · rw [if_neg hsuffix, if_neg hsuffix]
        cases p.innerPiece key with
        | none => exact ih hrest
        | some piece => simp only [Option.map_some, Option.some_or, Option.some.injEq, forall_eq']

/-- The parser finds a parameter of the name it is given wherever there is one. -/
theorem firstText_ne_none {params : List AuthParam} {p : AuthParam} (hp : p ∈ params) :
    firstText p.name.chars (params.flatMap AuthParam.places) ≠ none := by
  intro hnone
  rw [firstText, Option.map_eq_none_iff, List.find?_eq_none] at hnone
  have hplace := hnone _ (List.mem_flatMap.mpr ⟨p, hp, List.mem_cons_self⟩)
  exact hplace (decide_eq_true List.suffix_rfl)

/-- Ordinary headers are clear: no commas in the values, and no longer name that ends in the key. -/
theorem clear_of_forall {key : AuthToken} {params : List AuthParam}
    (hcomma : ∀ p ∈ params, ',' ∉ p.value.chars)
    (hname : ∀ p ∈ params, key.chars <:+ p.name.chars → p.name = key) : Clear key params := by
  induction params with
  | nil => trivial
  | cons p params ih =>
    obtain ⟨hp, hvalues⟩ := List.forall_mem_cons.mp hcomma
    obtain ⟨hpname, hnames⟩ := List.forall_mem_cons.mp hname
    have hwords : p.words = [p.value.chars ++ ['"']] := List.splitOn_eq_singleton (by simp [hp])
    have hinner : p.innerPiece key = none := by
      rw [AuthParam.innerPiece, hwords]
      rfl
    rw [Clear]
    split_ifs with heq hsuffix
    · exact hp
    · exact absurd (hpname hsuffix) heq
    · rw [hinner]
      exact ih hvalues hnames

/-- The answer is right exactly when the header is clear about the key. -/
theorem answers_iff_clear {params : List AuthParam} (key : AuthToken)
    (hnames : (params.map AuthParam.name).Nodup) : Answers params key ↔ Clear key params := by
  rw [clear_iff hnames]
  have hparse := getAuthValueByKey_digestHeader params key
  cases hfirst : firstText key.chars (params.flatMap AuthParam.places) with
  | none =>
    rw [hfirst] at hparse
    refine iff_of_true ⟨fun p hp hname ↦ ?_, fun _ ↦ hparse⟩ fun text htext ↦ by cases htext
    exact absurd (hname ▸ hfirst) (firstText_ne_none hp)
  | some text =>
    rw [hfirst] at hparse
    replace hparse : getAuthValueByKey (digestHeader params) key.key = readValue text := hparse
    constructor
    · rintro ⟨hfound, hmissing⟩ text' htext
      obtain rfl := Option.some.inj htext
      by_contra hno
      have habsent : ∀ p ∈ params, p.name ≠ key := fun p hp hname ↦
        hno ⟨p, hp, hname, (readValue_eq_some_iff _ _).mp (hparse ▸ hfound p hp hname)⟩
      exact readValue_ne_none text (hparse ▸ hmissing habsent)
    · intro h
      obtain ⟨q, hq, hqname, hoffers⟩ := h text rfl
      refine ⟨fun p hp hname ↦ ?_, fun hmissing ↦ absurd hqname (hmissing q hq)⟩
      have hpq : p = q := List.inj_on_of_nodup_map hnames hp hq (hname.trans hqname.symm)
      rw [hparse, hpq]
      exact (readValue_eq_some_iff _ _).mpr hoffers

def usernameToken : AuthToken := ⟨"username".toList, by decide, by decide⟩

def realmToken : AuthToken := ⟨"realm".toList, by decide, by decide⟩

def uriToken : AuthToken := ⟨"uri".toList, by decide, by decide⟩

/-- The parameters of a request for a page. -/
def pageParams (uri : CString) (huri : '"' ∉ uri.chars) : List AuthParam :=
  [⟨usernameToken, ofString "admin", by decide⟩, ⟨realmToken, ofString "webrtc", by decide⟩,
    ⟨uriToken, uri, huri⟩]

theorem answers_pageParams :
    Answers (pageParams (ofString "/webrtc.html") (by decide)) uriToken :=
  (answers_iff_clear uriToken (by decide)).mpr (clear_of_forall (by decide) (by decide))

theorem exists_not_answers : ¬ ∀ (params : List AuthParam) (key : AuthToken),
    (params.map AuthParam.name).Nodup → Answers params key := by
  intro h
  have hcut : getAuthValueByKey
      (digestHeader (pageParams (ofString "/a,b.html") (by decide))) uriToken.key =
      .ok (some (ofString "/a")) := by
    rfl
  have hfound := (h (pageParams (ofString "/a,b.html") (by decide)) uriToken (by decide)).found
    _ (List.mem_cons_of_mem _ (List.mem_cons_of_mem _ List.mem_cons_self)) rfl
  rw [hcut] at hfound
  exact absurd hfound (by decide)

end GstWebrtcCamera

import BuzzerScript.Proofs.Token.Classes
import BuzzerScript.Yaml.Token

/-!
# Plain words in a flat mapping

A flat mapping has a line for each of its pairs: a plain word, a colon, a blank and another
plain word.  Such a text is read as it is written, without portions and line breaks of other
sorts, and a plain word is read up to the colon, or up to the end of its line.
-/

namespace BuzzerScript.Yaml

/-- A letter, a digit or a point. -/
def isWordChar (c : Char) : Bool := c.isAlphanum || c = '.'

/-- A word that is a plain scalar, wherever it stands. -/
structure IsPlainWord (word : List Char) : Prop where
  head : ∃ first rest, word = first :: rest ∧ first.isAlphanum = true
  all : ∀ c ∈ word, isWordChar c = true

/-- A line of a flat mapping. -/
structure FlatLine where
  key : List Char
  value : List Char
  isPlainWord_key : IsPlainWord key
  isPlainWord_value : IsPlainWord value

/-- What a line consists of. -/
def FlatLine.text (line : FlatLine) : List Char := line.key ++ ':' :: ' ' :: line.value

/-- Lines that follow another one. -/
def moreText (lines : List FlatLine) : List Char := lines.flatMap fun line => '\n' :: line.text

/-- The lines of a flat mapping, joined by line feeds. -/
def flatText : List FlatLine → List Char
  | [] => []
  | line :: lines => line.text ++ moreText lines

@[simp] theorem moreText_nil : moreText [] = [] := rfl

theorem FlatLine.text_append (line : FlatLine) (tail : List Char) :
    line.text ++ tail = line.key ++ ':' :: ' ' :: (line.value ++ tail) := by
  simp [FlatLine.text]

theorem moreText_cons (line : FlatLine) (lines : List FlatLine) :
    moreText (line :: lines) = '\n' :: (line.text ++ moreText lines) := rfl

/-! ## Characters -/

theorem toNat_of_isAlphanum {c : Char} (h : c.isAlphanum = true) :
    48 ≤ c.toNat ∧ c.toNat ≤ 122 ∧ c.toNat ≠ 58 := by
  rw [Char.isAlphanum, Bool.or_eq_true, isAlpha_iff_toNat] at h
  rcases h with h | h
  · omega
  · have := toNat_of_isDigit h
    omega

theorem toNat_of_isWordChar {c : Char} (h : isWordChar c = true) :
    46 ≤ c.toNat ∧ c.toNat ≤ 122 ∧ c.toNat ≠ 58 := by
  rw [isWordChar, Bool.or_eq_true] at h
  rcases h with h | h
  · have := toNat_of_isAlphanum h
    omega
  · obtain rfl := of_decide_eq_true h
    decide

/-- A character is not another one if their code points differ. -/
theorem ne_of_toNat_ne {c d : Char} (h : c.toNat ≠ d.toNat) : c ≠ d :=
  fun hsame => h (hsame ▸ rfl)

theorem isWordChar_of_isAlphanum {c : Char} (h : c.isAlphanum = true) :
    isWordChar c = true := by
  rw [isWordChar, h]
  rfl

section WordChar

variable {c : Char} (h : isWordChar c = true)
include h

theorem not_isBlank_of_isWordChar : isBlank c = false := by
  have hcode := toNat_of_isWordChar h
  have hspace : c ≠ ' ' := ne_of_toNat_ne (by simp; omega)
  have htab : c ≠ '\t' := ne_of_toNat_ne (by simp; omega)
  simp [isBlank, hspace, htab]

theorem not_isBreak_of_isWordChar : isBreak c = false := by
  have hcode := toNat_of_isWordChar h
  have hnewline : c ≠ '\n' := ne_of_toNat_ne (by simp; omega)
  simp [isBreak, hnewline]
  omega

theorem ne_colon_of_isWordChar : c ≠ ':' := by
  have hcode := toNat_of_isWordChar h
  exact ne_of_toNat_ne (by simp; omega)

end WordChar

/-! ## The text of a flat mapping -/

/-- A line feed or a printable ASCII character. -/
def IsFlatChar (c : Char) : Prop := c = '\n' ∨ 32 ≤ c.toNat ∧ c.toNat ≤ 126

theorem isFlatChar_of_isWordChar {c : Char} (h : isWordChar c = true) : IsFlatChar c := by
  have hcode := toNat_of_isWordChar h
  exact .inr (by omega)

theorem FlatLine.isFlatChar_text (line : FlatLine) : ∀ c ∈ line.text, IsFlatChar c := by
  intro c hc
  simp only [FlatLine.text, List.mem_append, List.mem_cons] at hc
  obtain hkey | rfl | rfl | hvalue := hc
  · exact isFlatChar_of_isWordChar (line.isPlainWord_key.all c hkey)
  · exact .inr (by decide)
  · exact .inr (by decide)
  · exact isFlatChar_of_isWordChar (line.isPlainWord_value.all c hvalue)

theorem isFlatChar_moreText (lines : List FlatLine) : ∀ c ∈ moreText lines, IsFlatChar c := by
  intro c hc
  obtain ⟨line, -, hc⟩ := List.mem_flatMap.mp hc
  obtain rfl | hc := List.mem_cons.mp hc
  · exact .inl rfl
  · exact line.isFlatChar_text c hc

theorem isFlatChar_flatText (lines : List FlatLine) : ∀ c ∈ flatText lines, IsFlatChar c := by
  intro c hc
  cases lines with
  | nil => cases hc
  | cons line lines =>
    obtain hc | hc := List.mem_append.mp hc
    · exact line.isFlatChar_text c hc
    · exact isFlatChar_moreText lines c hc

theorem isAllowed_of_isFlatChar {c : Char} (h : IsFlatChar c) : isAllowed c = true := by
  obtain rfl | ⟨hlow, hhigh⟩ := h
  · decide
  · simp [isAllowed, hlow, hhigh]

theorem readablePartFrom_of_isAllowed (size : Nat) (portion text : List Char)
    (h : ∀ c ∈ text, isAllowed c = true) :
    readablePartFrom size portion text = (portion.reverse ++ text, false) := by
  induction text generalizing size portion with
  | nil => simp [readablePartFrom]
  | cons c rest ih =>
    have hrest :=
      fun size portion => ih size portion fun d hd => h d (List.mem_cons_of_mem _ hd)
    rw [readablePartFrom, if_neg (not_not_intro (h c List.mem_cons_self)), hrest, hrest]
    split <;> simp

/-- All of the text is read. -/
theorem readablePart_flatText (lines : List FlatLine) :
    readablePart (flatText lines) = (flatText lines, false) :=
  readablePartFrom_of_isAllowed 0 [] _ fun c hc =>
    isAllowed_of_isFlatChar (isFlatChar_flatText lines c hc)

theorem normalize_of_isFlatChar {text : List Char} (h : ∀ c ∈ text, IsFlatChar c) :
    normalize text = text := by
  have hne : ∀ c : Char, IsFlatChar c → c ≠ '\r' ∧ c.toNat ≠ 0x85 := by
    rintro c (rfl | hrange)
    · decide
    · exact ⟨ne_of_toNat_ne (by simp; omega), by omega⟩
  induction text with
  | nil => rfl
  | cons c rest ih =>
    obtain ⟨hreturn, hnext⟩ := hne c (h c List.mem_cons_self)
    rw [normalize.eq_3 _ _ fun _ hc => absurd hc hreturn, if_neg (by simp [hreturn, hnext]),
      ih fun d hd => h d (List.mem_cons_of_mem _ hd)]

/-- The text has line breaks of one sort. -/
theorem normalize_flatText (lines : List FlatLine) :
    normalize (flatText lines) = flatText lines :=
  normalize_of_isFlatChar (isFlatChar_flatText lines)

/-! ## Reading a word -/

section ReadPlain

variable {indent : Nat} {text word rest : List Char} {mark : Mark}

/-- A word is read character by character. -/
theorem readPlain_append (h : ∀ c ∈ word, isWordChar c = true) (tail : List Char) :
    readPlain false indent text {} mark (word ++ tail) =
      readPlain false indent (word.reverse ++ text) {} (word.foldl Mark.after mark) tail := by
  induction word generalizing text mark with
  | nil => rfl
  | cons c rest ih =>
    have hc := h c List.mem_cons_self
    have hcolon := ne_colon_of_isWordChar hc
    rw [List.cons_append, readPlain, if_neg (by simp [not_isBlank_of_isWordChar hc]),
      if_neg (by simp [not_isBreak_of_isWordChar hc]),
      if_neg (by simp [hcolon, Gap.isEmpty, Gap.isBroken]), if_neg (by simp),
      ih fun d hd => h d (List.mem_cons_of_mem _ hd)]
    simp [Gap.foldOnto, Gap.fold]

/-- A word ends before a colon with a blank after it. -/
theorem readPlain_colon (h : ∀ c ∈ word, isWordChar c = true) :
    readPlain false indent [] {} mark (word ++ ':' :: ' ' :: rest) =
      some (word, false, ⟨word.foldl Mark.after mark, ':' :: ' ' :: rest⟩) := by
  rw [readPlain_append h, readPlain]
  simp [isBlank, isBreak, startsBlank, Gap.isBroken]

/-- A word ends where the text does. -/
theorem readPlain_nil (h : ∀ c ∈ word, isWordChar c = true) :
    readPlain false indent [] {} mark word =
      some (word, false, ⟨word.foldl Mark.after mark, []⟩) := by
  have hread := @readPlain_append indent [] word mark h []
  rw [List.append_nil] at hread
  rw [hread, readPlain]
  simp [Gap.isBroken]

/-- A word ends where a line does, if the next one is not indented. -/
theorem readPlain_newline {c : Char} (h : ∀ c ∈ word, isWordChar c = true)
    (hc : isWordChar c = true) (hindent : 0 < indent) :
    readPlain false indent [] {} mark (word ++ '\n' :: c :: rest) =
      some (word, true, ⟨(word.foldl Mark.after mark).after '\n', c :: rest⟩) := by
  have hbroken : Gap.isEmpty (Gap.addBreak {} '\n') = false := by decide
  have hcolumn : (((word.foldl Mark.after mark).after '\n')).column = 0 := rfl
  rw [readPlain_append h, readPlain, if_neg (by decide), if_pos (by decide), readPlain,
    if_neg (by simp [not_isBlank_of_isWordChar hc]),
    if_neg (by simp [not_isBreak_of_isWordChar hc]),
    if_pos (.inl ⟨by simp [hbroken], .inl ⟨rfl, by rwa [hcolumn]⟩⟩)]
  simp [Gap.isBroken, Gap.addBreak]

end ReadPlain

/-- A word stands on one line, and each of its characters takes a byte. -/
theorem foldl_after_word {word : List Char} (h : ∀ c ∈ word, isWordChar c = true)
    (mark : Mark) :
    word.foldl Mark.after mark =
      ⟨mark.index + word.length, mark.line, mark.column + word.length⟩ := by
  induction word generalizing mark with
  | nil => rfl
  | cons c rest ih =>
    have hc := h c List.mem_cons_self
    have hcode := toNat_of_isWordChar hc
    have hsize : c.utf8Size = 1 := Char.utf8Size_eq_one_iff.mpr <| by
      rw [UInt32.le_iff_toNat_le]
      exact Nat.le_trans hcode.2.1 (by decide)
    rw [List.foldl_cons, ih fun d hd => h d (List.mem_cons_of_mem _ hd), Mark.after,
      if_neg (by simp [not_isBreak_of_isWordChar hc]), hsize, List.length_cons]
    simp only [Mark.mk.injEq, true_and]
    omega

/-! ## In front of a token -/

section SkipBlanks

variable {keyAllowed : Bool} {mark : Mark} {c : Char} {rest : List Char}

/-- A word stands where it is looked for. -/
theorem skipBlanks_word (h : isWordChar c = true ∨ c = ':') :
    Scanner.skipBlanks false keyAllowed false mark (c :: rest) =
      (keyAllowed, ⟨mark, c :: rest⟩) := by
  have hcode : 46 ≤ c.toNat ∧ c.toNat ≤ 122 := by
    obtain h | rfl := h
    · have := toNat_of_isWordChar h
      omega
    · decide
  have hbreak : isBreak c = false := by
    obtain h | rfl := h
    · exact not_isBreak_of_isWordChar h
    · decide
  have hspace : c ≠ ' ' := ne_of_toNat_ne (by simp; omega)
  have htab : c ≠ '\t' := ne_of_toNat_ne (by simp; omega)
  have hhash : c ≠ '#' := ne_of_toNat_ne (by simp; omega)
  have hmark : c.toNat ≠ 0xFEFF := by omega
  simp [Scanner.skipBlanks, hbreak, hspace, htab, hhash, hmark]

/-- One blank is left behind. -/
theorem skipBlanks_space (h : isWordChar c = true) :
    Scanner.skipBlanks false keyAllowed false mark (' ' :: c :: rest) =
      (keyAllowed, ⟨mark.after ' ', c :: rest⟩) := by
  rw [Scanner.skipBlanks, if_neg (by decide), if_pos (.inr (.inl rfl)),
    skipBlanks_word (.inl h)]

end SkipBlanks

end BuzzerScript.Yaml

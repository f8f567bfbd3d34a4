import BuzzerScript.Proofs.NoteSymbol
import BuzzerScript.Token.Grammar

/-!
# Classes of lexemes

The first character of a lexeme tells its class, except that a note and an identifier start
alike.  All characters of lexemes are ASCII.
-/

namespace BuzzerScript

/-! ## Characters -/

theorem toNat_of_isDigit {c : Char} (h : c.isDigit = true) : 48 ≤ c.toNat ∧ c.toNat ≤ 57 :=
  Char.isDigit_iff_toNat.mp h

theorem isAlpha_iff_toNat (c : Char) :
    c.isAlpha = true ↔ 65 ≤ c.toNat ∧ c.toNat ≤ 90 ∨ 97 ≤ c.toNat ∧ c.toNat ≤ 122 := by
  have hranges : c.isAlpha = (decide ('A'.val ≤ c.val ∧ c.val ≤ 'Z'.val) ||
      decide ('a'.val ≤ c.val) && decide (c.val ≤ 'z'.val)) := rfl
  simp only [hranges, Bool.or_eq_true, Bool.and_eq_true, decide_eq_true_eq,
    UInt32.le_iff_toNat_le]
  rfl

theorem toNat_of_isIdentifierStart {c : Char} (h : isIdentifierStart c = true) :
    65 ≤ c.toNat ∧ c.toNat ≤ 90 ∨ 97 ≤ c.toNat ∧ c.toNat ≤ 122 ∨ c.toNat = 95 := by
  simp only [isIdentifierStart, Bool.or_eq_true, isAlpha_iff_toNat, beq_iff_eq] at h
  rcases h with (h | h) | rfl
  · exact .inl h
  · exact .inr (.inl h)
  · exact .inr (.inr rfl)

theorem toNat_of_isIdentifierPart {c : Char} (h : isIdentifierPart c = true) :
    c.toNat < 128 := by
  simp only [isIdentifierPart, Char.isAlphanum, Bool.or_eq_true, isAlpha_iff_toNat,
    beq_iff_eq] at h
  rcases h with (((h | h) | h) | rfl) | rfl
  · omega
  · omega
  · have := toNat_of_isDigit h
    omega
  · decide
  · decide

/-- No digit starts an identifier. -/
theorem isIdentifierStart_of_isDigit {c : Char} (h : c.isDigit = true) :
    isIdentifierStart c = false := by
  cases hstart : isIdentifierStart c with
  | false => rfl
  | true =>
    have hletter := toNat_of_isIdentifierStart hstart
    have hdigit := toNat_of_isDigit h
    omega

/-! ## First characters -/

namespace LexemeClass

/-- Whether a lexeme of a class can start with a character. -/
def startsWith (c : Char) : LexemeClass → Bool
  | .note | .identifier => isIdentifierStart c
  | .number => c.isDigit
  | .track => c == '@'
  | .equal => c == '='
  | .bar => c == '|'
  | .newline => c == '\n'

theorem isIdentifierStart_letter (letter : NoteLetter) :
    isIdentifierStart letter.char = true := by
  cases letter <;> decide

theorem startsWith_of_spells {kind : LexemeClass} {c : Char} {tail : List Char}
    (h : kind.Spells (c :: tail)) : kind.startsWith c = true := by
  cases kind with
  | note =>
    obtain ⟨symbol, hsymbol⟩ := h
    cases symbol with
    | rest =>
      obtain rfl : c = 'R' := (List.cons.inj hsymbol).1
      decide
    | note letter accidental octave =>
      obtain rfl : c = letter.char := (List.cons.inj hsymbol).1
      exact isIdentifierStart_letter letter
  | identifier => exact h.1
  | number =>
    rcases h with ⟨-, hdigits⟩ | ⟨whole, fraction, ⟨hne, hdigits⟩, -, htext⟩
    · exact hdigits c (by simp)
    · cases whole with
      | nil => exact absurd rfl hne
      | cons d whole =>
        obtain rfl : c = d := (List.cons.inj htext).1
        exact hdigits c (by simp)
  | track => simp_all [Spells, trackWord, startsWith]
  | equal => simp_all [Spells, startsWith]
  | bar => simpa [startsWith] using h.2 c (by simp)
  | newline => simp_all [Spells, startsWith]

theorem ne_nil_of_spells {kind : LexemeClass} {text : List Char} (h : kind.Spells text) :
    text ≠ [] := by
  rintro rfl
  cases kind with
  | note =>
    obtain ⟨symbol, hsymbol⟩ := h
    cases symbol <;> simp [NoteSymbol.chars] at hsymbol
  | identifier => exact h
  | number =>
    rcases h with h | ⟨whole, fraction, -, -, h⟩
    · exact h.1 rfl
    · simp at h
  | bar => exact h.1 rfl
  | _ => simp [Spells, trackWord] at h

/-- A lexeme at the start of a text starts with the first character of the text. -/
theorem startsWith_of_starts {kind : LexemeClass} {lexeme tail : List Char} {c : Char}
    (h : kind.Spells lexeme) (hstarts : lexeme <+: c :: tail) : kind.startsWith c = true := by
  cases lexeme with
  | nil => exact absurd rfl (ne_nil_of_spells h)
  | cons d more =>
    obtain ⟨rfl, -⟩ := List.cons_prefix_cons.mp hstarts
    exact startsWith_of_spells h

/-- Only one class of lexemes starts with a given character, unless it starts a word. -/
theorem eq_of_startsWith {kind other : LexemeClass} {c : Char} (h : kind.startsWith c = true)
    (hother : other.startsWith c = true) (hword : isIdentifierStart c = false) :
    kind = other := by
  cases kind <;> cases other <;> simp_all +decide [startsWith]

/-- No word starts like a number or a sign. -/
theorem isWord_of_startsWith {kind : LexemeClass} {c : Char} (h : kind.startsWith c = true)
    (hword : isIdentifierStart c = true) : kind = .note ∨ kind = .identifier := by
  cases kind with
  | note => exact .inl rfl
  | identifier => exact .inr rfl
  | number => exact absurd hword (by simp [isIdentifierStart_of_isDigit h])
  | _ =>
    simp only [startsWith, beq_iff_eq] at h
    subst h
    exact absurd hword (by decide)

/-! ## All characters -/

theorem isIdentifierPart_of_isIdentifierStart {c : Char} (h : isIdentifierStart c = true) :
    isIdentifierPart c = true := by
  simp only [isIdentifierStart, isIdentifierPart, Char.isAlphanum, Bool.or_eq_true] at h ⊢
  exact .inl (h.imp_left .inl)

theorem isIdentifierPart_of_isDigit {c : Char} (h : c.isDigit = true) :
    isIdentifierPart c = true := by
  simp [isIdentifierPart, Char.isAlphanum, h]

/-- What is found out character by character. -/
theorem forall_mem_of_all {p : Char → Prop} [DecidablePred p] {text : List Char}
    (h : text.all (fun c => p c) = true) : ∀ c ∈ text, p c := by
  intro c hc
  exact of_decide_eq_true (List.all_eq_true.mp h c hc)

/-- The signs within lexemes. -/
def signs : List Char := ['#', '.', '@', '=', '|']

theorem mem_of_chars (symbol : NoteSymbol) :
    ∀ c ∈ symbol.chars, isIdentifierPart c = true ∨ c ∈ signs := by
  cases symbol with
  | rest => exact forall_mem_of_all (by decide)
  | note letter accidental octave =>
    intro c hc
    simp only [NoteSymbol.chars_note, NoteSymbol.suffix, List.mem_cons, List.mem_append,
      List.mem_map] at hc
    rcases hc with rfl | ⟨a, -, rfl⟩ | ⟨o, -, rfl⟩
    · exact .inl (isIdentifierPart_of_isIdentifierStart (isIdentifierStart_letter letter))
    · cases a <;> decide
    · have hoctave : ∀ o : Fin 10, isIdentifierPart (NoteSymbol.octaveChar o) = true := by
        decide
      exact .inl (hoctave o)

/-- The characters of lexemes: those of words, and signs.  A line end is a
lexeme of its own. -/
theorem mem_of_spells {kind : LexemeClass} {text : List Char} (h : kind.Spells text) :
    ∀ c ∈ text, isIdentifierPart c = true ∨ c ∈ signs ∨ kind = .newline ∧ c = '\n' := by
  cases kind with
  | note =>
    obtain ⟨symbol, rfl⟩ := h
    intro c hc
    exact (mem_of_chars symbol c hc).imp_right .inl
  | identifier =>
    cases text with
    | nil => simp
    | cons d tail =>
      obtain ⟨hstart, htail⟩ := h
      intro c hc
      rcases List.mem_cons.mp hc with rfl | hc
      · exact .inl (isIdentifierPart_of_isIdentifierStart hstart)
      · exact .inl (htail c hc)
  | number =>
    intro c hc
    rcases h with h | ⟨whole, fraction, hwhole, hfraction, rfl⟩
    · exact .inl (isIdentifierPart_of_isDigit (h.2 c hc))
    · rcases List.mem_append.mp hc with hc | hc
      · exact .inl (isIdentifierPart_of_isDigit (hwhole.2 c hc))
      · rcases List.mem_cons.mp hc with rfl | hc
        · exact .inr (.inl (by decide))
        · exact .inl (isIdentifierPart_of_isDigit (hfraction.2 c hc))
  | bar =>
    intro c hc
    rw [h.2 c hc]
    exact .inr (.inl (by decide))
  | newline =>
    intro c hc
    rw [h, List.mem_singleton] at hc
    exact .inr (.inr ⟨rfl, hc⟩)
  | _ =>
    rw [h]
    exact forall_mem_of_all (by decide)

/-- What holds of the characters of words, of signs and of line ends holds of
those of lexemes. -/
theorem forall_mem_of_spells {p : Char → Prop} (hword : ∀ c, isIdentifierPart c = true → p c)
    (hsigns : ∀ c ∈ signs, p c) {kind : LexemeClass} (hnewline : kind = .newline → p '\n')
    {text : List Char} (h : kind.Spells text) : ∀ c ∈ text, p c := by
  intro c hc
  rcases mem_of_spells h c hc with hpart | hsign | ⟨hkind, rfl⟩
  · exact hword c hpart
  · exact hsigns c hsign
  · exact hnewline hkind

/-- All characters of lexemes are ASCII. -/
theorem toNat_lt_of_spells {kind : LexemeClass} {text : List Char} (h : kind.Spells text) :
    ∀ c ∈ text, c.toNat < 128 :=
  forall_mem_of_spells (fun _ hpart => toNat_of_isIdentifierPart hpart)
    (forall_mem_of_all (by decide)) (fun _ => by decide) h

/-- No lexeme has a blank in it. -/
theorem not_isBlank_of_spells {kind : LexemeClass} {text : List Char} (h : kind.Spells text) :
    ∀ c ∈ text, isBlank c = false := by
  refine forall_mem_of_spells ?_ (forall_mem_of_all (by decide)) (fun _ => by decide) h
  intro c hpart
  cases hblank : isBlank c with
  | false => rfl
  | true =>
    simp only [isBlank, Bool.or_eq_true, beq_iff_eq] at hblank
    rcases hblank with (rfl | rfl) | rfl
    all_goals exact absurd hpart (by decide)

/-- Only a line end has a line end in it. -/
theorem ne_newline_of_spells {kind : LexemeClass} (hkind : kind ≠ .newline) {text : List Char}
    (h : kind.Spells text) : ∀ c ∈ text, c ≠ '\n' := by
  refine forall_mem_of_spells ?_ (forall_mem_of_all (by decide)) ?_ h
  · rintro c hpart rfl
    exact absurd hpart (by decide)
  · intro hnewline
    exact absurd hnewline hkind

end LexemeClass

end BuzzerScript

import BuzzerScript.NoteSymbol

/-!
# The longest note symbol

`NoteSymbol.scan?` takes a letter, then an accidental if there is one, then a digit if there is
one. No accidental is a digit, so to take one never costs the other, and what is found is the
longest note symbol at the start of the text.
-/

namespace BuzzerScript

/-! ## Characters -/

theorem NoteLetter.ofChar?_eq_some_iff (c : Char) (letter : NoteLetter) :
    ofChar? c = some letter ↔ c = letter.char := by
  constructor
  · intro h
    unfold ofChar? at h
    split at h <;> simp_all [char] <;> subst h <;> rfl
  · rintro rfl
    cases letter <;> rfl

theorem Accidental.ofChar?_eq_some_iff (c : Char) (accidental : Accidental) :
    ofChar? c = some accidental ↔ c = accidental.char := by
  constructor
  · intro h
    unfold ofChar? at h
    split at h <;> simp_all [char] <;> subst h <;> rfl
  · rintro rfl
    cases accidental <;> rfl

namespace NoteSymbol

/-- The character of an octave. -/
def octaveChar (octave : Fin 10) : Char := Nat.digitChar octave.val

theorem toNat_octaveChar (octave : Fin 10) : (octaveChar octave).toNat = 48 + octave.val := by
  rw [octaveChar, Nat.toNat_digitChar_of_lt_ten octave.isLt]

theorem octaveOfChar?_eq_some_iff (c : Char) (octave : Fin 10) :
    octaveOfChar? c = some octave ↔ c = octaveChar octave := by
  rw [← Char.toNat_inj, toNat_octaveChar, octaveOfChar?]
  have hlt := octave.isLt
  split
  · rw [Option.some.injEq, Fin.ext_iff]
    simp only
    omega
  · simp only [reduceCtorEq, false_iff]
    omega

/-! ## Optional characters -/

section Optional

variable {α : Type} {read? : Char → Option α} {char : α → Char}

/-- What is taken off a text stands at its start. -/
theorem takeOptional_append (hread : ∀ c a, read? c = some a ↔ c = char a) (text : List Char) :
    (takeOptional read? text).1.toList.map char ++ (takeOptional read? text).2 = text := by
  cases text with
  | nil => rfl
  | cons c tail =>
    cases h : read? c with
    | none => simp [takeOptional, h]
    | some a => simp [takeOptional, h, ← (hread c a).mp h]

theorem takeOptional_char (hread : ∀ c a, read? c = some a ↔ c = char a) (a : α)
    (tail : List Char) : takeOptional read? (char a :: tail) = (some a, tail) := by
  simp [takeOptional, (hread (char a) a).mpr rfl]

theorem takeOptional_none {c : Char} (h : read? c = none) (tail : List Char) :
    takeOptional read? (c :: tail) = (none, c :: tail) := by
  simp [takeOptional, h]

end Optional

/-- No digit is an accidental. -/
theorem ofChar?_octaveChar (octave : Fin 10) :
    Accidental.ofChar? (octaveChar octave) = none := by
  revert octave
  decide

/-! ## Note symbols -/

/-- The accidental and the octave as they are written. -/
def suffix (accidental : Option Accidental) (octave : Option (Fin 10)) : List Char :=
  accidental.toList.map Accidental.char ++ octave.toList.map octaveChar

theorem chars_note (letter : NoteLetter) (accidental : Option Accidental)
    (octave : Option (Fin 10)) :
    chars (.note letter accidental octave) = letter.char :: suffix accidental octave := rfl

theorem length_suffix (accidental : Option Accidental) (octave : Option (Fin 10)) :
    (suffix accidental octave).length = accidental.toList.length + octave.toList.length := by
  simp [suffix]

/-- The accidental and the octave at the start of a text. -/
def scanSuffix (text : List Char) : Option Accidental × Option (Fin 10) :=
  let (accidental, afterAccidental) := takeOptional Accidental.ofChar? text
  (accidental, (takeOptional octaveOfChar? afterAccidental).1)

theorem scanSuffix_prefix (text : List Char) :
    suffix (scanSuffix text).1 (scanSuffix text).2 <+: text := by
  have haccidental := takeOptional_append Accidental.ofChar?_eq_some_iff text
  have hoctave := takeOptional_append octaveOfChar?_eq_some_iff
    (takeOptional Accidental.ofChar? text).2
  refine ⟨(takeOptional octaveOfChar? (takeOptional Accidental.ofChar? text).2).2, ?_⟩
  rw [suffix, List.append_assoc]
  simp only [scanSuffix]
  rw [hoctave, haccidental]

/-- No accidental and octave at the start of a text are longer than what is found. -/
theorem scanSuffix_longest {accidental : Option Accidental} {octave : Option (Fin 10)}
    {text : List Char} (h : suffix accidental octave <+: text) :
    (suffix accidental octave).length ≤
      (suffix (scanSuffix text).1 (scanSuffix text).2).length := by
  obtain ⟨rest, rfl⟩ := h
  rw [length_suffix, length_suffix]
  cases accidental with
  | some a =>
    cases octave with
    | none => simp [scanSuffix, suffix, takeOptional_char Accidental.ofChar?_eq_some_iff]
    | some o =>
      simp [scanSuffix, suffix, takeOptional_char Accidental.ofChar?_eq_some_iff,
        takeOptional_char octaveOfChar?_eq_some_iff]
  | none =>
    cases octave with
    | none => simp
    | some o =>
      simp [scanSuffix, suffix, takeOptional_none (ofChar?_octaveChar o),
        takeOptional_char octaveOfChar?_eq_some_iff]

theorem scan?_cons (first : Char) (tail : List Char) :
    scan? (first :: tail) =
      if first = 'R' then some (.rest, 1)
      else
        (NoteLetter.ofChar? first).map fun letter =>
          (.note letter (scanSuffix tail).1 (scanSuffix tail).2,
            1 + (suffix (scanSuffix tail).1 (scanSuffix tail).2).length) := by
  simp only [length_suffix, ← Nat.add_assoc]
  rfl

/-- What is found is written at the start of the text. -/
theorem scan?_prefix {text : List Char} {symbol : NoteSymbol} {n : Nat}
    (h : scan? text = some (symbol, n)) : symbol.chars <+: text ∧ symbol.chars.length = n := by
  cases text with
  | nil => simp [scan?] at h
  | cons first tail =>
    rw [scan?_cons] at h
    by_cases hfirst : first = 'R'
    · simp only [hfirst, if_true, Option.some.injEq, Prod.mk.injEq] at h
      obtain ⟨rfl, rfl⟩ := h
      rw [hfirst]
      exact ⟨⟨tail, rfl⟩, rfl⟩
    · simp only [hfirst, if_false, Option.map_eq_some_iff, Prod.mk.injEq] at h
      obtain ⟨letter, hletter, rfl, rfl⟩ := h
      rw [(NoteLetter.ofChar?_eq_some_iff first letter).mp hletter, chars_note]
      refine ⟨?_, ?_⟩
      · exact List.cons_prefix_cons.mpr ⟨rfl, scanSuffix_prefix tail⟩
      · rw [List.length_cons, Nat.add_comm]

theorem char_ne_rest (letter : NoteLetter) : letter.char ≠ 'R' := by
  cases letter <;> decide

/-- Any note symbol at the start of a text is at most as long as what is found. -/
theorem scan?_longest {text : List Char} {other : NoteSymbol} (h : other.chars <+: text) :
    ∃ symbol n, scan? text = some (symbol, n) ∧ other.chars.length ≤ n := by
  cases other with
  | rest =>
    obtain ⟨tail, rfl⟩ := h
    exact ⟨.rest, 1, rfl, Nat.le_refl 1⟩
  | note letter accidental octave =>
    rw [chars_note] at h ⊢
    obtain ⟨first, tail, rfl⟩ : ∃ first tail, text = first :: tail := by
      cases text with
      | nil => simp at h
      | cons first tail => exact ⟨first, tail, rfl⟩
    obtain ⟨rfl, htail⟩ := List.cons_prefix_cons.mp h
    have hscan := scan?_cons letter.char tail
    rw [if_neg (char_ne_rest letter), (NoteLetter.ofChar?_eq_some_iff _ letter).mpr rfl,
      Option.map_some] at hscan
    refine ⟨_, _, hscan, ?_⟩
    rw [List.length_cons, Nat.add_comm]
    exact Nat.add_le_add_left (scanSuffix_longest htail) 1

/-! ## Complete note symbols -/

theorem scanSuffix_suffix (accidental : Option Accidental) (octave : Option (Fin 10)) :
    scanSuffix (suffix accidental octave) = (accidental, octave) := by
  have hoctave : takeOptional octaveOfChar? (octave.toList.map octaveChar) = (octave, []) := by
    cases octave with
    | none => rfl
    | some o => exact takeOptional_char octaveOfChar?_eq_some_iff o []
  have haccidental : takeOptional Accidental.ofChar? (suffix accidental octave) =
      (accidental, octave.toList.map octaveChar) := by
    cases accidental with
    | some a => exact takeOptional_char Accidental.ofChar?_eq_some_iff a _
    | none =>
      cases octave with
      | none => rfl
      | some o => exact takeOptional_none (ofChar?_octaveChar o) []
  simp only [scanSuffix, haccidental, hoctave]

/-- A note symbol as it is written is found as a whole. -/
theorem scan?_chars (symbol : NoteSymbol) :
    scan? symbol.chars = some (symbol, symbol.chars.length) := by
  cases symbol with
  | rest => rfl
  | note letter accidental octave =>
    rw [chars_note, scan?_cons, if_neg (char_ne_rest letter),
      (NoteLetter.ofChar?_eq_some_iff _ letter).mpr rfl, scanSuffix_suffix, List.length_cons,
      Nat.add_comm]
    rfl

/-- A text reads as the note symbol that it is the writing of, and no other text reads as
one. -/
theorem ofChars?_eq_some_iff (text : List Char) (symbol : NoteSymbol) :
    ofChars? text = some symbol ↔ text = symbol.chars := by
  constructor
  · intro h
    unfold ofChars? at h
    split at h
    · next found n hscan =>
      obtain ⟨hstarts, hlength⟩ := scan?_prefix hscan
      split at h
      · next hall =>
        obtain rfl : found = symbol := by simpa using h
        exact (hstarts.eq_of_length (hlength.trans hall)).symm
      · simp at h
    · simp at h
  · rintro rfl
    simp [ofChars?, scan?_chars]

theorem ofChars?_eq_none_iff (text : List Char) :
    ofChars? text = none ↔ ∀ symbol : NoteSymbol, text ≠ symbol.chars := by
  simp only [Option.eq_none_iff_forall_ne_some, ne_eq, ofChars?_eq_some_iff]

end NoteSymbol

end BuzzerScript

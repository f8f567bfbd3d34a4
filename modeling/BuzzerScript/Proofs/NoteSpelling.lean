import BuzzerScript.Proofs.Token.Bytes
import BuzzerScript.Proofs.Token.Classes

/-!
# The spelling of note symbols

A note symbol is `R`, or a letter from `A` to `G`, then a sharp or a flat or neither, then
one digit or none.  A text that is read as a note symbol is spelled so from its first
character to its last.  What is found at the start of a text is the longest such spelling
there, whatever follows it.
-/

namespace BuzzerScript.NoteSymbol

/-- How a note symbol is spelled. -/
inductive Spelling : List Char → Prop
  | rest : Spelling ['R']
  | note {letter : Char} {accidental octave : List Char}
      (letter_mem : letter ∈ ['A', 'B', 'C', 'D', 'E', 'F', 'G'])
      (accidental_mem : accidental ∈ [[], ['#'], ['b']])
      (octave_digit : octave = [] ∨ ∃ digit : Char, digit.isDigit = true ∧ octave = [digit]) :
      Spelling (letter :: (accidental ++ octave))

/-- The longest start of a text that reads as a note symbol, with its length in bytes. -/
structure IsLongestStart (text start : List Char) (symbol : NoteSymbol) (n : Nat) : Prop where
  starts : start <+: text
  bytes : utf8Length start = n
  reads : ofChars? start = some symbol
  longest : ∀ (other : List Char) (found : NoteSymbol), other <+: text →
    ofChars? other = some found → utf8Length other ≤ n

/-! ## Spellings -/

theorem exists_letter {c : Char} (h : c ∈ ['A', 'B', 'C', 'D', 'E', 'F', 'G']) :
    ∃ letter : NoteLetter, c = letter.char := by
  simp only [List.mem_cons, List.not_mem_nil, or_false] at h
  obtain rfl | rfl | rfl | rfl | rfl | rfl | rfl := h
  · exact ⟨.a, rfl⟩
  · exact ⟨.b, rfl⟩
  · exact ⟨.c, rfl⟩
  · exact ⟨.d, rfl⟩
  · exact ⟨.e, rfl⟩
  · exact ⟨.f, rfl⟩
  · exact ⟨.g, rfl⟩

theorem exists_accidental {text : List Char} (h : text ∈ [[], ['#'], ['b']]) :
    ∃ accidental : Option Accidental, text = accidental.toList.map Accidental.char := by
  simp only [List.mem_cons, List.not_mem_nil, or_false] at h
  obtain rfl | rfl | rfl := h
  · exact ⟨none, rfl⟩
  · exact ⟨some .sharp, rfl⟩
  · exact ⟨some .flat, rfl⟩

theorem exists_octave {c : Char} (h : c.isDigit = true) : ∃ octave, c = octaveChar octave := by
  obtain ⟨hlow, hhigh⟩ := toNat_of_isDigit h
  refine ⟨⟨c.toNat - 48, by omega⟩, ?_⟩
  rw [← octaveOfChar?_eq_some_iff, octaveOfChar?, dif_pos ⟨hlow, by omega⟩]

theorem isDigit_octaveChar (octave : Fin 10) : (octaveChar octave).isDigit = true := by
  revert octave
  decide

/-- A spelling is the writing of a note symbol. -/
theorem spelling_iff (text : List Char) :
    Spelling text ↔ ∃ symbol : NoteSymbol, text = symbol.chars := by
  constructor
  · rintro (_ | ⟨hletter, haccidental, hoctave⟩)
    · exact ⟨.rest, rfl⟩
    · obtain ⟨letter, rfl⟩ := exists_letter hletter
      obtain ⟨accidental, rfl⟩ := exists_accidental haccidental
      rcases hoctave with rfl | ⟨digit, hdigit, rfl⟩
      · exact ⟨.note letter accidental none, rfl⟩
      · obtain ⟨octave, rfl⟩ := exists_octave hdigit
        exact ⟨.note letter accidental (some octave), rfl⟩
  · rintro ⟨symbol, rfl⟩
    cases symbol with
    | rest => exact .rest
    | note letter accidental octave =>
      refine .note ?_ ?_ ?_
      · cases letter <;> decide
      · rcases accidental with _ | _ | _ <;> decide
      · cases octave with
        | none => exact .inl rfl
        | some octave => exact .inr ⟨octaveChar octave, isDigit_octaveChar octave, rfl⟩

/-! ## Lengths -/

/-- A note symbol has as many bytes as characters. -/
theorem utf8Length_chars (symbol : NoteSymbol) :
  utf8Length symbol.chars = symbol.chars.length :=
  have hspells : LexemeClass.note.Spells symbol.chars := ⟨symbol, rfl⟩
  utf8Length_eq_length (LexemeClass.toNat_lt_of_spells hspells)

/-- A text is read as a note symbol if what is found at its start has all its bytes. -/
theorem ofChars?_eq_some_iff_scan? (text : List Char) (symbol : NoteSymbol) :
    ofChars? text = some symbol ↔ scan? text = some (symbol, utf8Length text) := by
  rw [ofChars?_eq_some_iff]
  constructor
  · rintro rfl
    rw [scan?_chars, utf8Length_chars]
  · intro h
    obtain ⟨⟨rest, htext⟩, hlength⟩ := scan?_prefix h
    rw [← htext, utf8Length_append, utf8Length_chars] at hlength
    -- what is left has no bytes, hence no characters
    cases rest with
    | nil => rw [← htext, List.append_nil]
    | cons c rest =>
      have hpos := c.utf8Size_pos
      rw [utf8Length_cons] at hlength
      omega

/-! ## What is found -/

variable {text : List Char} {symbol : NoteSymbol} {n : Nat}

/-- What is found is the longest start that reads as a note symbol. -/
theorem scan?_eq_some_iff :
    scan? text = some (symbol, n) ↔ ∃ start, IsLongestStart text start symbol n := by
  constructor
  · intro h
    obtain ⟨hstarts, hlength⟩ := scan?_prefix h
    refine ⟨symbol.chars, hstarts, (utf8Length_chars symbol).trans hlength,
      (ofChars?_eq_some_iff _ _).mpr rfl, ?_⟩
    intro other found hother hfound
    obtain rfl := (ofChars?_eq_some_iff _ _).mp hfound
    obtain ⟨_, m, hscan, hle⟩ := scan?_longest hother
    obtain ⟨-, rfl⟩ := Prod.mk.inj (Option.some.inj (h.symm.trans hscan))
    rwa [utf8Length_chars]
  · rintro ⟨start, hlongest⟩
    obtain rfl := (ofChars?_eq_some_iff _ _).mp hlongest.reads
    obtain ⟨found, m, hscan, hle⟩ := scan?_longest hlongest.starts
    obtain ⟨hfound, hm⟩ := scan?_prefix hscan
    have hback := hlongest.longest _ found hfound ((ofChars?_eq_some_iff _ _).mpr rfl)
    have hbytes := hlongest.bytes
    rw [utf8Length_chars] at hback hbytes
    -- two starts of the same length are the same
    have hsame : found.chars = symbol.chars :=
      (List.prefix_of_prefix_length_le hfound hlongest.starts (by omega)).eq_of_length
        (by omega)
    have hread := scan?_chars found
    rw [hsame, scan?_chars, Option.some.injEq, Prod.mk.injEq] at hread
    rw [hscan, hread.1, ← hbytes, ← hsame, hm]

/-- Nothing is found where no start reads as a note symbol. -/
theorem scan?_eq_none_iff :
    scan? text = none ↔ ∀ start, start <+: text → ofChars? start = none := by
  constructor
  · intro h start hstarts
    rw [ofChars?_eq_none_iff]
    rintro other rfl
    obtain ⟨_, _, hscan, -⟩ := scan?_longest hstarts
    rw [h] at hscan
    cases hscan
  · intro h
    rw [Option.eq_none_iff_forall_ne_some]
    rintro ⟨found, n⟩ hscan
    obtain ⟨start, hlongest⟩ := scan?_eq_some_iff.mp hscan
    have hread := hlongest.reads
    rw [h start hlongest.starts] at hread
    cases hread

/-- **Note symbols are recognised by their spelling.**  A text reads as a note symbol exactly
if it is spelled as one in full, and then its letter, accidental and octave are the ones
written.  What is found at the start of a text is its longest start that reads so, and nothing
is found if none does. -/
theorem recognition (text : List Char) :
    ((∃ symbol, ofChars? text = some symbol) ↔ Spelling text) ∧
    (∀ symbol, ofChars? text = some symbol ↔ text = symbol.chars) ∧
    (∀ symbol, ofChars? text = some symbol ↔ scan? text = some (symbol, utf8Length text)) ∧
    (∀ symbol n, scan? text = some (symbol, n) ↔ ∃ start, IsLongestStart text start symbol n) ∧
    (scan? text = none ↔ ∀ start, start <+: text → ofChars? start = none) := by
  refine ⟨?_, ofChars?_eq_some_iff text, ofChars?_eq_some_iff_scan? text,
    fun _ _ => scan?_eq_some_iff, scan?_eq_none_iff⟩
  simp only [spelling_iff, ofChars?_eq_some_iff]

/-- A digit of another script after a note symbol is not part of it. -/
example : scan? ['B', 'b', '٣'] = some (.note .b (some .flat) none, 2) ∧
    ofChars? ['B', 'b', '٣'] = none := by decide

end BuzzerScript.NoteSymbol

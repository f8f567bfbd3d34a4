import BuzzerScript.Proofs.Token.Gaps

/-!
# Lexemes in front of blanks

No lexeme has a blank in it, so a text of a class of lexemes is read as a whole in front of a
blank, and at the end of a text.  Line ends, which are no blanks, are tokens, each of them one.
-/

namespace BuzzerScript

/-- In front of a blank, or at the end of a text, a text of a class is the
lexeme that is read. -/
theorem isLexeme_of_blank {kind : LexemeClass} {text rest : List Char}
    (hspells : kind.Spells text) (hnote : kind = .identifier → ¬ LexemeClass.note.Spells text)
    (hrest : ∀ c, rest.head? = some c → isBlank c = true) : IsLexeme kind text rest := by
  have halone : IsLexeme kind text [] :=
    ⟨hspells, fun _ _ _ hstarts => by simpa using hstarts.length_le, hnote⟩
  have hgap : AtGap rest := fun c hc => .inl (hrest c hc)
  exact halone.append_gap hgap

theorem NoteSymbol.length_chars_le (symbol : NoteSymbol) : symbol.chars.length ≤ 3 := by
  cases symbol with
  | rest => decide
  | note letter accidental octave => cases accidental <;> cases octave <;> simp [chars]

/-- Words of more than three characters are no notes. -/
theorem not_note_of_length {text : List Char} (h : 3 < text.length) :
    ¬ LexemeClass.note.Spells text := by
  rintro ⟨symbol, rfl⟩
  have := symbol.length_chars_le
  omega

/-! ## Line ends -/

/-- A lexeme is a line end or has none in it, and so is its token. -/
theorem count_newline_lexeme {kind : LexemeClass} {text : List Char} {token : Token}
    (hspells : kind.Spells text) (hdenotes : kind.Denotes text token) :
    text.count '\n' = [token].count .newline := by
  by_cases hkind : kind = .newline
  · subst hkind
    obtain rfl : text = ['\n'] := hspells
    cases hdenotes
    rfl
  · have hnone : text.count '\n' = 0 := by
      rw [List.count_eq_zero]
      intro hmem
      exact LexemeClass.ne_newline_of_spells hkind hspells _ hmem rfl
    cases hdenotes <;> simp_all

/-- The line ends of a text are those among its tokens. -/
theorem Cuts.count_newline {text : List Char} {tokens : List Token} (h : Cuts text tokens) :
    text.count '\n' = tokens.count .newline := by
  induction h with
  | done => rfl
  | @blank c rest tokens hblank _ ih =>
    have hc : c ≠ '\n' := by
      rintro rfl
      exact absurd hblank (by decide)
    rw [List.count_cons_of_ne hc, ih]
  | @comment body rest tokens hline _ _ ih =>
    have hbody : body.count '\n' = 0 := by
      rw [List.count_eq_zero]
      intro hmem
      exact hline _ hmem rfl
    rw [List.cons_append, List.count_cons_of_ne (by decide), List.count_append, hbody, ih,
      Nat.zero_add]
  | @lexeme kind text rest token tokens hlexeme hdenotes _ ih =>
    rw [List.count_append, count_newline_lexeme hlexeme.spells hdenotes, ih,
      ← List.count_append, List.singleton_append]

end BuzzerScript

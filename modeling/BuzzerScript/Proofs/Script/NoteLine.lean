import BuzzerScript.Proofs.Script.FirstLine

/-!
# Reading a note line

`readMelody` walks along a line with a note that waits for its number.  `lineMelody` looks at
the pairs of neighbours in the line, bars aside.  Both find the same melody tokens: the note
that waits is always the one that the token before spells.
-/

namespace BuzzerScript.Script

/-! ## Neighbours -/

/-- The note that waits for a number after a token. -/
def waiting? : Token → Option NoteSymbol
  | .note text => NoteSymbol.ofChars? text.toList
  | _ => none

/-- The melody token of a note and its duration, if neither is missing. -/
def soundFor? : Option NoteSymbol → Option Nat → Option MelodyToken
  | some symbol, some denominator => some ⟨symbol.sound, denominator⟩
  | _, _ => none

/-- The melody token that two neighbours spell. -/
def neighbours? : Token × Token → Option MelodyToken
  | (before, .number value) => soundFor? (waiting? before) (denominator? value)
  | _ => none

/-- The melody of a line that follows the token `before`, which may be the note for a number at
the start of the line. -/
def melodyAfter (before : Token) (line : Line) : List MelodyToken :=
  let tokens := (line.map LocatedToken.token).filter (· ≠ .bar)
  ((before :: tokens).zip tokens).filterMap neighbours?

/-- At the start of a line no note waits. -/
theorem melodyAfter_newline (line : Line) : melodyAfter .newline line = lineMelody line := by
  have hpairs : ∀ tokens : List Token, (tokens.zip tokens.tail).filterMap neighbours? =
      ((Token.newline :: tokens).zip tokens).filterMap neighbours? := by
    intro tokens
    cases tokens with
    | nil => rfl
    | cons token tokens => cases token <;> rfl
  rw [lineMelody, notesWithNumbers, List.filterMap_filterMap, melodyAfter]
  refine (hpairs _).symm.trans ?_
  congr 1
  funext pair
  obtain ⟨before, token⟩ := pair
  cases token with
  | number value =>
    cases before with
    | note text =>
      cases hs : NoteSymbol.ofChars? text.toList <;> cases hd : denominator? value <;>
        simp [neighbours?, waiting?, noteAndNumber?, soundFor?, hs, hd]
    | _ => rfl
  | _ => cases before <;> rfl

theorem melodyAfter_bar {t : LocatedToken} (h : t.token = .bar) (before : Token)
    (line : Line) : melodyAfter before (t :: line) = melodyAfter before line := by
  simp [melodyAfter, h]

/-- A token that is no bar takes the place of the one before it. -/
theorem melodyAfter_cons {t : LocatedToken} (h : t.token ≠ .bar) (before : Token)
    (line : Line) :
    melodyAfter before (t :: line) =
      (neighbours? (before, t.token)).toList ++ melodyAfter t.token line := by
  cases hp : neighbours? (before, t.token) <;> simp [melodyAfter, h, hp]

theorem malformedNote?_cons {t : LocatedToken} (h : isNote t = false) (line : Line) :
    malformedNote? (t :: line) = malformedNote? line := by
  obtain ⟨token, position⟩ := t
  cases token <;> simp_all [malformedNote?, isNote]

/-! ## Reading -/

/-- What a reader of note lines makes of a line, where `after` comes behind it. -/
def melodyResult (before : Token) (line : Line) (after : List LocatedToken) :
    Except CompileError (List MelodyToken × List LocatedToken) :=
  match malformedNote? line with
  | some e => .error e
  | none => .ok (melodyAfter before line, after)

/-- A token that is neither a bar nor a number nor a note drops the note that waits. -/
theorem melodyResult_cons {t : LocatedToken} (hbar : t.token ≠ .bar) (hnote : isNote t = false)
    (hnumber : ∀ value, t.token ≠ .number value) (before : Token) (line : Line)
    (after : List LocatedToken) :
    melodyResult before (t :: line) after = melodyResult t.token line after := by
  have hpair : neighbours? (before, t.token) = none := by
    cases ht : t.token with
    | number value => exact absurd ht (hnumber value)
    | _ => rfl
  rw [melodyResult, malformedNote?_cons hnote, melodyAfter_cons hbar, hpair]
  rfl

/-- Reading a note line gives its melody, or its first malformed note, and leaves what comes
after its line end. -/
theorem readMelody_waiting (before : Token) (tokens : List LocatedToken) :
    readMelody (waiting? before) tokens =
      melodyResult before (firstLine tokens) (skipLine tokens) := by
  -- the note that waits is the one the token before spells, along the whole line
  induction tokens generalizing before with
  | nil => rfl
  | cons t rest ih =>
    obtain ⟨token, position⟩ := t
    cases token with
    | newline => rfl
    | note text =>
      rw [firstLine_cons (by simp), skipLine_cons (by simp), readMelody]
      cases hs : NoteSymbol.ofChars? text.toList with
      | none => simp [melodyResult, malformedNote?, hs]
      | some symbol =>
        have hw : waiting? (.note text) = some symbol := hs
        simp only [hs]
        rw [← hw, ih, melodyResult, melodyResult, melodyAfter_cons (by simp)]
        simp [malformedNote?, hs, neighbours?]
    | number value =>
      rw [firstLine_cons (by simp), skipLine_cons (by simp), melodyResult,
        malformedNote?_cons rfl, melodyAfter_cons (by simp), readMelody]
      have hrest : readMelody none rest = _ := ih (.number value)
      simp only [hrest, neighbours?, melodyResult]
      cases waiting? before <;> cases denominator? value <;>
        cases malformedNote? (firstLine rest) <;> rfl
    | bar =>
      rw [firstLine_cons (by simp), skipLine_cons (by simp), melodyResult,
        malformedNote?_cons rfl, melodyAfter_bar rfl, readMelody]
      exact ih before
    | identifier text =>
      rw [firstLine_cons (by simp), skipLine_cons (by simp),
        melodyResult_cons (by simp) rfl (by simp), readMelody]
      exact ih (.identifier text)
    | track =>
      rw [firstLine_cons (by simp), skipLine_cons (by simp),
        melodyResult_cons (by simp) rfl (by simp), readMelody]
      exact ih .track
    | equal =>
      rw [firstLine_cons (by simp), skipLine_cons (by simp),
        melodyResult_cons (by simp) rfl (by simp), readMelody]
      exact ih .equal

/-- A note line is read from the first line alone. -/
theorem readMelody_eq (tokens : List LocatedToken) :
    readMelody none tokens =
      match malformedNote? (firstLine tokens) with
      | some e => .error e
      | none => .ok (lineMelody (firstLine tokens), skipLine tokens) := by
  rw [← melodyAfter_newline]
  exact readMelody_waiting .newline tokens

end BuzzerScript.Script

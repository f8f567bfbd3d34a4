import BuzzerScript.Token.Lexeme

/-!
# Token streams

Reading a text from left to right into tokens.  A cursor can be read from again: after an
error it still stands in front of what no token starts with, and after the last token at
the end of the text.
-/

namespace BuzzerScript

/-- What stands at a cursor. -/
inductive Step where
  /-- The text is used up. -/
  | done
  /-- A blank or a comment, up to the cursor `next`. -/
  | skip (next : Cursor)
  | token (located : LocatedToken) (next : Cursor)
  | fault (fault : LexicalFault)

namespace Cursor

/-- What stands at the cursor.  A comment starts where a token could start; its line end
is not part of it. -/
def step (cursor : Cursor) : Step :=
  match cursor.rest with
  | [] => .done
  | c :: tail =>
    if isBlank c then .skip cursor.advance
    else if c = '#' then .skip (cursor.advanceBytes (commentLength cursor.rest))
    else
      match readLexeme c tail with
      | .ok (token, length) => .token ⟨token, cursor.position⟩ (cursor.advanceBytes length)
      | .error fault => .fault fault

theorem length_advance_lt {cursor : Cursor} (h : cursor.rest ≠ []) :
    cursor.advance.rest.length < cursor.rest.length := by
  unfold advance
  split
  · exact absurd ‹_› h
  · simp_all

theorem length_lt_of_step_skip {cursor next : Cursor} (h : cursor.step = .skip next) :
    next.rest.length < cursor.rest.length := by
  unfold step at h
  split at h
  · simp at h
  · next c tail hrest =>
    have hne : cursor.rest ≠ [] := by simp [hrest]
    split at h
    · simp only [Step.skip.injEq] at h
      exact h ▸ length_advance_lt hne
    · split at h
      · next hc =>
        simp only [Step.skip.injEq] at h
        subst hc
        have := commentLength_pos tail
        exact h ▸ length_advanceBytes_lt (by rw [hrest]; omega) hne
      · split at h <;> simp at h

theorem length_lt_of_step_token {cursor next : Cursor} {located : LocatedToken}
    (h : cursor.step = .token located next) : next.rest.length < cursor.rest.length := by
  unfold step at h
  split at h
  · simp at h
  · next c tail hrest =>
    split at h
    · simp at h
    split at h
    · simp at h
    split at h
    · next token n hread =>
      simp only [Step.token.injEq] at h
      exact h.2 ▸ length_advanceBytes_lt (Nat.pos_iff_ne_zero.mp (readLexeme_pos hread))
        (by simp [hrest])
    · simp at h

/-- All the tokens from the cursor on, or the first error, with the cursor where reading
stopped: the end of the text, or the place of the error. -/
def tokens (cursor : Cursor) : Except CompileError (List LocatedToken) × Cursor :=
  match _h : cursor.step with
  | .done => (.ok [], cursor)
  | .skip next => next.tokens
  | .token located next =>
    let (result, last) := next.tokens
    (result.map (located :: ·), last)
  | .fault fault => (.error (.lexical cursor.position fault), cursor)
termination_by cursor.rest.length
decreasing_by
  · exact length_lt_of_step_skip _h
  · exact length_lt_of_step_token _h

/-- The results of reading from the cursor `count` times in a row. -/
def session (cursor : Cursor) : Nat → List (Except CompileError (List LocatedToken))
  | 0 => []
  | count + 1 =>
    let (result, last) := cursor.tokens
    result :: last.session count

end Cursor

/-- The tokens of a text. -/
def tokenize (source : String) : Except CompileError (List LocatedToken) :=
  (Cursor.start source.toList).tokens.1

end BuzzerScript

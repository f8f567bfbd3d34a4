import BuzzerScript.Proofs.Token.MaximalMunch

/-!
# Cutting a text into lexemes

The tokens of a text are those of the lexemes that it is cut into from left to right, and there
are none if it cannot be cut.
-/

namespace BuzzerScript

/-! ## Blanks and comments -/

theorem LexemeClass.not_isBlank_of_startsWith {kind : LexemeClass} {c : Char}
    (h : kind.startsWith c = true) : isBlank c = false ∧ c ≠ '#' := by
  have hblank : ∀ d, isBlank d = true ∨ d = '#' → kind.startsWith d = false := by
    intro d hd
    simp only [isBlank, Bool.or_eq_true, beq_iff_eq] at hd
    rcases hd with ((rfl | rfl) | rfl) | rfl
    all_goals cases kind <;> decide
  refine ⟨?_, ?_⟩
  · cases hc : isBlank c with
    | false => rfl
    | true => exact absurd h (by simp [hblank c (.inl hc)])
  · intro hc
    exact absurd h (by simp [hblank c (.inr hc)])

/-- The line of a comment is as long as its text has no line end. -/
theorem takeWhile_comment {body rest : List Char} (hline : ∀ c ∈ body, c ≠ '\n')
    (hends : rest = [] ∨ rest.head? = some '\n') :
    ('#' :: body ++ rest).takeWhile (· != '\n') = '#' :: body := by
  have hall : ∀ c ∈ '#' :: body, (c != '\n') = true := by
    intro c hc
    rcases List.mem_cons.mp hc with rfl | hc
    · decide
    · simpa using hline c hc
  rw [List.takeWhile_append_of_pos hall]
  rcases hends with rfl | hhead
  · simp
  · obtain ⟨tail, rfl⟩ := List.head?_eq_some_iff.mp hhead
    simp

/-- A comment ends where its line does. -/
theorem exists_comment (tail : List Char) :
    ∃ body rest, tail = body ++ rest ∧ (∀ c ∈ body, c ≠ '\n') ∧
      (rest = [] ∨ rest.head? = some '\n') := by
  refine ⟨tail.takeWhile (· != '\n'), tail.dropWhile (· != '\n'),
    List.takeWhile_append_dropWhile.symm, ?_, ?_⟩
  · intro c hc
    simpa using List.mem_takeWhile_imp hc
  · cases hrest : tail.dropWhile (· != '\n') with
    | nil => exact .inl rfl
    | cons c rest =>
      have hc := List.head?_dropWhile_not (· != '\n') tail
      rw [hrest] at hc
      right
      simpa using hc

namespace Cursor

/-! ## Steps -/

theorem step_nil (offset : Nat) (position : Position) :
    (Cursor.mk offset position []).step = .done := rfl

theorem step_blank {c : Char} (hc : isBlank c = true) (offset : Nat) (position : Position)
    (rest : List Char) :
    (Cursor.mk offset position (c :: rest)).step =
      .skip ⟨offset + c.utf8Size, position.after c, rest⟩ := by
  simp [step, hc, advance]

theorem step_comment {body rest : List Char} (hline : ∀ c ∈ body, c ≠ '\n')
    (hends : rest = [] ∨ rest.head? = some '\n') (offset : Nat) (position : Position) :
    (Cursor.mk offset position ('#' :: body ++ rest)).step =
      .skip ⟨offset + utf8Length ('#' :: body), ('#' :: body).foldl Position.after position,
        rest⟩ := by
  have hlength : commentLength ('#' :: body ++ rest) = utf8Length ('#' :: body) := by
    rw [commentLength, takeWhile_comment hline hends]
  have hadvance := advanceBytes_append ('#' :: body) rest offset position
  rw [← hadvance, ← hlength]
  rfl

theorem step_lexeme {kind : LexemeClass} {lexeme rest : List Char} {token : Token}
    (hlexeme : IsLexeme kind lexeme rest) (hdenotes : kind.Denotes lexeme token) (offset : Nat)
    (position : Position) :
    (Cursor.mk offset position (lexeme ++ rest)).step =
      .token ⟨token, position⟩
        ⟨offset + utf8Length lexeme, lexeme.foldl Position.after position, rest⟩ := by
  have hlength := utf8Length_eq_length (LexemeClass.toNat_lt_of_spells hlexeme.spells)
  have hadvance := advanceBytes_append lexeme rest offset position
  cases lexeme with
  | nil => exact absurd rfl (LexemeClass.ne_nil_of_spells hlexeme.spells)
  | cons c tail =>
    obtain ⟨hblank, hcomment⟩ := LexemeClass.not_isBlank_of_startsWith
      (LexemeClass.startsWith_of_spells hlexeme.spells)
    have hread : readLexeme c (tail ++ rest) = .ok (token, utf8Length (c :: tail)) :=
      readLexeme_eq_ok_iff.mpr ⟨kind, c :: tail, rest, rfl, hlexeme, hdenotes, hlength⟩
    rw [← hadvance]
    simp only [step, List.cons_append, hblank, hcomment, hread, if_false, Bool.false_eq_true]

theorem step_fault {c : Char} {tail : List Char} {fault : LexicalFault}
    (hblank : isBlank c = false) (hcomment : c ≠ '#')
    (hread : readLexeme c tail = .error fault) (offset : Nat) (position : Position) :
    (Cursor.mk offset position (c :: tail)).step = .fault fault := by
  simp only [step, hblank, hcomment, hread, if_false, Bool.false_eq_true]

/-! ## Runs -/

theorem tokens_of_done {cursor : Cursor} (h : cursor.step = .done) :
    cursor.tokens = (.ok [], cursor) := by
  rw [tokens]
  split <;> simp_all

theorem tokens_of_skip {cursor next : Cursor} (h : cursor.step = .skip next) :
    cursor.tokens = next.tokens := by
  rw [tokens]
  split <;> simp_all

theorem tokens_of_token {cursor next : Cursor} {located : LocatedToken}
    (h : cursor.step = .token located next) :
    cursor.tokens = (next.tokens.1.map (located :: ·), next.tokens.2) := by
  rw [tokens]
  split <;> simp_all

theorem tokens_of_fault {cursor : Cursor} {fault : LexicalFault}
    (h : cursor.step = .fault fault) :
    cursor.tokens = (.error (.lexical cursor.position fault), cursor) := by
  rw [tokens]
  split <;> simp_all

theorem exists_of_map_eq_ok {ε α β : Type} {f : α → β} {result : Except ε α} {b : β}
    (h : result.map f = .ok b) : ∃ a, result = .ok a ∧ f a = b := by
  cases result with
  | error e => simp [Except.map] at h
  | ok a => exact ⟨a, rfl, by simpa [Except.map] using h⟩

/-- A text that can be cut is read, into the tokens that it is cut into. -/
theorem exists_tokens_of_cuts {text : List Char} {tokens : List Token} (h : Cuts text tokens)
    (offset : Nat) (position : Position) :
    ∃ located, (Cursor.mk offset position text).tokens.1 = .ok located ∧
      located.map LocatedToken.token = tokens := by
  induction h generalizing offset position with
  | done =>
    rw [tokens_of_done (step_nil offset position)]
    exact ⟨[], rfl, rfl⟩
  | blank hblank _ ih =>
    rw [tokens_of_skip (step_blank hblank offset position _)]
    exact ih _ _
  | comment hline hends _ ih =>
    rw [tokens_of_skip (step_comment hline hends offset position)]
    exact ih _ _
  | @lexeme kind text rest token tokens hlexeme hdenotes _ ih =>
    obtain ⟨located, hlocated, htokens⟩ :=
      ih (offset + utf8Length text) (text.foldl Position.after position)
    refine ⟨⟨token, position⟩ :: located, ?_, ?_⟩
    · rw [tokens_of_token (step_lexeme hlexeme hdenotes offset position), hlocated]
      rfl
    · rw [List.map_cons, htokens]

/-- A text that is read can be cut into its tokens.  The induction is on the length of the
text, for each step leaves a shorter one. -/
theorem cuts_of_tokens {text : List Char} {located : List LocatedToken} {offset : Nat}
    {position : Position} (h : (Cursor.mk offset position text).tokens.1 = .ok located) :
    Cuts text (located.map LocatedToken.token) := by
  induction hn : text.length using Nat.strong_induction_on
    generalizing text located offset position with
  | _ n ih =>
  subst hn
  cases text with
  | nil =>
    rw [tokens_of_done (step_nil offset position)] at h
    obtain rfl : [] = located := by simpa using h
    exact .done
  | cons c tail =>
    cases hblank : isBlank c with
    | true =>
      rw [tokens_of_skip (step_blank hblank offset position tail)] at h
      exact .blank hblank (ih tail.length (by simp) h rfl)
    | false =>
      by_cases hcomment : c = '#'
      · obtain ⟨body, rest, rfl, hline, hends⟩ := exists_comment tail
        subst hcomment
        rw [← List.cons_append] at h ⊢
        rw [tokens_of_skip (step_comment hline hends offset position)] at h
        exact .comment hline hends (ih rest.length (by
          simp only [List.length_append, List.length_cons]
          omega) h rfl)
      · cases hread : readLexeme c tail with
        | error fault =>
          rw [tokens_of_fault (step_fault hblank hcomment hread offset position)] at h
          simp at h
        | ok found =>
          obtain ⟨kind, lexeme, rest, htext, hlexeme, hdenotes, -⟩ :=
            readLexeme_eq_ok_iff.mp hread
          have hne := List.length_pos_iff.mpr (LexemeClass.ne_nil_of_spells hlexeme.spells)
          rw [htext] at h ih ⊢
          rw [tokens_of_token (step_lexeme hlexeme hdenotes offset position)] at h
          obtain ⟨more, hmore, rfl⟩ := exists_of_map_eq_ok h
          exact .lexeme hlexeme hdenotes (ih rest.length (by simp; omega) hmore rfl)

end Cursor

/-- **The tokens of a text** are the tokens of the lexemes that it is cut into, and a text that
cannot be cut has none. -/
theorem exists_tokenize_iff_cuts (source : String) (tokens : List Token) :
    (∃ located, tokenize source = .ok located ∧ located.map LocatedToken.token = tokens) ↔
      Cuts source.toList tokens := by
  constructor
  · rintro ⟨located, hlocated, rfl⟩
    exact Cursor.cuts_of_tokens hlocated
  · intro h
    exact Cursor.exists_tokens_of_cuts h 0 ⟨1, 1⟩

end BuzzerScript

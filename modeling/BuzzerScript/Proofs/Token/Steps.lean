import BuzzerScript.Proofs.Token.Cutting

/-!
# What a cursor steps over

In one step a cursor passes a blank, a comment or a lexeme, or it stops because nothing
of these stands in front of it.  Both are said here of the text alone: what is passed,
and why reading stops.
-/

namespace BuzzerScript

/-- What a cursor passes in one step, in front of `rest`, with the token that it makes, if
any. -/
inductive Passes : List Char → List Char → Option Token → Prop
  | blank {c : Char} (rest : List Char) (blank : isBlank c = true) : Passes [c] rest none
  | comment {body rest : List Char} (inLine : ∀ c ∈ body, c ≠ '\n')
      (ends : rest = [] ∨ rest.head? = some '\n') : Passes ('#' :: body) rest none
  | lexeme {kind : LexemeClass} {text rest : List Char} {token : Token}
      (lexeme : IsLexeme kind text rest) (denotes : kind.Denotes text token) :
      Passes text rest (some token)

/-- Why no token can be read at the start of a text: a character that starts no token, an at
sign that the word for tracks does not follow, or a number that is infinite as a double. -/
inductive Stops : List Char → LexicalFault → Prop
  | unexpectedCharacter {c : Char} (tail : List Char) (blank : isBlank c = false)
      (comment : c ≠ '#') (starts : ∀ kind : LexemeClass, kind.startsWith c = false) :
      Stops (c :: tail) (.unexpectedCharacter c)
  | strayAtSign {tail : List Char} (word : ¬ trackWord <+: '@' :: tail) :
      Stops ('@' :: tail) .strayAtSign
  | numberOutOfRange {numeral rest : List Char} {d : Decimal}
      (lexeme : IsLexeme .number numeral rest) (read : Decimal.ofChars? numeral = some d)
      (rounded : d.nearest false = .infinite false) :
      Stops (numeral ++ rest) (.numberOutOfRange (String.ofList numeral))

theorem Passes.ne_nil {used rest : List Char} {found : Option Token}
    (h : Passes used rest found) : used ≠ [] := by
  cases h with
  | blank => simp
  | comment => simp
  | lexeme hlexeme _ => exact LexemeClass.ne_nil_of_spells hlexeme.spells

/-! ## Faults -/

/-- The double nearest to a decimal is finite or infinite, never NaN. -/
theorem Decimal.nearest_of_not_isFinite {negative : Bool} {d : Decimal}
    (h : (d.nearest negative).isFinite = false) : d.nearest negative = .infinite negative := by
  have hunits : ∀ num den, (Binary64.ofUnits negative num den).isFinite = false →
      Binary64.ofUnits negative num den = .infinite negative := by
    intro num den hfinite
    by_cases hcode : Binary64.nearestCode num den < finiteMagnitudes
    · simp [Binary64.ofUnits, hcode, Binary64.isFinite] at hfinite
    · simp [Binary64.ofUnits, hcode]
  unfold nearest at h ⊢
  split
  · next hzero => simp [hzero, Binary64.zero, Binary64.isFinite] at h
  next hzero =>
  rw [if_neg hzero] at h
  split
  · rfl
  next hlarge =>
  rw [if_neg hlarge] at h
  split
  · next hsmall => simp [hsmall, Binary64.zero, Binary64.isFinite] at h
  next hsmall =>
  rw [if_neg hsmall] at h
  cases hexponent : d.exponent with
  | ofNat e =>
    rw [hexponent] at h
    exact hunits _ _ h
  | negSucc e =>
    rw [hexponent] at h
    exact hunits _ _ h

/-- The numeral at the start of a text is a lexeme there. -/
theorem isLexeme_numeralText {c : Char} (hc : c.isDigit = true) (tail : List Char) :
    ∃ rest, c :: tail = numeralText (c :: tail) ++ rest ∧
      IsLexeme .number (numeralText (c :: tail)) rest := by
  obtain ⟨rest, htext⟩ := numeralText_prefix (c :: tail)
  exact ⟨rest, htext.symm, (isLongest_numeral hc htext.symm).isLexeme htext.symm hc
    (isIdentifierStart_of_isDigit hc)⟩

theorem takeBytes_numeralLength {c : Char} {tail : List Char} (hc : c.isDigit = true) :
    takeBytes (numeralLength (c :: tail)) (c :: tail) = numeralText (c :: tail) := by
  obtain ⟨rest, htext, hlexeme⟩ := isLexeme_numeralText hc tail
  have htake := takeBytes_lexeme hlexeme.spells rest
  rwa [← htext, length_numeralText] at htake

/-- A numeral that is a lexeme is the one that is read, and its value is the one that is
computed. -/
theorem IsLexeme.exists_numeral {numeral rest : List Char} {d : Decimal}
    (h : IsLexeme .number numeral rest) (hread : Decimal.ofChars? numeral = some d) :
    ∃ c tail, numeral ++ rest = c :: tail ∧ c.isDigit = true ∧
      numeralText (c :: tail) = numeral ∧ numeralValue (c :: tail) = d.nearest false := by
  cases numeral with
  | nil => exact absurd rfl (LexemeClass.ne_nil_of_spells h.spells)
  | cons c more =>
    have hdigit : c.isDigit = true := LexemeClass.startsWith_of_spells h.spells
    obtain ⟨rest', htext, hlexeme⟩ := isLexeme_numeralText hdigit (more ++ rest)
    obtain ⟨-, hnumeral, -⟩ := h.unique hlexeme htext.symm
    obtain ⟨d', hread', hrounded⟩ := ofChars?_numeralText hdigit (more ++ rest)
    rw [hnumeral, hread, Option.some.injEq] at hread'
    exact ⟨c, more ++ rest, rfl, hdigit, hnumeral, by rw [← hrounded, hread']⟩

/-- A fault that is found is one of the text. -/
theorem stops_of_readLexeme {c : Char} {tail : List Char} {fault : LexicalFault}
    (hblank : isBlank c = false) (hcomment : c ≠ '#') (h : readLexeme c tail = .error fault) :
    Stops (c :: tail) fault := by
  simp only [readLexeme] at h
  split at h
  · simp at h
  next hnewline =>
  split at h
  · simp at h
  next hequal =>
  split at h
  · simp at h
  next hbar =>
  split at h
  · next hat =>
    split at h
    · simp at h
    · next hword =>
      obtain rfl : .strayAtSign = fault := by simpa using h
      subst hat
      exact .strayAtSign (by rwa [List.isPrefixOf_iff_prefix] at hword)
  next hat =>
  split at h
  · next hdigit =>
    split at h
    · simp at h
    · next hfinite =>
      obtain ⟨rest, htext, hlexeme⟩ := isLexeme_numeralText hdigit tail
      obtain ⟨d, hread, hrounded⟩ := ofChars?_numeralText hdigit tail
      rw [takeBytes_numeralLength hdigit] at h
      obtain rfl : _ = fault := by simpa using h
      have hinfinite : d.nearest false = .infinite false :=
        Decimal.nearest_of_not_isFinite (by rw [hrounded]; simpa using hfinite)
      have hstops := Stops.numberOutOfRange hlexeme hread hinfinite
      rwa [← htext] at hstops
  next hdigit =>
  split at h
  · simp at h
  · next hword =>
    obtain rfl : .unexpectedCharacter c = fault := by simpa using h
    refine .unexpectedCharacter tail hblank hcomment fun kind => ?_
    cases kind <;> simp_all [LexemeClass.startsWith]

/-- The faults that are found at a text are its own. -/
theorem stops_iff {text : List Char} {fault : LexicalFault} :
    Stops text fault ↔ ∃ c tail, text = c :: tail ∧ isBlank c = false ∧ c ≠ '#' ∧
      readLexeme c tail = .error fault := by
  constructor
  · intro h
    cases h with
    | @unexpectedCharacter c tail hblank hcomment hstarts =>
      have hnumber := hstarts .number
      have hword := hstarts .note
      have hat := hstarts .track
      have hequal := hstarts .equal
      have hbar := hstarts .bar
      have hnewline := hstarts .newline
      simp only [LexemeClass.startsWith, beq_eq_false_iff_ne] at *
      exact ⟨c, tail, rfl, hblank, hcomment, by simp [readLexeme, *]⟩
    | @strayAtSign tail hword =>
      rw [← List.isPrefixOf_iff_prefix] at hword
      exact ⟨'@', tail, rfl, by decide, by decide, by simp [readLexeme, hword]⟩
    | numberOutOfRange hlexeme hread hrounded =>
      obtain ⟨c, tail, htext, hdigit, hnumeral, hvalue⟩ := hlexeme.exists_numeral hread
      have hnumber : LexemeClass.number.startsWith c = true := hdigit
      obtain ⟨hblank, hcomment⟩ := LexemeClass.not_isBlank_of_startsWith hnumber
      have hsigns : c ≠ '\n' ∧ c ≠ '=' ∧ c ≠ '|' ∧ c ≠ '@' := by
        refine ⟨?_, ?_, ?_, ?_⟩
        all_goals
          rintro rfl
          exact absurd hdigit (by decide)
      have hinfinite : (numeralValue (c :: tail)).isFinite = false := by
        rw [hvalue, hrounded]
        rfl
      exact ⟨c, tail, htext, hblank, hcomment, by
        simp [readLexeme, hsigns, hdigit, hinfinite, takeBytes_numeralLength, hnumeral]⟩
  · rintro ⟨c, tail, rfl, hblank, hcomment, hread⟩
    exact stops_of_readLexeme hblank hcomment hread

/-! ## Steps -/

/-- Every text is used up, or starts with something to pass, or stops the cursor. -/
theorem passes_or_stops (text : List Char) :
    text = [] ∨ (∃ used rest found, text = used ++ rest ∧ Passes used rest found) ∨
      ∃ fault, Stops text fault := by
  cases text with
  | nil => exact .inl rfl
  | cons c tail =>
    right
    cases hblank : isBlank c with
    | true => exact .inl ⟨[c], tail, none, rfl, .blank tail hblank⟩
    | false =>
      by_cases hcomment : c = '#'
      · obtain ⟨body, rest, rfl, hline, hends⟩ := exists_comment tail
        subst hcomment
        exact .inl ⟨'#' :: body, rest, none, rfl, .comment hline hends⟩
      · cases hread : readLexeme c tail with
        | error fault => exact .inr ⟨fault, stops_of_readLexeme hblank hcomment hread⟩
        | ok found =>
          obtain ⟨kind, lexeme, rest, htext, hlexeme, hdenotes, -⟩ :=
            readLexeme_eq_ok_iff.mp hread
          exact .inl ⟨lexeme, rest, some found.1, htext, .lexeme hlexeme hdenotes⟩

/-- What holds at the end of a text and at a fault, and goes over to what is passed in front of
a text, holds of every text: what is passed is not empty, so that the rest is shorter. -/
theorem passes_induction {motive : List Char → Prop} (done : motive [])
    (passes : ∀ {used rest : List Char} {found : Option Token}, Passes used rest found →
      motive rest → motive (used ++ rest))
    (stops : ∀ {text : List Char} {fault : LexicalFault}, Stops text fault → motive text)
    (text : List Char) : motive text := by
  induction hlength : text.length using Nat.strong_induction_on generalizing text with
  | _ length ih =>
  subst hlength
  rcases passes_or_stops text with rfl | ⟨used, rest, found, rfl, hpasses⟩ | ⟨fault, hstops⟩
  · exact done
  · have hshorter : rest.length < (used ++ rest).length := by
      have := List.length_pos_iff.mpr hpasses.ne_nil
      rw [List.length_append]
      omega
    exact passes hpasses (ih rest.length hshorter rest rfl)
  · exact stops hstops

namespace Cursor

/-- A blank or a comment is skipped. -/
theorem step_of_passes {used rest : List Char} (h : Passes used rest none) (offset : Nat)
    (position : Position) :
    (Cursor.mk offset position (used ++ rest)).step =
      .skip ⟨offset + utf8Length used, used.foldl Position.after position, rest⟩ := by
  cases h with
  | blank rest hblank => exact step_blank hblank offset position rest
  | comment hline hends => exact step_comment hline hends offset position

/-- A lexeme makes a token, whose position is the one of the cursor. -/
theorem step_of_passes_token {used rest : List Char} {token : Token}
    (h : Passes used rest (some token)) (offset : Nat) (position : Position) :
    (Cursor.mk offset position (used ++ rest)).step =
      .token ⟨token, position⟩
        ⟨offset + utf8Length used, used.foldl Position.after position, rest⟩ := by
  cases h with
  | lexeme hlexeme hdenotes => exact step_lexeme hlexeme hdenotes offset position

theorem step_of_stops {text : List Char} {fault : LexicalFault} (h : Stops text fault)
    (offset : Nat) (position : Position) :
    (Cursor.mk offset position text).step = .fault fault := by
  obtain ⟨c, tail, rfl, hblank, hcomment, hread⟩ := stops_iff.mp h
  exact step_fault hblank hcomment hread offset position

/-! ## Runs -/

variable (offset : Nat) (position : Position)

theorem tokens_nil :
  (Cursor.mk offset position []).tokens = (.ok [], ⟨offset, position, []⟩) :=
  tokens_of_done (step_nil offset position)

/-- Reading goes on behind a blank or a comment. -/
theorem tokens_of_passes {used rest : List Char} (h : Passes used rest none) :
    (Cursor.mk offset position (used ++ rest)).tokens =
      (Cursor.mk (offset + utf8Length used) (used.foldl Position.after position)
        rest).tokens :=
  tokens_of_skip (step_of_passes h offset position)

/-- Reading goes on behind a lexeme, after its token. -/
theorem tokens_of_passes_token {used rest : List Char} {token : Token}
    (h : Passes used rest (some token)) :
    (Cursor.mk offset position (used ++ rest)).tokens =
      let behind := (Cursor.mk (offset + utf8Length used) (used.foldl Position.after position)
        rest).tokens
      (behind.1.map (⟨token, position⟩ :: ·), behind.2) :=
  tokens_of_token (step_of_passes_token h offset position)

/-- At a fault the cursor stays where it is. -/
theorem tokens_of_stops {text : List Char} {fault : LexicalFault} (h : Stops text fault) :
    (Cursor.mk offset position text).tokens =
      (.error (.lexical position fault), Cursor.mk offset position text) :=
  tokens_of_fault (step_of_stops h offset position)

end Cursor

end BuzzerScript

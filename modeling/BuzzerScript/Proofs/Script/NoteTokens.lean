import BuzzerScript.Proofs.Compile
import BuzzerScript.Proofs.Script.Faults
import BuzzerScript.Proofs.Token.Cutting

/-!
# Notes are note symbols

A word is cut out of a text as a note or as an identifier, and later the text of a note is read
once more, on its own.  Both readings agree: the text of a note is a note symbol, and that of
an identifier is none, however the text around it goes on.  So the fault of a malformed note is
left to tokens that come from no text.
-/

namespace BuzzerScript

/-! ## Tokens of a text -/

/-- A token with a text has one of its class: a note a note symbol, and an identifier an
identifier that is no note symbol. -/
def Token.IsSpelled : Token → Prop
  | .note text => (NoteSymbol.ofChars? text.toList).isSome = true
  | .identifier text => IsIdentifier text.toList ∧ NoteSymbol.ofChars? text.toList = none
  | _ => True

theorem LexemeClass.Denotes.isSpelled {kind : LexemeClass} {text rest : List Char}
    {token : Token} (h : kind.Denotes text token) (hlexeme : IsLexeme kind text rest) :
    token.IsSpelled := by
  cases h with
  | note =>
    obtain ⟨symbol, hsymbol⟩ := hlexeme.spells
    rw [Token.IsSpelled, String.toList_ofList,
      (NoteSymbol.ofChars?_eq_some_iff text symbol).mpr hsymbol]
    rfl
  | identifier =>
    rw [Token.IsSpelled, String.toList_ofList, NoteSymbol.ofChars?_eq_none_iff]
    refine ⟨hlexeme.spells, ?_⟩
    intro symbol hsymbol
    -- of a note symbol and an identifier of the same length the note symbol is taken
    exact hlexeme.note_first rfl ⟨symbol, hsymbol⟩
  | _ => trivial

/-- All the tokens that a text is cut into are spelled as their classes ask. -/
theorem Cuts.isSpelled {text : List Char} {tokens : List Token} (h : Cuts text tokens) :
    ∀ token ∈ tokens, token.IsSpelled := by
  induction h with
  | done => simp
  | blank _ _ ih => exact ih
  | comment _ _ _ ih => exact ih
  | lexeme hlexeme hdenotes _ ih =>
    intro token htoken
    rcases List.mem_cons.mp htoken with rfl | htoken
    · exact hdenotes.isSpelled hlexeme
    · exact ih token htoken

theorem isSpelled_of_tokenize {source : String} {tokens : List LocatedToken}
    (h : tokenize source = .ok tokens) : ∀ t ∈ tokens, t.token.IsSpelled := by
  intro t ht
  exact (Cursor.cuts_of_tokens h).isSpelled t.token (List.mem_map_of_mem ht)

/-- A text fails to be read for lexical faults only. -/
theorem Cursor.exists_lexical {cursor : Cursor} {e : CompileError}
    (h : cursor.tokens.1 = .error e) : ∃ position fault, e = .lexical position fault := by
  fun_induction Cursor.tokens cursor with
  | case1 cursor hstep => simp at h
  | case2 cursor next hstep ih => exact ih h
  | case3 cursor located next hstep result last hnext ih =>
    rw [hnext] at ih
    cases result with
    | error found => exact ih (by simpa [Except.map] using h)
    | ok tokens => simp [Except.map] at h
  | case4 cursor fault hstep => exact ⟨cursor.position, fault, by simpa [eq_comm] using h⟩

namespace Script

/-! ## Malformed notes -/

/-- The pieces between line ends hold all the tokens that are none. -/
theorem flatten_pieces (tokens : List LocatedToken) :
    (pieces tokens).flatten = tokens.filter fun t => t.token ≠ .newline := by
  induction tokens with
  | nil => rfl
  | cons t rest ih =>
    by_cases h : t.token = .newline
    · rw [pieces, if_pos h, List.flatten_cons, ih, List.filter_cons_of_neg (by simp [h]),
        List.nil_append]
    · rw [pieces, if_neg h, List.filter_cons_of_pos (by simp [h]), ← ih]
      cases pieces rest <;> rfl

theorem mem_of_mem_lines {tokens : List LocatedToken} {line : Line} {t : LocatedToken}
    (hline : line ∈ lines tokens) (ht : t ∈ line) : t ∈ tokens := by
  have hflatten : t ∈ (pieces tokens).flatten :=
    List.mem_flatten.mpr ⟨line, (List.mem_filter.mp hline).1, ht⟩
  rw [flatten_pieces] at hflatten
  exact (List.mem_filter.mp hflatten).1

/-- A malformed note that is reported is among the tokens. -/
theorem exists_note_of_malformedNote {tokens : List LocatedToken} {position : Position}
    {text : String} (h : ofTokens tokens = .error (.grammar position (.malformedNote text))) :
    (∃ t ∈ tokens, t.token = .note text) ∧ NoteSymbol.ofChars? text.toList = none := by
  obtain ⟨n, hn⟩ := exists_faultAt_of_ofTokens h
  generalize hnext : (lines tokens)[n]? = next at hn
  cases hn with
  | malformedNote _ hsplit hnote hmalformed _ =>
    refine ⟨⟨_, mem_of_mem_lines (List.mem_of_getElem? hnext) ?_, hnote⟩, hmalformed⟩
    rw [hsplit]
    simp

/-- The tokens of a text have no malformed note. -/
theorem ofString_ne_malformedNote (source : String) (position : Position) (text : String) :
    ofString source ≠ .error (.grammar position (.malformedNote text)) := by
  intro h
  cases htokens : tokenize source with
  | error e =>
    obtain ⟨position, fault, rfl⟩ := Cursor.exists_lexical htokens
    rw [ofString, htokens] at h
    exact absurd h (by simp [Except.bind])
  | ok tokens =>
    rw [ofString, htokens] at h
    obtain ⟨⟨t, ht, hnote⟩, hmalformed⟩ := exists_note_of_malformedNote h
    have hspelled := isSpelled_of_tokenize htokens t ht
    rw [hnote, Token.IsSpelled, hmalformed] at hspelled
    exact absurd hspelled (by simp)

/-- A text is refused for its tokens or for the script that they make. -/
theorem ofString_ne_options (source : String) (fault : OptionsFault) :
    ofString source ≠ .error (.options fault) := by
  intro h
  rw [ofString] at h
  cases htokens : tokenize source with
  | error e =>
    obtain ⟨position, found, rfl⟩ := Cursor.exists_lexical htokens
    simp [htokens, Except.bind] at h
  | ok tokens =>
    rw [htokens] at h
    obtain ⟨position, found, hfound⟩ := exists_grammar_of_ofTokens h
    cases hfound

end Script

theorem compileWith_ne_malformedNote (options : PlayerOptions) (source : String)
    (position : Position) (text : String) :
    compileWith options source ≠ .error (.grammar position (.malformedNote text)) := by
  intro h
  rcases compileWith_eq_error h with ⟨fault, hfault⟩ | hscript
  · simp at hfault
  · exact Script.ofString_ne_malformedNote source position text hscript

/-- **Notes agree**: the text of a note is a note symbol, and the text of an identifier is an
identifier that is none.  So no text is refused because of a malformed note. -/
theorem notes_agree (source : String) :
    (∀ tokens, tokenize source = .ok tokens → ∀ t ∈ tokens, ∀ text,
      (t.token = .note text → ∃ symbol, NoteSymbol.ofChars? text.toList = some symbol) ∧
      (t.token = .identifier text →
        NoteSymbol.ofChars? text.toList = none ∧ IsIdentifier text.toList)) ∧
    ∀ position text,
      Script.ofString source ≠ .error (.grammar position (.malformedNote text)) ∧
      compile source ≠ .error (.grammar position (.malformedNote text)) := by
  refine ⟨?_, ?_⟩
  · intro tokens htokens t ht text
    have hspelled := isSpelled_of_tokenize htokens t ht
    refine ⟨?_, ?_⟩
    · intro hnote
      rw [hnote] at hspelled
      exact Option.isSome_iff_exists.mp hspelled
    · intro hidentifier
      rw [hidentifier] at hspelled
      exact ⟨hspelled.2, hspelled.1⟩
  · intro position text
    exact ⟨Script.ofString_ne_malformedNote source position text,
      compileWith_ne_malformedNote {} source position text⟩

end BuzzerScript

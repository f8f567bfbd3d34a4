import BuzzerScript.Proofs.Token.Reading

/-!
# Positions of tokens and errors

A token stands where its first character does, and an error where the character does that
cannot be read.  The text before such a place is read by itself, for no lexeme depends on what
follows it except that it may not be longer.

## Main definitions

* `Position.Before`: the order of positions in a text.

## Main statements

* `Reads.truncate`: what is read does not need all that follows it.
* `Reads.exists_lexeme`: the tokens that are read one by one.
* `tokenize_positions`: the positions of tokens and of errors.
-/

namespace BuzzerScript

/-! ## The order of positions -/

/-- Whether a position is on an earlier line than another, or further left on the same line. -/
def Position.Before (p q : Position) : Prop :=
  p.line < q.line ∨ p.line = q.line ∧ p.column < q.column

theorem Position.Before.trans {p q r : Position} (hpq : p.Before q) (hqr : q.Before r) :
    p.Before r := by
  unfold Before at *
  omega

theorem Position.Before.irrefl {p : Position} (h : p.Before p) : False := by
  unfold Before at h
  omega

theorem Position.before_after (p : Position) (c : Char) : p.Before (p.after c) := by
  unfold Before after
  split
  · exact .inl (Nat.lt_succ_self p.line)
  · exact .inr ⟨rfl, Nat.lt_succ_self p.column⟩

/-- The position behind a text is behind the one in front of it, unless the text is empty. -/
theorem Position.before_foldl {text : List Char} (h : text ≠ []) (p : Position) :
    p.Before (text.foldl Position.after p) := by
  induction text generalizing p with
  | nil => exact absurd rfl h
  | cons c tail ih =>
    cases tail with
    | nil => exact p.before_after c
    | cons d tail => exact (p.before_after c).trans (ih (by simp) (p.after c))

/-! ## Less of what follows -/

/-- A lexeme is as long as it can be in front of less as well. -/
theorem IsLexeme.truncate {kind : LexemeClass} {text rest rest' : List Char}
    (h : IsLexeme kind text rest) (hrest : rest' <+: rest) : IsLexeme kind text rest' where
  spells := h.spells
  longest := by
    intro other candidate hspells hstarts
    have hlonger : text ++ rest' <+: text ++ rest :=
      (List.prefix_append_right_inj text).mpr hrest
    exact h.longest other candidate hspells (hstarts.trans hlonger)
  note_first := h.note_first

theorem Passes.truncate {used rest rest' : List Char} {found : Option Token}
    (h : Passes used rest found) (hrest : rest' <+: rest) : Passes used rest' found := by
  cases h with
  | blank rest hblank => exact .blank rest' hblank
  | comment hline hends =>
    refine .comment hline ?_
    cases rest' with
    | nil => exact .inl rfl
    | cons c tail =>
      obtain ⟨more, rfl⟩ := hrest
      exact hends.imp (by simp) id
  | lexeme hlexeme hdenotes => exact .lexeme (hlexeme.truncate hrest) hdenotes

variable {used rest : List Char} {position : Position} {tokens : List LocatedToken}

/-- What is read does not need all that follows it. -/
theorem Reads.truncate (h : Reads used rest position tokens) {rest' : List Char}
    (hrest : rest' <+: rest) : Reads used rest' position tokens := by
  induction h with
  | done rest position => exact .done rest' position
  | @skip used more rest position tokens hpasses _ ih =>
    exact .skip (hpasses.truncate ((List.prefix_append_right_inj more).mpr hrest)) (ih hrest)
  | @token used more rest position token tokens hpasses _ ih =>
    exact .token (hpasses.truncate ((List.prefix_append_right_inj more).mpr hrest)) (ih hrest)

/-- What is read is tokenized as a text of its own. -/
theorem Reads.tokenize_eq (h : Reads used rest ⟨1, 1⟩ tokens) :
    tokenize (String.ofList used) = .ok tokens := by
  have htokens := (h.truncate (List.nil_prefix (l := rest))).tokens_eq 0
  rw [List.append_nil, Cursor.tokens_nil] at htokens
  rw [tokenize, String.toList_ofList, Cursor.start, htokens]
  simp [Except.map]

/-! ## The tokens one by one -/

/-- The tokens that are read one by one: each is the one of a lexeme and stands where it
starts, and the tokens before it are those of the text before the lexeme. -/
theorem Reads.exists_lexeme (h : Reads used rest position tokens) {k : Nat} {t : LocatedToken}
    (ht : tokens[k]? = some t) :
    ∃ before lexeme after, used = before ++ lexeme ++ after ∧
      Reads before (lexeme ++ (after ++ rest)) position (tokens.take k) ∧
      Passes lexeme (after ++ rest) (some t.token) ∧
      t.position = before.foldl Position.after position := by
  induction h generalizing k with
  | done rest position => simp at ht
  | @skip used more rest position tokens hpasses _ ih =>
    obtain ⟨before, lexeme, after, rfl, hbefore, hlexeme, hposition⟩ := ih ht
    refine ⟨used ++ before, lexeme, after, by simp, .skip ?_ hbefore, hlexeme, ?_⟩
    · simpa using hpasses
    · rw [hposition, List.foldl_append]
  | @token used more rest position token tokens hpasses _ ih =>
    cases k with
    | zero =>
      obtain rfl : ⟨token, position⟩ = t := by simpa using ht
      exact ⟨[], used, more, rfl, .done _ position, hpasses, rfl⟩
    | succ k =>
      obtain ⟨before, lexeme, after, rfl, hbefore, hlexeme, hposition⟩ :=
        ih (by simpa using ht)
      refine ⟨used ++ before, lexeme, after, by simp, .token ?_ hbefore, hlexeme, ?_⟩
      · simpa using hpasses
      · rw [hposition, List.foldl_append]

/-- No token stands before the position that reading starts from. -/
theorem Reads.eq_or_before (h : Reads used rest position tokens) :
    ∀ t ∈ tokens, position = t.position ∨ position.Before t.position := by
  intro t ht
  obtain ⟨k, hk⟩ := List.mem_iff_getElem?.mp ht
  obtain ⟨before, lexeme, after, -, -, -, hposition⟩ := h.exists_lexeme hk
  rw [hposition]
  cases before with
  | nil => exact .inl rfl
  | cons c before => exact .inr (Position.before_foldl (by simp) position)

/-- The tokens that are read stand one behind the other. -/
theorem Reads.pairwise_before (h : Reads used rest position tokens) :
    tokens.Pairwise fun a b => a.position.Before b.position := by
  induction h with
  | done rest position => exact .nil
  | skip _ _ ih => exact ih
  | @token used more rest position token tokens hpasses hnext ih =>
    refine List.pairwise_cons.mpr ⟨?_, ih⟩
    intro t ht
    have hbehind : position.Before (used.foldl Position.after position) :=
      Position.before_foldl hpasses.ne_nil position
    rcases hnext.eq_or_before t ht with heq | hbefore
    · rwa [heq] at hbehind
    · exact hbehind.trans hbefore

/-- A text is read to its end, or up to its error. -/
theorem exists_reads_tokenize (source : String) :
    ∃ used rest tokens, source.toList = used ++ rest ∧ Reads used rest ⟨1, 1⟩ tokens ∧
      (rest = [] ∧ tokenize source = .ok tokens ∨
        ∃ fault, Stops rest fault ∧
          tokenize source = .error (.lexical (Position.atEnd used) fault)) := by
  obtain ⟨used, rest, tokens, htext, hreads, hend⟩ :=
    Cursor.exists_reads 0 ⟨1, 1⟩ source.toList
  refine ⟨used, rest, tokens, htext, hreads, ?_⟩
  rw [tokenize, Cursor.start]
  rcases hend with ⟨hrest, htokens⟩ | ⟨fault, hstops, htokens⟩
  · exact .inl ⟨hrest, by rw [htokens]⟩
  · exact .inr ⟨fault, hstops, by rw [htokens, Position.foldl_after]⟩

/-- **Positions.**  A token stands at the end of the text before its first character, and the
tokens before it are those of that text.  An error stands at the end of a text that is free
of errors by itself, and in front of the character where it is found: one that starts no
token, an at sign without the word for tracks, or the first digit of a number that is
infinite as a double. -/
theorem tokenize_positions (source : String) :
    (∀ tokens, tokenize source = .ok tokens →
      (∀ (k : Nat) (t : LocatedToken), tokens[k]? = some t →
        ∃ before lexeme after kind, source.toList = before ++ lexeme ++ after ∧
          IsLexeme kind lexeme after ∧ kind.Denotes lexeme t.token ∧
          tokenize (String.ofList before) = .ok (tokens.take k) ∧
          t.position = Position.atEnd before) ∧
      tokens.Pairwise fun a b => a.position.Before b.position) ∧
    ∀ e, tokenize source = .error e →
      ∃ before c after fault, source.toList = before ++ c :: after ∧
        e = .lexical (Position.atEnd before) fault ∧ Stops (c :: after) fault ∧
        ∃ tokens, tokenize (String.ofList before) = .ok tokens := by
  obtain ⟨used, rest, read, htext, hreads, ⟨rfl, hsource⟩ | ⟨fault, hstops, hsource⟩⟩ :=
    exists_reads_tokenize source
  · refine ⟨?_, by simp [hsource]⟩
    intro tokens htokens
    obtain rfl : read = tokens := Except.ok.inj (hsource.symm.trans htokens)
    refine ⟨?_, hreads.pairwise_before⟩
    intro k t ht
    obtain ⟨before, lexeme, after, rfl, hbefore, hlexeme, hposition⟩ := hreads.exists_lexeme ht
    rw [List.append_nil] at htext hlexeme
    rw [Position.foldl_after] at hposition
    cases hlexeme with
    | @lexeme kind _ _ _ hlexeme hdenotes =>
      exact ⟨before, lexeme, after, kind, htext, hlexeme, hdenotes, hbefore.tokenize_eq,
        hposition⟩
  · refine ⟨by simp [hsource], ?_⟩
    intro e he
    obtain rfl := Except.error.inj (hsource.symm.trans he)
    obtain ⟨c, after, rfl, -⟩ := stops_iff.mp hstops
    exact ⟨used, c, after, fault, htext, rfl, hstops, read, hreads.tokenize_eq⟩

end BuzzerScript

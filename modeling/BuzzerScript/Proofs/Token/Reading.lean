import BuzzerScript.Proofs.Token.Joined
import BuzzerScript.Proofs.Token.Steps

/-!
# Reading until the end or a fault

Reading takes a text apart into what is read and a rest, which is empty or starts with a fault.
The cursor is left in front of that rest.  So a cursor that is read from again finds nothing
more at the end of a text, and at a fault it finds the same fault again.
-/

namespace BuzzerScript

/-- A text that is read as tokens, in front of `rest` and from a position on. -/
inductive Reads : List Char → List Char → Position → List LocatedToken → Prop
  | done (rest : List Char) (position : Position) : Reads [] rest position []
  | skip {used more rest : List Char} {position : Position} {tokens : List LocatedToken}
      (passes : Passes used (more ++ rest) none)
      (next : Reads more rest (used.foldl Position.after position) tokens) :
      Reads (used ++ more) rest position tokens
  | token {used more rest : List Char} {position : Position} {token : Token}
      {tokens : List LocatedToken} (passes : Passes used (more ++ rest) (some token))
      (next : Reads more rest (used.foldl Position.after position) tokens) :
      Reads (used ++ more) rest position (⟨token, position⟩ :: tokens)

/-- Every text is read up to its end or to a fault. -/
theorem exists_reads_stops (text : List Char) (position : Position) :
    ∃ used rest tokens, text = used ++ rest ∧ Reads used rest position tokens ∧
      (rest = [] ∨ ∃ fault, Stops rest fault) := by
  induction text using passes_induction generalizing position with
  | done => exact ⟨[], [], [], rfl, .done [] position, .inl rfl⟩
  | @passes used behind found hpasses ih =>
    obtain ⟨more, rest, tokens, rfl, hreads, hend⟩ := ih (used.foldl Position.after position)
    rw [← List.append_assoc]
    cases found with
    | none => exact ⟨used ++ more, rest, tokens, rfl, .skip hpasses hreads, hend⟩
    | some token => exact ⟨used ++ more, rest, _, rfl, .token hpasses hreads, hend⟩
  | @stops text fault hstops =>
    exact ⟨[], text, [], rfl, .done text position, .inr ⟨fault, hstops⟩⟩

/-- Reading goes on behind what is read. -/
theorem Reads.tokens_eq {used rest : List Char} {position : Position}
    {tokens : List LocatedToken} (h : Reads used rest position tokens) (offset : Nat) :
    (Cursor.mk offset position (used ++ rest)).tokens =
      let behind := (Cursor.mk (offset + utf8Length used) (used.foldl Position.after position)
        rest).tokens
      (behind.1.map (tokens ++ ·), behind.2) := by
  induction h generalizing offset with
  | done rest position =>
    simp only [List.nil_append, List.foldl_nil, utf8Length_nil, Nat.add_zero]
    cases (Cursor.mk offset position rest).tokens with
    | mk result last => cases result <;> rfl
  | @skip used more rest position tokens hpasses _ ih =>
    rw [List.append_assoc, Cursor.tokens_of_passes offset position hpasses, ih,
      utf8Length_append, List.foldl_append, Nat.add_assoc]
  | @token used more rest position token tokens hpasses _ ih =>
    rw [List.append_assoc, Cursor.tokens_of_passes_token offset position hpasses, ih,
      utf8Length_append, List.foldl_append, Nat.add_assoc]
    cases (Cursor.mk (offset + (utf8Length used + utf8Length more)) _ rest).tokens with
    | mk result last => cases result <;> rfl

namespace Cursor

/-- Reading comes to the end of the text, or to a fault. -/
theorem exists_reads (offset : Nat) (position : Position) (text : List Char) :
    ∃ used rest tokens, text = used ++ rest ∧ Reads used rest position tokens ∧
      (rest = [] ∧ (Cursor.mk offset position text).tokens =
          (.ok tokens, ⟨offset + utf8Length used, used.foldl Position.after position, []⟩) ∨
        ∃ fault, Stops rest fault ∧ (Cursor.mk offset position text).tokens =
          (.error (.lexical (used.foldl Position.after position) fault),
            ⟨offset + utf8Length used, used.foldl Position.after position, rest⟩)) := by
  obtain ⟨used, rest, tokens, rfl, hreads, hend⟩ := exists_reads_stops text position
  refine ⟨used, rest, tokens, rfl, hreads, ?_⟩
  have htokens := hreads.tokens_eq offset
  rcases hend with rfl | ⟨fault, hstops⟩
  · rw [tokens_nil] at htokens
    refine .inl ⟨rfl, ?_⟩
    simpa [Except.map] using htokens
  · rw [tokens_of_stops _ _ hstops] at htokens
    exact .inr ⟨fault, hstops, htokens⟩

/-! ## Reading again -/

/-- The cursor after it is read from `calls` times in a row. -/
def afterCalls (cursor : Cursor) : Nat → Cursor
  | 0 => cursor
  | calls + 1 => cursor.tokens.2.afterCalls calls

/-- What is found again is nothing at the end of a text, and at a fault the same fault. -/
theorem tokens_again (cursor : Cursor) :
    cursor.tokens.2.tokens = (cursor.tokens.1.map fun _ => [], cursor.tokens.2) := by
  obtain ⟨offset, position, text⟩ := cursor
  obtain ⟨used, rest, tokens, -, -, ⟨rfl, htokens⟩ | ⟨fault, hstops, htokens⟩⟩ :=
    exists_reads offset position text
  · rw [htokens]
    exact tokens_nil _ _
  · rw [htokens]
    exact tokens_of_stops _ _ hstops

theorem session_succ (cursor : Cursor) (calls : Nat) :
    cursor.session (calls + 1) = cursor.tokens.1 :: cursor.tokens.2.session calls := rfl

/-- A cursor that reading leaves where it is gives the same result each time. -/
theorem session_of_fixed {cursor : Cursor} {result : Except CompileError (List LocatedToken)}
    (h : cursor.tokens = (result, cursor)) (calls : Nat) :
    cursor.session calls = List.replicate calls result := by
  induction calls with
  | zero => rfl
  | succ calls ih => rw [session_succ, h, List.replicate_succ, ih]

theorem afterCalls_of_fixed {cursor : Cursor}
    {result : Except CompileError (List LocatedToken)} (h : cursor.tokens = (result, cursor))
    (calls : Nat) : cursor.afterCalls calls = cursor := by
  induction calls with
  | zero => rfl
  | succ calls ih => rw [afterCalls, h, ih]

/-- **A text that is read from several times** gives its tokens, or its error, the first time.
After its tokens there are no more, and an error comes again each time: the cursor stays at the
end of the text, or in front of what cannot be read, however often it is read from. -/
theorem session_start (source : String) :
    (∀ calls, (start source.toList).session (calls + 1) =
      tokenize source :: List.replicate calls ((tokenize source).map fun _ => [])) ∧
    ∃ read rest, source.toList = read ++ rest ∧
      (∀ calls, (start source.toList).afterCalls (calls + 1) =
        ⟨utf8Length read, Position.atEnd read, rest⟩) ∧
      match tokenize source with
      | .ok _ => rest = []
      | .error e => ∃ fault, Stops rest fault ∧ e = .lexical (Position.atEnd read) fault := by
  have hagain := tokens_again (start source.toList)
  refine ⟨?_, ?_⟩
  · intro calls
    rw [session_succ, session_of_fixed hagain, tokenize]
  · obtain ⟨read, rest, tokens, htext, -, hend⟩ := exists_reads 0 ⟨1, 1⟩ source.toList
    refine ⟨read, rest, htext, ?_, ?_⟩
    · intro calls
      rw [afterCalls, afterCalls_of_fixed hagain]
      rcases hend with ⟨rfl, htokens⟩ | ⟨fault, -, htokens⟩
      all_goals rw [start, htokens, Position.foldl_after, Nat.zero_add]
    · rw [tokenize, start]
      rcases hend with ⟨rfl, htokens⟩ | ⟨fault, hstops, htokens⟩
      · rw [htokens]
      · rw [htokens]
        exact ⟨fault, hstops, by rw [Position.foldl_after]⟩

end Cursor

end BuzzerScript

import BuzzerScript.Proofs.Token.LineEnds
import Mathlib.Data.List.Induction

/-!
# Reading texts one below the other

A text with a line end in it is read as the part before the line end, the line end itself, and
the part after it on its own, whose lines are counted on from there.
-/

namespace BuzzerScript

/-! ## Positions -/

/-- The position `n` lines further down. -/
def Position.below (n : Nat) (p : Position) : Position := ⟨p.line + n, p.column⟩

/-- A token at another position. -/
def LocatedToken.relocate (f : Position → Position) (t : LocatedToken) : LocatedToken :=
  { t with position := f t.position }

@[simp] theorem LocatedToken.token_relocate (f : Position → Position) (t : LocatedToken) :
    (t.relocate f).token = t.token := rfl

/-- An error at another position; the options have none. -/
def CompileError.relocate (f : Position → Position) : CompileError → CompileError
  | .lexical position fault => .lexical (f position) fault
  | .grammar position fault => .grammar (f position) fault
  | .options fault => .options fault

/-- Tokens, or an error, at other positions. -/
def relocated (f : Position → Position) (result : Except CompileError (List LocatedToken)) :
    Except CompileError (List LocatedToken) :=
  (result.map (List.map (LocatedToken.relocate f))).mapError (CompileError.relocate f)

theorem Position.below_after (n : Nat) (p : Position) (c : Char) :
    (p.after c).below n = (p.below n).after c := by
  by_cases h : c = '\n'
  · simp only [after, below, h, if_true, Position.mk.injEq, and_true]
    omega
  · simp only [after, below, h, if_false]

/-- A move of positions that goes along with a character goes along with a text. -/
theorem Position.foldl_after_comm {f : Position → Position}
    (hf : ∀ p c, f (p.after c) = (f p).after c) (text : List Char) (p : Position) :
    text.foldl Position.after (f p) = f (text.foldl Position.after p) := by
  induction text generalizing p with
  | nil => rfl
  | cons c text ih => rw [List.foldl_cons, List.foldl_cons, ← hf, ih]

/-- The position at the end of a text is found character by character. -/
theorem Position.foldl_after (text : List Char) :
    text.foldl Position.after ⟨1, 1⟩ = Position.atEnd text := by
  induction text using List.reverseRecOn with
  | nil => rfl
  | append_singleton text c ih =>
    rw [List.foldl_append, ih]
    by_cases h : c = '\n'
    · simp [after, atEnd, h, Nat.add_assoc]
    · simp [after, atEnd, h, Nat.add_comm]

namespace Cursor

/-! ## Runs -/

/-- What follows at a line end is read after all that comes before it. -/
theorem tokens_append {after : List Char} (hafter : AtLineEnd after) (text : List Char)
    (offset : Nat) (position : Position) :
    (Cursor.mk offset position (text ++ after)).tokens.1 =
      (Cursor.mk offset position text).tokens.1.bind fun first =>
        (Cursor.mk (offset + utf8Length text) (text.foldl Position.after position)
          after).tokens.1.map (first ++ ·) := by
  induction stepwise text generalizing offset position with
  | done =>
    rw [tokens_of_done (step_nil offset position), List.nil_append]
    change (Cursor.mk offset position after).tokens.1 =
      (Cursor.mk offset position after).tokens.1.map ([] ++ ·)
    cases (Cursor.mk offset position after).tokens.1 <;> rfl
  | @skip used rest step _ ih =>
    rw [List.append_assoc, tokens_of_skip (step _ (.append hafter rest) offset position),
      tokens_of_skip (step rest (.refl rest) offset position), ih, utf8Length_append,
      List.foldl_append, Nat.add_assoc]
  | @token used rest token step _ ih =>
    rw [List.append_assoc, tokens_of_token (step _ (.append hafter rest) offset position),
      tokens_of_token (step rest (.refl rest) offset position), ih, utf8Length_append,
      List.foldl_append, Nat.add_assoc]
    cases (Cursor.mk (offset + utf8Length used) (used.foldl Position.after position)
      rest).tokens.1 with
    | error e => rfl
    | ok first =>
      simp only [Except.bind, Except.map]
      cases (Cursor.mk _ _ after).tokens.1 <;> rfl
  | @fault text _ step =>
    rw [tokens_of_fault (step _ (.append hafter text) offset position),
      tokens_of_fault (step text (.refl text) offset position)]
    rfl

/-- Reading depends on the position in nothing but the positions it reports. -/
theorem tokens_relocate {f : Position → Position} (hf : ∀ p c, f (p.after c) = (f p).after c)
    (text : List Char) (offset offset' : Nat) (position : Position) :
    (Cursor.mk offset' (f position) text).tokens.1 =
      relocated f (Cursor.mk offset position text).tokens.1 := by
  induction stepwise text generalizing offset offset' position with
  | done =>
    rw [tokens_of_done (step_nil offset position),
      tokens_of_done (step_nil offset' (f position))]
    rfl
  | @skip used rest step _ ih =>
    have hstep := step rest (.refl rest)
    rw [tokens_of_skip (hstep offset' (f position)), tokens_of_skip (hstep offset position),
      Position.foldl_after_comm hf]
    exact ih _ _ _
  | @token used rest token step _ ih =>
    have hstep := step rest (.refl rest)
    rw [tokens_of_token (hstep offset' (f position)), tokens_of_token (hstep offset position),
      Position.foldl_after_comm hf, ih (offset + utf8Length used)]
    cases (Cursor.mk (offset + utf8Length used) (used.foldl Position.after position)
      rest).tokens.1 <;> rfl
  | @fault text _ step =>
    have hstep := step text (.refl text)
    rw [tokens_of_fault (hstep offset' (f position)), tokens_of_fault (hstep offset position)]
    rfl

/-- The offset of a cursor has no part in what is read. -/
theorem tokens_offset (offset offset' : Nat) (position : Position) (text : List Char) :
    (Cursor.mk offset position text).tokens.1 =
      (Cursor.mk offset' position text).tokens.1 := by
  have hsame := tokens_relocate (f := id) (fun _ _ => rfl) text offset' offset position
  have hid : ∀ result, relocated id result = result := by
    intro result
    have hmap : List.map (LocatedToken.relocate id) = id := by
      funext tokens
      exact List.map_id tokens
    cases result with
    | error e => cases e <;> rfl
    | ok tokens => simp [relocated, Except.map, Except.mapError, hmap]
  rwa [hid] at hsame

/-- A line end is a token of its own, and what follows it starts in the first column. -/
theorem tokens_newline (text : List Char) (offset : Nat) (position : Position) :
    (Cursor.mk offset position ('\n' :: text)).tokens.1 =
      (Cursor.mk (offset + 1) ⟨position.line + 1, 1⟩ text).tokens.1.map
        (⟨.newline, position⟩ :: ·) := by
  have hadvance := advanceBytes_append ['\n'] text offset position
  have hstep : (Cursor.mk offset position ('\n' :: text)).step =
      .token ⟨.newline, position⟩ ⟨offset + 1, ⟨position.line + 1, 1⟩, text⟩ := by
    exact congrArg (Step.token ⟨.newline, position⟩) hadvance
  rw [tokens_of_token hstep]

end Cursor

/-- The tokens of a text, a line end, and the tokens of the text below it. -/
theorem tokenize_joined (first second : String) :
    tokenize (first ++ "\n" ++ second) =
      (tokenize first).bind fun tokens =>
        (relocated (Position.below (1 + first.toList.count '\n')) (tokenize second)).map
          fun more =>
          tokens ++ ⟨.newline, Position.atEnd first.toList⟩ :: more := by
  have htext : (first ++ "\n" ++ second).toList = first.toList ++ '\n' :: second.toList := by
    simp
  -- the second text is read from the first column, as many lines down as the first one has
  have hstart : (⟨1 + first.toList.count '\n' + 1, 1⟩ : Position) =
      Position.below (1 + first.toList.count '\n') ⟨1, 1⟩ := by
    simp only [Position.below, Position.mk.injEq, and_true]
    omega
  have hsecond : (Cursor.mk (0 + utf8Length first.toList + 1)
      ⟨1 + first.toList.count '\n' + 1, 1⟩ second.toList).tokens.1 =
      relocated (Position.below (1 + first.toList.count '\n')) (tokenize second) := by
    rw [hstart]
    exact Cursor.tokens_relocate (Position.below_after _) second.toList 0 _ ⟨1, 1⟩
  rw [tokenize, htext, Cursor.start, Cursor.tokens_append (.inr rfl), Position.foldl_after,
    Cursor.tokens_newline, Position.atEnd, hsecond]
  refine congrArg (Except.bind (tokenize first)) (funext fun tokens => ?_)
  cases relocated (Position.below (1 + first.toList.count '\n')) (tokenize second) <;> rfl

/-- **Texts one below the other** are read one after the other.  An error in the first one is
the error of both; else the tokens, or the error, of the second one follow, at positions below
those of the first one and of the line end. -/
theorem tokenize_append_newline (first second : String) :
    tokenize (first ++ "\n" ++ second) =
      match tokenize first, tokenize second with
      | .error e, _ => .error e
      | .ok _, .error e =>
        .error (e.relocate (Position.below (1 + first.toList.count '\n')))
      | .ok tokens, .ok more =>
        .ok (tokens ++ ⟨.newline, Position.atEnd first.toList⟩ ::
          more.map (LocatedToken.relocate
            (Position.below (1 + first.toList.count '\n')))) := by
  rw [tokenize_joined]
  cases tokenize first with
  | error e => rfl
  | ok tokens => cases tokenize second <;> rfl

end BuzzerScript

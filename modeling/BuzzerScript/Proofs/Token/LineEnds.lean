import BuzzerScript.Proofs.Token.Gaps

/-!
# Nothing reads across a line end

A lexeme or a comment that starts in a line ends in that line, whatever stands on the
lines after it.  So each step over a text is the same in front of a line end as at
the end of the text.
-/

namespace BuzzerScript

/-- Nothing, or a line end and more. -/
def AtLineEnd (text : List Char) : Prop := text = [] ∨ text.head? = some '\n'

theorem AtLineEnd.atGap {text : List Char} (h : AtLineEnd text) : AtGap text := by
  intro c hc
  rcases h with rfl | hhead
  · cases hc
  · exact .inr (Option.some.inj (hc.symm.trans hhead))

/-- The longer text is the other one, perhaps with more lines below it. -/
def MoreLines (text longer : List Char) : Prop :=
  ∃ after, AtLineEnd after ∧ longer = text ++ after

theorem MoreLines.refl (text : List Char) : MoreLines text text :=
  ⟨[], .inl rfl, (List.append_nil text).symm⟩

theorem MoreLines.append {after : List Char} (hafter : AtLineEnd after) (text : List Char) :
    MoreLines text (text ++ after) := ⟨after, hafter, rfl⟩

/-- A text with the steps of a cursor over it.  Each step but the last uses up a part of the
text, and it is the same whatever lines follow. -/
inductive Stepwise : List Char → Prop
  | done : Stepwise []
  | skip {used rest : List Char}
      (step : ∀ longer, MoreLines rest longer → ∀ offset position,
        (Cursor.mk offset position (used ++ longer)).step =
          .skip ⟨offset + utf8Length used, used.foldl Position.after position, longer⟩)
      (next : Stepwise rest) : Stepwise (used ++ rest)
  | token {used rest : List Char} {token : Token}
      (step : ∀ longer, MoreLines rest longer → ∀ offset position,
        (Cursor.mk offset position (used ++ longer)).step =
          .token ⟨token, position⟩
            ⟨offset + utf8Length used, used.foldl Position.after position, longer⟩)
      (next : Stepwise rest) : Stepwise (used ++ rest)
  | fault {text : List Char} {fault : LexicalFault}
      (step : ∀ longer, MoreLines text longer → ∀ offset position,
        (Cursor.mk offset position longer).step = .fault fault) : Stepwise text

/-- What is passed, and what stops the cursor, is the same in front of more lines. -/
theorem Passes.append_lines {used rest longer : List Char} {found : Option Token}
    (h : Passes used rest found) (hlonger : MoreLines rest longer) :
    Passes used longer found := by
  obtain ⟨after, hafter, rfl⟩ := hlonger
  exact h.append_gap hafter.atGap fun _ => hafter

theorem Stops.append_lines {text longer : List Char} {fault : LexicalFault}
    (h : Stops text fault) (hlonger : MoreLines text longer) : Stops longer fault := by
  obtain ⟨after, hafter, rfl⟩ := hlonger
  exact h.append_gap hafter.atGap

/-- Every text is gone over in such steps. -/
theorem stepwise (text : List Char) : Stepwise text := by
  induction text using passes_induction with
  | done => exact .done
  | @passes used rest found hpasses ih =>
    cases found with
    | none =>
      exact .skip (fun _ hlonger => Cursor.step_of_passes (hpasses.append_lines hlonger)) ih
    | some token =>
      exact .token (fun _ hlonger =>
        Cursor.step_of_passes_token (hpasses.append_lines hlonger)) ih
  | stops hstops =>
    exact .fault fun _ hlonger => Cursor.step_of_stops (hstops.append_lines hlonger)

end BuzzerScript

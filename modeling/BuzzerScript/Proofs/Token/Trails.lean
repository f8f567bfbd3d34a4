import BuzzerScript.Proofs.Token.Gaps
import BuzzerScript.Proofs.Token.Joined

/-!
# Blanks and comments at line ends

A line may go on after its last token with blanks and a comment.  Nothing is read from them,
and nothing on the line is read otherwise because of them, not even what cannot be read.
-/

namespace BuzzerScript

/-- Blanks, at least one, and perhaps a comment behind them. -/
inductive IsTrail : List Char → Prop
  | blanks {blanks : List Char} (ne_nil : blanks ≠ [])
      (blank : ∀ c ∈ blanks, isBlank c = true) :
      IsTrail blanks
  | comment {blanks body : List Char} (ne_nil : blanks ≠ [])
      (blank : ∀ c ∈ blanks, isBlank c = true) (inLine : ∀ c ∈ body, c ≠ '\n') :
      IsTrail (blanks ++ '#' :: body)

/-- A text, and the same with trails in front of some of its line ends and
perhaps at its end. -/
inductive Trailed : List Char → List Char → Prop
  | done : Trailed [] []
  | atEnd {trail : List Char} (trail_ok : IsTrail trail) : Trailed [] trail
  | char (c : Char) {text longer : List Char} (next : Trailed text longer) :
      Trailed (c :: text) (c :: longer)
  | atLineEnd {trail text longer : List Char} (trail_ok : IsTrail trail)
      (next : Trailed text longer) : Trailed ('\n' :: text) (trail ++ '\n' :: longer)

/-! ## Trails -/

namespace IsTrail

variable {trail : List Char}

theorem ne_newline (h : IsTrail trail) : ∀ c ∈ trail, c ≠ '\n' := by
  intro c hc
  cases h with
  | blanks _ hblank => exact ne_newline_of_isBlank (hblank c hc)
  | comment _ hblank hline =>
    rcases List.mem_append.mp hc with hc | hc
    · exact ne_newline_of_isBlank (hblank c hc)
    · rcases List.mem_cons.mp hc with rfl | hc
      · decide
      · exact hline c hc

theorem atGap (h : IsTrail trail) : AtGap trail := by
  intro c hc
  left
  cases h with
  | blanks _ hblank => exact hblank c (List.mem_of_mem_head? hc)
  | @comment blanks body hne hblank _ =>
    obtain ⟨b, rest, rfl⟩ := List.exists_cons_of_ne_nil hne
    obtain rfl : b = c := by simpa using hc
    exact hblank b (by simp)

/-- Nothing is read from a trail. -/
theorem cuts (h : IsTrail trail) : Cuts trail [] := by
  have hblanks : ∀ (blanks rest : List Char), (∀ c ∈ blanks, isBlank c = true) → Cuts rest [] →
      Cuts (blanks ++ rest) [] := by
    intro blanks rest hblank hrest
    induction blanks with
    | nil => exact hrest
    | cons c blanks ih =>
      exact .blank (hblank c (by simp)) (ih fun d hd => hblank d (by simp [hd]))
  cases h with
  | blanks _ hblank => simpa using hblanks _ [] hblank .done
  | @comment blanks body _ hblank hline =>
    have hcomment : Cuts ('#' :: body ++ []) [] := .comment hline (.inl rfl) .done
    rw [List.append_nil] at hcomment
    exact hblanks blanks _ hblank hcomment

/-- In front of a trail the same is passed, but a comment that goes up to it takes it along. -/
theorem passes_append {used rest : List Char} {found : Option Token} (h : IsTrail trail)
    (hpasses : Passes used rest found) :
    Passes used (rest ++ trail) found ∨
      rest = [] ∧ found = none ∧ Passes (used ++ trail) [] none := by
  by_cases hrest : rest = []
  · cases hpasses with
    | blank rest hblank => exact .inl (.blank _ hblank)
    | @comment body rest hline _ =>
      refine .inr ⟨hrest, rfl, .comment ?_ (.inl rfl)⟩
      intro c hc
      rcases List.mem_append.mp hc with hc | hc
      · exact hline c hc
      · exact h.ne_newline c hc
    | lexeme hlexeme hdenotes => exact .inl (.lexeme (hlexeme.append_gap h.atGap) hdenotes)
  · exact .inl (hpasses.append_gap h.atGap (absurd · hrest))

end IsTrail

namespace Cursor

/-- With a trail at the end the same is read. -/
theorem tokens_append_trail {trail : List Char} (htrail : IsTrail trail) (text : List Char)
    (offset : Nat) (position : Position) :
    (Cursor.mk offset position (text ++ trail)).tokens.1 =
      (Cursor.mk offset position text).tokens.1 := by
  induction text using passes_induction generalizing offset position with
  | done =>
    obtain ⟨tokens, htokens, hnone⟩ := exists_tokens_of_cuts htrail.cuts offset position
    rw [List.nil_append, htokens, tokens_nil, List.map_eq_nil_iff.mp hnone]
  | @passes used rest found hpasses ih =>
    rcases htrail.passes_append hpasses with hsame | ⟨rfl, rfl, hcomment⟩
    · have hrest := ih (offset + utf8Length used) (used.foldl Position.after position)
      rw [List.append_assoc]
      cases found with
      | none => rw [tokens_of_passes _ _ hsame, tokens_of_passes _ _ hpasses, hrest]
      | some token =>
        simp only [tokens_of_passes_token _ _ hsame, tokens_of_passes_token _ _ hpasses, hrest]
    · rw [tokens_of_passes _ _ hpasses, List.append_nil, ← List.append_nil (used ++ trail),
        tokens_of_passes _ _ hcomment, tokens_nil, tokens_nil]
  | stops hstops =>
    rw [tokens_of_stops _ _ hstops, tokens_of_stops _ _ (hstops.append_gap htrail.atGap)]

end Cursor

/-! ## Line ends -/

/-- A text without line ends stays on the line where it starts. -/
theorem Position.line_foldl {text : List Char} (h : ∀ c ∈ text, c ≠ '\n') (p : Position) :
    (text.foldl Position.after p).line = p.line := by
  induction text generalizing p with
  | nil => rfl
  | cons c tail ih =>
    have hc : c ≠ '\n' := h c (by simp)
    rw [List.foldl_cons, ih fun d hd => h d (by simp [hd])]
    simp [after, hc]

/-- A text with each line end written as a carriage return and a line feed. -/
def crlf (text : List Char) : List Char :=
  text.flatMap fun c => if c = '\n' then ['\r', '\n'] else [c]

/-- A carriage return in front of each line end is a trail. -/
theorem trailed_crlf (text : List Char) : Trailed text (crlf text) := by
  induction text with
  | nil => exact .done
  | cons c tail ih =>
    rw [crlf, List.flatMap_cons]
    by_cases hc : c = '\n'
    · subst hc
      have hreturn : IsTrail ['\r'] := .blanks (by simp) (by simp [isBlank])
      exact .atLineEnd hreturn ih
    · rw [if_neg hc]
      exact .char c ih

end BuzzerScript

import BuzzerScript.Script.Block
import Mathlib.Data.List.TakeWhile

/-!
# The first line of a token list

A token list falls into its first line, the line end, and what comes after it.  `skipLine`
finds the last of these, and the lines of the list are the first line and the lines of
what comes after it.
-/

namespace BuzzerScript.Script

/-- The tokens before the first line end. -/
def firstLine (tokens : List LocatedToken) : Line :=
  tokens.takeWhile fun t => decide (t.token ≠ .newline)

theorem firstLine_cons {t : LocatedToken} (h : t.token ≠ .newline) (rest : List LocatedToken) :
    firstLine (t :: rest) = t :: firstLine rest := by
  simp [firstLine, h]

theorem firstLine_newline {t : LocatedToken} (h : t.token = .newline)
    (rest : List LocatedToken) : firstLine (t :: rest) = [] := by
  simp [firstLine, h]

theorem skipLine_cons {t : LocatedToken} (h : t.token ≠ .newline) (rest : List LocatedToken) :
    skipLine (t :: rest) = skipLine rest := by
  simp [skipLine, h]

theorem skipLine_newline {t : LocatedToken} (h : t.token = .newline)
    (rest : List LocatedToken) : skipLine (t :: rest) = rest := by
  simp [skipLine, h]

/-! ## The lines of a token list -/

/-- The first piece of a token list is its first line. -/
theorem exists_pieces (tokens : List LocatedToken) :
    ∃ later, pieces tokens = firstLine tokens :: later ∧
      later.filter (· ≠ []) = lines (skipLine tokens) := by
  induction tokens with
  | nil => exact ⟨[], rfl, rfl⟩
  | cons t rest ih =>
    by_cases h : t.token = .newline
    · refine ⟨pieces rest, ?_, ?_⟩
      · simp [pieces, h, firstLine_newline h]
      · rw [skipLine_newline h, lines]
    · obtain ⟨later, hpieces, hlater⟩ := ih
      refine ⟨later, ?_, ?_⟩
      · simp [pieces, h, hpieces, firstLine_cons h]
      · rw [hlater, skipLine_cons h]

/-- A line end in front adds no line. -/
theorem lines_newline {t : LocatedToken} (h : t.token = .newline) (rest : List LocatedToken) :
    lines (t :: rest) = lines rest := by
  simp [lines, pieces, h]

/-- The first line that is not empty, and the lines after it. -/
theorem lines_cons {t : LocatedToken} (h : t.token ≠ .newline) (rest : List LocatedToken) :
    lines (t :: rest) = firstLine (t :: rest) :: lines (skipLine (t :: rest)) := by
  obtain ⟨later, hpieces, hlater⟩ := exists_pieces (t :: rest)
  rw [← hlater, lines, hpieces]
  simp [firstLine_cons h]

theorem lineHasNote_eq (tokens : List LocatedToken) :
    lineHasNote tokens = (firstLine tokens).any isNote := by
  induction tokens with
  | nil => rfl
  | cons t rest ih =>
    obtain ⟨token, position⟩ := t
    cases token <;> simp [lineHasNote, firstLine, isNote] <;> simpa [firstLine] using ih

end BuzzerScript.Script

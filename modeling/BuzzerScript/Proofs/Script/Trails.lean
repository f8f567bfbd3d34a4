import BuzzerScript.Proofs.Script.Joined
import BuzzerScript.Proofs.Token.Trails

/-!
# Line ends may be dressed up

Blanks and comments may be put in front of line ends without any effect.  They move nothing but
the positions of line ends, and no script and no error has these.
-/

namespace BuzzerScript.Script

/-- The lines that are read from a cursor on, or the error. -/
def readLines (cursor : Cursor) : Except CompileError (List Line) := cursor.tokens.1.map lines

/-- A text makes the script of its lines, or has the first fault of them. -/
theorem ofString_eq_bind (source : String) :
    ofString source = (readLines (Cursor.start source.toList)).bind fun lines =>
      match firstFault? lines with
      | some e => .error e
      | none => .ok (ofLines lines) := by
  rw [ofString, tokenize, readLines]
  cases (Cursor.start source.toList).tokens.1 with
  | error e => rfl
  | ok tokens => exact ofTokens_eq tokens

/-- The lines of a text with a line end in it are those above the line end and those below it,
which are read from the first column on. -/
theorem readLines_append_newline (text below : List Char) (offset : Nat)
    (position : Position) :
    readLines (Cursor.mk offset position (text ++ '\n' :: below)) =
      (Cursor.mk offset position text).tokens.1.bind fun tokens =>
        (readLines (Cursor.mk 0 ⟨(text.foldl Position.after position).line + 1, 1⟩ below)).map
          (lines tokens ++ ·) := by
  have hbelow := Cursor.tokens_offset (offset + utf8Length text + 1) 0
    ⟨(text.foldl Position.after position).line + 1, 1⟩ below
  rw [readLines, readLines, Cursor.tokens_append (.inr rfl), Cursor.tokens_newline, hbelow]
  cases (Cursor.mk offset position text).tokens.1 with
  | error e => rfl
  | ok tokens =>
    cases (Cursor.mk 0 _ below).tokens.1 with
    | error e => rfl
    | ok more => exact congrArg Except.ok (lines_append_newline tokens rfl more)

/-- Trails change no line.  The induction is on the text, where `above` is what has been gone
over of the line that it starts in. -/
theorem readLines_trailed {text longer : List Char} (h : Trailed text longer)
    (above : List Char) (position : Position) :
    readLines (Cursor.mk 0 position (above ++ longer)) =
      readLines (Cursor.mk 0 position (above ++ text)) := by
  induction h generalizing above position with
  | done => rfl
  | atEnd htrail =>
    rw [readLines, readLines, Cursor.tokens_append_trail htrail, List.append_nil]
  | @char c text longer _ ih =>
    have hnext := ih (above ++ [c]) position
    rwa [List.append_assoc, List.append_assoc] at hnext
  | @atLineEnd trail text longer htrail _ ih =>
    have hline : ((above ++ trail).foldl Position.after position).line =
        (above.foldl Position.after position).line := by
      rw [List.foldl_append, Position.line_foldl htrail.ne_newline]
    have hbelow := ih [] ⟨(above.foldl Position.after position).line + 1, 1⟩
    rw [List.nil_append, List.nil_append] at hbelow
    rw [← List.append_assoc, readLines_append_newline, readLines_append_newline, hline,
      Cursor.tokens_append_trail htrail, hbelow]

/-- **Line ends may be dressed up.**  With blanks and comments in front of its line ends a text
makes the same script, or has the same error at the same position; so the line ends may be
carriage returns and line feeds as well. -/
theorem ofString_trailed (source : String) :
    (∀ longer : String, Trailed source.toList longer.toList →
      ofString longer = ofString source) ∧
    ofString (String.ofList (crlf source.toList)) = ofString source := by
  have htrailed : ∀ longer : String, Trailed source.toList longer.toList →
      ofString longer = ofString source := by
    intro longer h
    have hlines := readLines_trailed h [] ⟨1, 1⟩
    rw [ofString_eq_bind, ofString_eq_bind, Cursor.start, Cursor.start]
    exact congrArg (Except.bind · _) hlines
  refine ⟨htrailed, htrailed _ ?_⟩
  rw [String.toList_ofList]
  exact trailed_crlf source.toList

/-- A note with a comment right behind it, and a text that ends in a sign that cannot be
read. -/
theorem ofString_trailed_comment :
    (Trailed "C\nC 4 @".toList "C #é\nC 4 @\t".toList ∧
      ofString "C #é\nC 4 @\t" = ofString "C\nC 4 @") ∧
    ofString "C #é\nC 4 @\t" = .error (.lexical ⟨2, 5⟩ .strayAtSign) := by
  have hcomment : IsTrail ([' '] ++ '#' :: ['é']) :=
    .comment (by simp) (by simp [isBlank]) (by simp)
  have htab : IsTrail ['\t'] := .blanks (by simp) (by simp [isBlank])
  have htrailed : Trailed "C\nC 4 @".toList "C #é\nC 4 @\t".toList :=
    .char 'C' (.atLineEnd hcomment (.char 'C' (.char ' ' (.char '4' (.char ' ' (.char '@'
      (.atEnd htab)))))))
  have hsame := (ofString_trailed "C\nC 4 @").1 "C #é\nC 4 @\t" htrailed
  have hfails : ofString "C\nC 4 @" = .error (.lexical ⟨2, 5⟩ .strayAtSign) := by
    decide +kernel
  exact ⟨⟨htrailed, hsame⟩, hsame.trans hfails⟩

end BuzzerScript.Script

import BuzzerScript.Proofs.Token.Steps

/-!
# Gaps between lexemes

No lexeme has a blank in it, and none but the line end itself a line end.  So whatever stands
behind a blank or a line end has no part in what is read before it, with one exception: a
comment goes on over blanks.
-/

namespace BuzzerScript

/-- Nothing, or a blank or a line end and more. -/
def AtGap (text : List Char) : Prop := ∀ c, text.head? = some c → isBlank c = true ∨ c = '\n'

theorem ne_newline_of_isBlank {c : Char} (h : isBlank c = true) : c ≠ '\n' := by
  rintro rfl
  exact absurd h (by decide)

/-- Blanks make a gap of what follows them. -/
theorem atGap_append {blanks : List Char} (hne : blanks ≠ [])
    (h : ∀ c ∈ blanks, isBlank c = true) (rest : List Char) : AtGap (blanks ++ rest) := by
  obtain ⟨b, more, rfl⟩ := List.exists_cons_of_ne_nil hne
  intro c hc
  obtain rfl : b = c := by simpa using hc
  exact .inl (h b List.mem_cons_self)

/-- No lexeme at the start of a text reaches over a gap behind it. -/
theorem LexemeClass.starts_of_starts_gap {kind : LexemeClass} {lexeme text after : List Char}
    (hspells : kind.Spells lexeme) (hne : text ≠ []) (hgap : AtGap after)
    (hstarts : lexeme <+: text ++ after) : lexeme <+: text := by
  rcases List.prefix_or_prefix_of_prefix hstarts (List.prefix_append text after) with
    hwithin | ⟨more, rfl⟩
  · exact hwithin
  cases more with
  | nil => simp
  | cons c more =>
    obtain ⟨tail, rfl⟩ := (List.prefix_append_right_inj text).mp hstarts
    rcases hgap c rfl with hblank | rfl
    · have hlexeme := not_isBlank_of_spells hspells c (by simp)
      rw [hblank] at hlexeme
      cases hlexeme
    · -- a line end is a lexeme of its own, but something stands in front of this one
      obtain rfl : kind = .newline := by
        by_contra hkind
        exact ne_newline_of_spells hkind hspells '\n' (by simp) rfl
      have hlength : (text ++ '\n' :: more).length = 1 := congrArg List.length hspells
      have hpos := List.length_pos_iff.mpr hne
      simp only [List.length_append, List.length_cons] at hlength
      omega

variable {after : List Char} (hgap : AtGap after)
include hgap

theorem IsLexeme.append_gap {kind : LexemeClass} {text rest : List Char}
    (h : IsLexeme kind text rest) : IsLexeme kind text (rest ++ after) where
  spells := h.spells
  longest := by
    intro other candidate hspells hstarts
    have hne : text ++ rest ≠ [] :=
      List.append_ne_nil_of_left_ne_nil (LexemeClass.ne_nil_of_spells h.spells) rest
    rw [← List.append_assoc] at hstarts
    exact h.longest other candidate hspells
      (LexemeClass.starts_of_starts_gap hspells hne hgap hstarts)
  note_first := h.note_first

/-- In front of a gap the same is passed, unless a comment reaches up to the gap and
does not end there. -/
theorem Passes.append_gap {used rest : List Char} {found : Option Token}
    (h : Passes used rest found) (hends : rest = [] → after = [] ∨ after.head? = some '\n') :
    Passes used (rest ++ after) found := by
  cases h with
  | blank rest hblank => exact .blank (rest ++ after) hblank
  | comment hline hrest =>
    refine .comment hline ?_
    cases rest with
    | nil => exact hends rfl
    | cons c rest => exact hrest.imp (by simp) id
  | lexeme hlexeme hdenotes => exact .lexeme (hlexeme.append_gap hgap) hdenotes

/-- What stops the cursor does so in front of a gap as well. -/
theorem Stops.append_gap {text : List Char} {fault : LexicalFault} (h : Stops text fault) :
    Stops (text ++ after) fault := by
  cases h with
  | unexpectedCharacter tail hblank hcomment hstarts =>
    exact .unexpectedCharacter (tail ++ after) hblank hcomment hstarts
  | @strayAtSign tail hword =>
    have hspells : LexemeClass.track.Spells trackWord := rfl
    refine .strayAtSign fun hstarts => hword ?_
    exact LexemeClass.starts_of_starts_gap hspells (by simp) hgap hstarts
  | @numberOutOfRange numeral rest d hlexeme hread hrounded =>
    rw [List.append_assoc]
    exact .numberOutOfRange (hlexeme.append_gap hgap) hread hrounded

end BuzzerScript

import BuzzerScript.Proofs.Token.Classes
import Mathlib.Data.List.TakeWhile

/-!
# The longest lexeme of a class

For each class of lexemes, the length that is computed for it is the length of the longest text
of that class at the start of what is left to read.  For notes this is
`NoteSymbol.scan?_longest`.
-/

namespace BuzzerScript

/-! ## Runs of characters -/

/-- Characters that satisfy `p` at the start of a text are part of the run that is taken off
it. -/
theorem length_le_takeWhile {p : Char → Bool} {candidate text : List Char}
    (hp : ∀ c ∈ candidate, p c = true) (h : candidate <+: text) :
    candidate.length ≤ (text.takeWhile p).length := by
  obtain ⟨rest, rfl⟩ := h
  rw [List.takeWhile_append_of_pos hp, List.length_append]
  omega

/-- A text that is the longest of its class in front of `rest`. -/
structure IsLongest (kind : LexemeClass) (text rest : List Char) : Prop where
  spells : kind.Spells text
  longest : ∀ candidate, kind.Spells candidate → candidate <+: text ++ rest →
    candidate.length ≤ text.length

theorem isLongest_bar (tail : List Char) :
    IsLongest .bar (('|' :: tail).takeWhile (· == '|'))
      (('|' :: tail).dropWhile (· == '|')) := by
  refine ⟨⟨by simp, ?_⟩, ?_⟩
  · intro c hc
    simpa using List.mem_takeWhile_imp hc
  · intro candidate hspells hstarts
    rw [List.takeWhile_append_dropWhile] at hstarts
    exact length_le_takeWhile (fun c hc => by simpa using hspells.2 c hc) hstarts

theorem isLongest_identifier {c : Char} (hc : isIdentifierStart c = true) (tail : List Char) :
    IsLongest .identifier (c :: tail.takeWhile isIdentifierPart)
      (tail.dropWhile isIdentifierPart) := by
  refine ⟨⟨hc, ?_⟩, ?_⟩
  · intro d hd
    exact List.mem_takeWhile_imp hd
  · intro candidate hspells hstarts
    rw [List.cons_append, List.takeWhile_append_dropWhile] at hstarts
    cases candidate with
    | nil => simp
    | cons d more =>
      obtain ⟨-, hmore⟩ := List.cons_prefix_cons.mp hstarts
      have := length_le_takeWhile hspells.2 hmore
      simpa using this

theorem isLongest_sign (kind : LexemeClass) {sign rest : List Char}
    (h : ∀ text, kind.Spells text ↔ text = sign) : IsLongest kind sign rest := by
  refine ⟨(h sign).mpr rfl, ?_⟩
  intro candidate hspells _
  rw [(h candidate).mp hspells]

/-! ## Numerals -/

theorem not_isDigit_point : ¬ Char.isDigit '.' = true := by decide

/-- A run of digits ends where the next character is none. -/
theorem takeWhile_isDigit_stop {digits : List Char} (h : ∀ c ∈ digits, c.isDigit = true)
    {stop : Char} (hstop : ¬ stop.isDigit = true) (tail : List Char) :
    (digits ++ stop :: tail).takeWhile Char.isDigit = digits := by
  rw [List.takeWhile_append_of_pos h, List.takeWhile_cons_of_neg hstop, List.append_nil]

theorem dropWhile_isDigit_stop {digits : List Char} (h : ∀ c ∈ digits, c.isDigit = true)
    {stop : Char} (hstop : ¬ stop.isDigit = true) (tail : List Char) :
    (digits ++ stop :: tail).dropWhile Char.isDigit = stop :: tail := by
  rw [List.dropWhile_append_of_pos h, List.dropWhile_cons_of_neg hstop]

theorem ofChars?_digits {whole : List Char} (h : IsDigits whole) :
    Decimal.ofChars? whole = some (Decimal.ofDigits whole []) := by
  have htake := List.takeWhile_eq_self_iff.mpr h.2
  have hdrop := List.dropWhile_eq_nil_iff.mpr h.2
  simp [Decimal.ofChars?, htake, hdrop, h.1, Decimal.exponentOfChars?]

theorem ofChars?_point {whole fraction : List Char} (hwhole : IsDigits whole)
    (hfraction : ∀ c ∈ fraction, c.isDigit = true) :
    Decimal.ofChars? (whole ++ '.' :: fraction) = some (Decimal.ofDigits whole fraction) := by
  have htake := List.takeWhile_eq_self_iff.mpr hfraction
  have hdrop := List.dropWhile_eq_nil_iff.mpr hfraction
  simp [Decimal.ofChars?, takeWhile_isDigit_stop hwhole.2 not_isDigit_point,
    dropWhile_isDigit_stop hwhole.2 not_isDigit_point, htake, hdrop, hwhole.1,
    Decimal.exponentOfChars?]

theorem numeral_cases (text : List Char) :
    (∃ tail, text.dropWhile Char.isDigit = '.' :: tail ∧
      numeral text = (text.takeWhile Char.isDigit, tail.takeWhile Char.isDigit)) ∨
    numeral text = (text.takeWhile Char.isDigit, []) := by
  unfold numeral
  split
  · next tail hpoint => exact .inl ⟨tail, hpoint, rfl⟩
  · exact .inr rfl

theorem numeral_fst (text : List Char) : (numeral text).1 = text.takeWhile Char.isDigit := by
  rcases numeral_cases text with ⟨tail, -, h⟩ | h
  · rw [h]
  · rw [h]

theorem isDigit_of_mem_numeral_snd {text : List Char} :
    ∀ c ∈ (numeral text).2, c.isDigit = true := by
  intro c hc
  rcases numeral_cases text with ⟨tail, -, h⟩ | h
  · rw [h] at hc
    exact List.mem_takeWhile_imp hc
  · simp [h] at hc

/-- The longest numeral at the start of a text. -/
def numeralText (text : List Char) : List Char :=
  if (numeral text).2 = [] then (numeral text).1
  else (numeral text).1 ++ '.' :: (numeral text).2

theorem length_numeralText (text : List Char) :
    (numeralText text).length = numeralLength text := by
  simp only [numeralText, numeralLength]
  split
  · rfl
  · simp only [List.length_append, List.length_cons]
    omega

theorem numeralText_prefix (text : List Char) : numeralText text <+: text := by
  unfold numeralText
  split
  · rw [numeral_fst]
    exact List.takeWhile_prefix _
  · next hsome =>
    rcases numeral_cases text with ⟨tail, hpoint, h⟩ | h
    · refine ⟨tail.dropWhile Char.isDigit, ?_⟩
      rw [h, List.append_assoc, List.cons_append, List.takeWhile_append_dropWhile, ← hpoint,
        List.takeWhile_append_dropWhile]
    · exact absurd (by rw [h]) hsome

theorem isDigits_numeral_fst {c : Char} (hc : c.isDigit = true) (tail : List Char) :
    IsDigits (numeral (c :: tail)).1 := by
  rw [numeral_fst]
  refine ⟨by simp [hc], ?_⟩
  intro d hd
  exact List.mem_takeWhile_imp hd

/-- Any numeral at the start of a text is at most as long as the one that is taken. -/
theorem length_le_numeralText {candidate text : List Char} (h : IsNumeral candidate)
    (hstarts : candidate <+: text) : candidate.length ≤ (numeralText text).length := by
  rw [length_numeralText]
  rcases h with ⟨-, hdigits⟩ | ⟨whole, fraction, hwhole, ⟨hne, hfraction⟩, rfl⟩
  · have hle := length_le_takeWhile hdigits hstarts
    rw [← numeral_fst] at hle
    simp only [numeralLength]
    split <;> omega
  · obtain ⟨rest, rfl⟩ := hstarts
    have hnumeral : numeral ((whole ++ '.' :: fraction) ++ rest) =
        (whole, (fraction ++ rest).takeWhile Char.isDigit) := by
      rw [List.append_assoc, List.cons_append]
      simp only [numeral, takeWhile_isDigit_stop hwhole.2 not_isDigit_point,
        dropWhile_isDigit_stop hwhole.2 not_isDigit_point]
    have hle := length_le_takeWhile hfraction (List.prefix_append fraction rest)
    have hpos := List.length_pos_iff.mpr hne
    have hsome : (fraction ++ rest).takeWhile Char.isDigit ≠ [] := by
      rw [← List.length_pos_iff]
      omega
    simp only [numeralLength, hnumeral, if_neg hsome, List.length_append, List.length_cons]
    omega

/-- A text that starts with a digit starts with a numeral, and what is taken is the longest
one. -/
theorem isLongest_numeral {c : Char} {tail rest : List Char} (hc : c.isDigit = true)
    (h : c :: tail = numeralText (c :: tail) ++ rest) :
    IsLongest .number (numeralText (c :: tail)) rest := by
  have hwhole := isDigits_numeral_fst hc tail
  refine ⟨?_, ?_⟩
  · simp only [LexemeClass.Spells, numeralText]
    split
    · exact .inl hwhole
    · next hsome =>
      exact .inr ⟨_, _, hwhole, ⟨hsome, isDigit_of_mem_numeral_snd⟩, rfl⟩
  · intro candidate hspells hstarts
    rw [← h] at hstarts
    exact length_le_numeralText hspells hstarts

/-- The value that is computed for a numeral is the one that its text reads as. -/
theorem ofChars?_numeralText {c : Char} (hc : c.isDigit = true) (tail : List Char) :
    ∃ d, Decimal.ofChars? (numeralText (c :: tail)) = some d ∧
      d.nearest false = numeralValue (c :: tail) := by
  have hwhole := isDigits_numeral_fst hc tail
  refine ⟨Decimal.ofDigits (numeral (c :: tail)).1 (numeral (c :: tail)).2, ?_, rfl⟩
  unfold numeralText
  split
  · next hnone => rw [hnone, ofChars?_digits hwhole]
  · exact ofChars?_point hwhole isDigit_of_mem_numeral_snd

end BuzzerScript

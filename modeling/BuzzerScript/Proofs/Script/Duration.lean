import BuzzerScript.Proofs.Script.Melody
import BuzzerScript.Proofs.Token.Blanks

/-!
# Written durations

A duration is written as a numeral.  It is read as a double and taken back from the double as a
whole number, and on this way no numeral in the range of durations changes and none outside of
it gets there.  A numeral that rounds to infinity is refused where it stands.
-/

namespace BuzzerScript

/-- The double of a run of digits, leading zeros or not, is that of its number. -/
theorem Decimal.nearest_ofDigits (digits : List Char) :
    (ofDigits digits []).nearest false = Binary64.ofNat (natOfDigits digits) := by
  have hdecimal : ofDigits digits [] = ⟨natOfDigits digits, Int.ofNat 0⟩ := by simp [ofDigits]
  rw [hdecimal, nearest]
  by_cases hzero : natOfDigits digits = 0
  · rw [if_pos hzero, hzero]
    decide +kernel
  · have hlarge : ¬ 400 < Int.ofNat 0 := by decide
    have hsmall : ¬ Int.ofNat 0 + (natOfDigits digits).log2 < -400 := by
      have hnone : Int.ofNat 0 = 0 := rfl
      omega
    have hpower : tenPow 0 = 1 := rfl
    rw [if_neg hzero, if_neg hlarge, if_neg hsmall]
    simp only [hpower, Nat.mul_one]
    rw [Binary64.ofNat]

/-! ## Tokens -/

/-- A note in front of a blank is passed as one. -/
theorem passes_note (symbol : NoteSymbol) (rest : List Char) :
    Passes symbol.chars (' ' :: rest) (some (.note (String.ofList symbol.chars))) := by
  have hspells : LexemeClass.note.Spells symbol.chars := ⟨symbol, rfl⟩
  have hblank : ∀ c, (' ' :: rest).head? = some c → isBlank c = true := by
    intro c hc
    obtain rfl := Option.some.inj hc
    rfl
  exact .lexeme (isLexeme_of_blank hspells (by simp) hblank) (.note _)

/-- Digits at the end of a text are passed as a number, unless their number rounds to infinity,
and then they stop the cursor. -/
theorem tokens_digits {digits : List Char} (h : IsDigits digits) (offset : Nat)
    (position : Position) {value : Binary64}
    (hvalue : Binary64.ofNat (Decimal.natOfDigits digits) = value) :
    (Cursor.mk offset position digits).tokens.1 =
      if value.isFinite then .ok [⟨.number value, position⟩]
      else .error (.lexical position (.numberOutOfRange (String.ofList digits))) := by
  have hlexeme : IsLexeme .number digits [] :=
    isLexeme_of_blank (.inl h) (by simp) (by simp)
  have hread := ofChars?_digits h
  rw [← Decimal.nearest_ofDigits] at hvalue
  by_cases hfinite : value.isFinite
  · have hpasses : Passes digits [] (some (.number value)) :=
      .lexeme hlexeme (.number digits _ value hread hvalue hfinite)
    have htokens := Cursor.tokens_of_passes_token offset position hpasses
    rw [List.append_nil, Cursor.tokens_nil] at htokens
    rw [htokens, if_pos hfinite]
    rfl
  · have hinfinite : (Decimal.ofDigits digits []).nearest false = .infinite false :=
      Decimal.nearest_of_not_isFinite (by rw [hvalue]; exact Bool.eq_false_iff.mpr hfinite)
    have hstops := Stops.numberOutOfRange hlexeme hread hinfinite
    rw [List.append_nil] at hstops
    rw [Cursor.tokens_of_stops offset position hstops, if_neg hfinite]

theorem tokenize_noteNumeral {numeral : String} (h : IsDigits numeral.toList)
    {value : Binary64} (hvalue : Binary64.ofNat (Decimal.natOfDigits numeral.toList) = value) :
    tokenize ("C4 " ++ numeral) =
      if value.isFinite then .ok [⟨.note "C4", ⟨1, 1⟩⟩, ⟨.number value, ⟨1, 4⟩⟩]
      else .error (.lexical ⟨1, 4⟩ (.numberOutOfRange numeral)) := by
  have htext : ("C4 " ++ numeral).toList =
      (NoteSymbol.note .c none (some 4)).chars ++ ' ' :: numeral.toList := by
    rw [String.toList_append]
    rfl
  have hblank : ∀ offset position, (Cursor.mk offset position (' ' :: numeral.toList)).tokens =
      (Cursor.mk (offset + 1) (position.after ' ') numeral.toList).tokens := fun _ _ =>
    Cursor.tokens_of_passes _ _ (.blank _ (by decide))
  have hposition :
      ((NoteSymbol.note .c none (some 4)).chars.foldl Position.after ⟨1, 1⟩).after ' ' =
        ⟨1, 4⟩ := by
    decide
  have hdigits : ∀ offset, _ := fun offset => tokens_digits h offset ⟨1, 4⟩ hvalue
  rw [tokenize, Cursor.start, htext, Cursor.tokens_of_passes_token _ _ (passes_note _ _)]
  simp only [hblank, hposition, hdigits, String.ofList_toList]
  split <;> rfl

/-! ## Scripts -/

/-- The script of a note alone with a duration. -/
def Script.single (n : Nat) : Script where
  tracks := [{ name := "main", tokens := [⟨.note ⟨.c, none, 4⟩, n⟩] }]

/-- The script of a note and a number has a single token, or none if the number is no
duration. -/
theorem Script.ofTokens_noteNumber (value : Binary64) (p q : Position) :
    ofTokens [⟨.note "C4", p⟩, ⟨.number value, q⟩] =
      .ok (((denominator? value).map single).getD {}) := by
  have hkind : lineKind (firstLine [⟨.note "C4", p⟩, ⟨.number value, q⟩]) = .noteLine := rfl
  have hsymbols : malformedNote? (firstLine [⟨.note "C4", p⟩, ⟨.number value, q⟩]) = none :=
    rfl
  have hnote : waiting? (.note "C4") = some (.note .c none (some 4)) := by decide
  have hadjacent : adjacent (firstLine [⟨.note "C4", p⟩, ⟨.number value, q⟩]) =
      [(.note "C4", .number value)] := rfl
  rw [ofTokens, Draft.read_noteLine {} hkind hsymbols, lineMelody_eq, hadjacent]
  cases hvalue : denominator? value with
  | none =>
    have hnone : neighbours? (.note "C4", .number value) = none := by
      rw [neighbours?, hnote, hvalue]
      rfl
    rw [List.filterMap_cons_none hnone]
    exact Draft.read_nil _
  | some n =>
    have hsome : neighbours? (.note "C4", .number value) = some ⟨.note ⟨.c, none, 4⟩, n⟩ := by
      rw [neighbours?, hnote, hvalue]
      rfl
    rw [List.filterMap_cons_some hsome]
    exact Draft.read_nil _

theorem Script.ofString_noteNumeral {numeral : String} (h : IsDigits numeral.toList)
    {value : Binary64} (hvalue : Binary64.ofNat (Decimal.natOfDigits numeral.toList) = value) :
    ofString ("C4 " ++ numeral) =
      if value.isFinite then .ok (((denominator? value).map single).getD {})
      else .error (.lexical ⟨1, 4⟩ (.numberOutOfRange numeral)) := by
  rw [ofString, tokenize_noteNumeral h hvalue]
  split
  · exact ofTokens_noteNumber value _ _
  · rfl

/-- **Durations are read exactly.**  A run of digits behind a note makes a token with just its
number as the denominator if that is a duration, and no track if it is zero, or so large that
it is none but not so large that it rounds to infinity.  From `2 ^ 1024 - 2 ^ 970` on it does,
and is refused where it stands. -/
theorem Script.ofString_duration {numeral : String} (h : IsDigits numeral.toList) :
    let n := Decimal.natOfDigits numeral.toList
    let script := ofString ("C4 " ++ numeral)
    (1 ≤ n ∧ n ≤ 4294967295 → script =
      .ok { tracks := [{ name := "main", tokens := [⟨.note ⟨.c, none, 4⟩, n⟩] }] }) ∧
    (n = 0 ∨ 4294967295 < n ∧ (Binary64.ofNat n).isFinite → script = .ok { tracks := [] }) ∧
    (¬ (Binary64.ofNat n).isFinite → script =
      .error (.lexical ⟨1, 4⟩ (.numberOutOfRange numeral))) ∧
    ((Binary64.ofNat n).isFinite ↔ n < 2 ^ 1024 - 2 ^ 970) := by
  intro n script
  have hscript := ofString_noteNumeral h rfl
  rw [denominator?_ofNat] at hscript
  have hlimit := Binary64.isFinite_ofNat_iff n
  refine ⟨?_, ?_, ?_, hlimit⟩
  · intro hrange
    have hfinite := hlimit.mpr (Nat.lt_of_le_of_lt hrange.2 (by decide +kernel))
    have hduration : 1 ≤ n ∧ n ≤ maxDenominator := hrange
    rw [if_pos hfinite, if_pos hduration] at hscript
    exact hscript
  · intro hother
    have hfinite : (Binary64.ofNat n).isFinite := by
      rcases hother with hzero | ⟨-, hfinite⟩
      · exact hlimit.mpr (by rw [hzero]; decide +kernel)
      · exact hfinite
    have hrange : ¬ (1 ≤ n ∧ n ≤ maxDenominator) := by
      rw [maxDenominator]
      omega
    rw [if_pos hfinite, if_neg hrange] at hscript
    exact hscript
  · intro hinfinite
    rwa [if_neg hinfinite] at hscript

/-- Leading zeros do not count, and the greatest duration is not mistaken for
the number after it. -/
theorem Script.ofString_duration_greatest :
    IsDigits "0004294967295".toList ∧
    ofString "C4 0004294967295" =
      .ok { tracks := [{ name := "main", tokens := [⟨.note ⟨.c, none, 4⟩, 4294967295⟩] }] } ∧
    IsDigits "4294967296".toList ∧ ofString "C4 4294967296" = .ok { tracks := [] } := by
  have hgreatest : IsDigits "0004294967295".toList :=
    ⟨by decide, LexemeClass.forall_mem_of_all (by decide)⟩
  have hnext : IsDigits "4294967296".toList :=
    ⟨by decide, LexemeClass.forall_mem_of_all (by decide)⟩
  have hvalue : Decimal.natOfDigits "0004294967295".toList = 4294967295 := by decide +kernel
  have hnextValue : Decimal.natOfDigits "4294967296".toList = 4294967296 := by decide +kernel
  obtain ⟨hread, -⟩ := ofString_duration hgreatest
  obtain ⟨-, hdropped, -, hlimit⟩ := ofString_duration hnext
  rw [hvalue] at hread
  rw [hnextValue] at hdropped hlimit
  exact ⟨hgreatest, hread (by decide), hnext,
    hdropped (.inr ⟨by decide, hlimit.mpr (by decide +kernel)⟩)⟩

end BuzzerScript

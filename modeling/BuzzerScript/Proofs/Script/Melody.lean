import BuzzerScript.Proofs.NoteSymbol
import BuzzerScript.Proofs.Script.Faults
import BuzzerScript.Proofs.WholeNumber
import Mathlib.Data.List.Forall2

/-!
# The melody of a line

The notes of a line sound one after the other, each with the number right after it.  Bars are
looked through: a line without its bars has the same melody.  No other token sounds, and a note
waits for its number no longer than its line lasts.
-/

namespace BuzzerScript.Script

/-! ## Neighbours -/

/-- The melody token that a note and the number right after it make: a rest, or a pitch,
which is in octave 4 unless it is written with another one.  The number is a whole one and
becomes the denominator. -/
inductive Sounds : Token × Token → MelodyToken → Prop
  | rest {n : Nat} (range : 1 ≤ n ∧ n ≤ 4294967295) :
      Sounds (.note "R", .number (.ofNat n)) ⟨.rest, n⟩
  | pitch (letter : NoteLetter) (accidental : Option Accidental) (octave : Option (Fin 10))
      {n : Nat} (range : 1 ≤ n ∧ n ≤ 4294967295) :
      Sounds
        (.note (String.ofList (NoteSymbol.note letter accidental octave).chars),
          .number (.ofNat n))
        ⟨.note ⟨letter, accidental, (octave.map Fin.val).getD 4⟩, n⟩

theorem waiting?_eq_some_iff (token : Token) (symbol : NoteSymbol) :
    waiting? token = some symbol ↔ token = .note (String.ofList symbol.chars) := by
  cases token with
  | note text =>
    rw [waiting?, NoteSymbol.ofChars?_eq_some_iff, Token.note.injEq, ← String.toList_inj,
      String.toList_ofList]
  | _ => simp [waiting?]

/-- Neighbours make a melody token exactly if they are a note and a number that sound as it. -/
theorem neighbours?_eq_some_iff (pair : Token × Token) (token : MelodyToken) :
    neighbours? pair = some token ↔ Sounds pair token := by
  constructor
  · intro h
    obtain ⟨before, after⟩ := pair
    cases after with
    | number value =>
      rw [neighbours?] at h
      cases hnote : waiting? before with
      | none => simp [hnote, soundFor?] at h
      | some symbol =>
        cases hnumber : denominator? value with
        | none => simp [hnote, hnumber, soundFor?] at h
        | some n =>
          obtain rfl : ⟨symbol.sound, n⟩ = token := by
            simpa [hnote, hnumber, soundFor?] using h
          obtain rfl := (waiting?_eq_some_iff before symbol).mp hnote
          obtain ⟨hrange, rfl⟩ := denominator?_eq_some_iff.mp hnumber
          cases symbol with
          | rest => exact .rest hrange
          | note letter accidental octave => exact .pitch letter accidental octave hrange
    | _ => simp [neighbours?] at h
  · intro h
    cases h with
    | rest hrange =>
      have hnote := (waiting?_eq_some_iff _ .rest).mpr rfl
      have hnumber := denominator?_eq_some_iff.mpr ⟨hrange, rfl⟩
      exact congrArg₂ soundFor? hnote hnumber
    | pitch letter accidental octave hrange =>
      have hnote := (waiting?_eq_some_iff _ (.note letter accidental octave)).mpr rfl
      have hnumber := denominator?_eq_some_iff.mpr ⟨hrange, rfl⟩
      exact congrArg₂ soundFor? hnote hnumber

/-- The pairs of tokens that stand side by side in a line, bars aside. -/
def adjacent (line : Line) : List (Token × Token) :=
  let tokens := (line.map LocatedToken.token).filter (· ≠ .bar)
  tokens.zip tokens.tail

/-- The melody of a line comes from its neighbours. -/
theorem lineMelody_eq (line : Line) :
    lineMelody line = (adjacent line).filterMap neighbours? := by
  rw [← melodyAfter_newline, melodyAfter, adjacent]
  cases (line.map LocatedToken.token).filter (· ≠ .bar) with
  | nil => rfl
  | cons token tokens => cases token <;> rfl

/-! ## Bars -/

/-- A line, and the same with other bars.  Both are note lines, for a bar in front of a header
or of a directive would change more than the bars. -/
inductive Rebarred : Line → Line → Prop
  | same (line : Line) : Rebarred line line
  | bars {line other : Line} (kind : lineKind line = .noteLine)
      (kind_other : lineKind other = .noteLine)
      (tokens : line.filter (fun t => t.token ≠ .bar) = other.filter fun t => t.token ≠ .bar) :
      Rebarred line other

theorem adjacent_filter (line : Line) :
    adjacent (line.filter fun t => t.token ≠ .bar) = adjacent line := by
  have htokens :
      ((line.filter fun t => t.token ≠ .bar).map LocatedToken.token).filter (· ≠ .bar) =
        (line.map LocatedToken.token).filter (· ≠ .bar) := by
    simp [List.filter_map, Function.comp_def]
  simp only [adjacent, htokens]

/-- No bar is a malformed note. -/
theorem malformedNote?_filter (line : Line) :
    malformedNote? (line.filter fun t => t.token ≠ .bar) = malformedNote? line := by
  induction line with
  | nil => rfl
  | cons t line ih =>
    by_cases hbar : t.token = .bar
    · rw [List.filter_cons_of_neg (by simp [hbar]), ih,
        malformedNote?_cons (by simp [isNote, hbar])]
    · rw [List.filter_cons_of_pos (by simp [hbar])]
      simp only [malformedNote?, List.findSome?_cons] at ih ⊢
      rw [ih]

/-- A line with other bars is read alike. -/
theorem Rebarred.readLine_eq {line other : Line} (h : Rebarred line other) (draft : Draft) :
    draft.readLine line = draft.readLine other := by
  cases h with
  | same => rfl
  | bars kind kind_other tokens =>
    have hmalformed : malformedNote? line = malformedNote? other := by
      rw [← malformedNote?_filter line, tokens, malformedNote?_filter]
    have hmelody : lineMelody line = lineMelody other := by
      rw [lineMelody_eq, lineMelody_eq, ← adjacent_filter line, tokens, adjacent_filter]
    rw [Draft.readLine, Draft.readLine, kind, kind_other, hmalformed, hmelody]

/-- Lines that are read alike one by one make the same script, or have the same error. -/
theorem ofTokens_congr {tokens other : List LocatedToken}
    (h : List.Forall₂
      (fun line line' => ∀ draft, Draft.readLine draft line = draft.readLine line')
      (lines tokens) (lines other)) : ofTokens tokens = ofTokens other := by
  have hfold : ∀ {l l' : List Line}, List.Forall₂ (fun line line' => ∀ draft,
      Draft.readLine draft line = draft.readLine line') l l' →
      ∀ draft, l.foldlM Draft.readLine draft = l'.foldlM Draft.readLine draft := by
    intro l l' hlines
    induction hlines with
    | nil => exact fun _ => rfl
    | cons hline _ ih =>
      intro draft
      rw [List.foldlM_cons, List.foldlM_cons, hline]
      exact congrArg _ (funext ih)
  rw [ofTokens, ofTokens, Draft.read_eq_foldlM, Draft.read_eq_foldlM, hfold h]

/-! ## Note lines -/

/-- A line has no malformed note if its notes are note symbols. -/
theorem malformedNote?_eq_none_iff (line : Line) :
    malformedNote? line = none ↔
      ∀ t ∈ line, ∀ text, t.token = .note text →
        ∃ symbol : NoteSymbol, text.toList = symbol.chars := by
  have hspelled : ∀ text : String, NoteSymbol.ofChars? text.toList ≠ none ↔
      ∃ symbol : NoteSymbol, text.toList = symbol.chars := by
    intro text
    rw [ne_eq, NoteSymbol.ofChars?_eq_none_iff]
    simp
  have hline : malformedNote? line = none ↔ ∀ t ∈ line, malformed? t = none :=
    List.findSome?_eq_none_iff
  simp only [hline, malformed?_eq_none_iff, hspelled]

/-- To read a note line is to add its melody to the draft and to go on behind the line. -/
theorem Draft.read_noteLine (draft : Draft) {tokens : List LocatedToken}
    (hkind : lineKind (firstLine tokens) = .noteLine)
    (hsymbols : malformedNote? (firstLine tokens) = none) :
    draft.read tokens =
      (draft.addMelody (lineMelody (firstLine tokens))).read (skipLine tokens) := by
  cases tokens with
  | nil => exact absurd hkind (by decide)
  | cons t rest =>
    by_cases ht : t.token = .newline
    · rw [firstLine_newline ht] at hkind
      exact absurd hkind (by decide)
    · rw [draft.read_cons ht, readFirst, readLine, hkind, hsymbols]
      rfl

/-- The track that a note line goes to: the current one, or the one that needs no header. -/
inductive Draft.Playing (draft : Draft) : OpenTrack → Prop
  | current {opened : OpenTrack} (h : draft.current = some opened) : draft.Playing opened
  | implicit (h : draft.current = none) : draft.Playing { track := { name := "main" } }

/-- A melody goes behind the one that the track has already. -/
theorem Draft.Playing.addMelody_eq {draft : Draft} {opened : OpenTrack}
    (h : draft.Playing opened) (melody : List MelodyToken) :
    draft.addMelody melody =
      { draft with
        current := some { opened with
          track := { opened.track with tokens := opened.track.tokens ++ melody }
          hasNoteLines := true }
        contentStarted := true } := by
  cases h with
  | current hcurrent => rw [addMelody, hcurrent, Option.getD_some]
  | implicit hcurrent =>
    rw [addMelody, hcurrent]
    rfl

/-! ## Whole scripts -/

/-- The melody of a line, if it is a note line. -/
def noteLineMelody (line : Line) : List MelodyToken :=
  if lineKind line = .noteLine then (adjacent line).filterMap neighbours? else []

theorem flatMap_tracksFrom (trackCount : Nat) (blocks : List Block) :
    (tracksFrom trackCount blocks).flatMap Track.tokens = blocks.flatMap Block.melody := by
  induction blocks generalizing trackCount with
  | nil => rfl
  | cons block rest ih =>
    rw [tracksFrom, List.flatMap_cons]
    split
    · rename_i hmelody
      rw [ih, hmelody, List.nil_append]
    · rw [List.flatMap_cons, ih]
      rfl

theorem flatMap_blocksFrom (lines : List Line) (current : Block) :
    (blocksFrom current lines).flatMap Block.melody =
      current.melody ++ lines.flatMap noteLineMelody := by
  induction lines generalizing current with
  | nil => simp [blocksFrom]
  | cons line rest ih =>
    rw [blocksFrom, List.flatMap_cons, noteLineMelody]
    cases hkind : lineKind line with
    | header => simp [ih, Block.melody]
    | noteLine => simp [ih, Block.melody, lineMelody_eq]
    | directive => simp [ih]
    | ignored => simp [ih]

/-- The melodies of the tracks, one after the other, are those of the note lines. -/
theorem flatMap_tokens_of_ofTokens {tokens : List LocatedToken} {script : Script}
    (h : ofTokens tokens = .ok script) :
    script.tracks.flatMap Track.tokens = (lines tokens).flatMap noteLineMelody := by
  obtain ⟨-, rfl⟩ := free_of_ofTokens h
  rw [ofLines, flatMap_tracksFrom, blocks, flatMap_blocksFrom]
  rfl

/-- **The melody of a note line.**  Neighbours sound if they are a note and a whole number, the
denominator.  A note line whose notes are note symbols adds to the melody of the current track,
or of the one that needs no header, and what it adds are its neighbours that sound, in order
and bars aside.  Nothing else is added: in a whole script the melodies of the tracks are those
of the note lines.  Scripts whose note lines differ in their bars alone are read alike. -/
theorem melody_of_noteLine :
    (∀ pair token, neighbours? pair = some token ↔ Sounds pair token) ∧
    (∀ (draft : Draft) (opened : OpenTrack), draft.Playing opened →
      ∀ tokens : List LocatedToken, lineKind (firstLine tokens) = .noteLine →
      (∀ t ∈ firstLine tokens, ∀ text, t.token = .note text →
        ∃ symbol : NoteSymbol, text.toList = symbol.chars) →
      draft.read tokens =
        Draft.read
          { draft with
            current := some { opened with
              track := { opened.track with
                tokens := opened.track.tokens ++
                  (adjacent (firstLine tokens)).filterMap neighbours? }
              hasNoteLines := true }
            contentStarted := true }
          (skipLine tokens)) ∧
    (∀ tokens script, ofTokens tokens = .ok script →
      script.tracks.flatMap Track.tokens = (lines tokens).flatMap fun line =>
        if lineKind line = .noteLine then (adjacent line).filterMap neighbours? else []) ∧
    (∀ tokens other, List.Forall₂ Rebarred (lines tokens) (lines other) →
      ofTokens tokens = ofTokens other) := by
  refine ⟨neighbours?_eq_some_iff, ?_, ?_, ?_⟩
  · intro draft opened hopened tokens hkind hsymbols
    have hnone := (malformedNote?_eq_none_iff (firstLine tokens)).mpr hsymbols
    rw [draft.read_noteLine hkind hnone, hopened.addMelody_eq, lineMelody_eq]
  · intro tokens script h
    exact flatMap_tokens_of_ofTokens h
  · intro tokens other h
    exact ofTokens_congr (h.imp fun _ _ hline draft => hline.readLine_eq draft)

/-- A line with a note too many, a number too many, a word between a note and a number, and a
note whose number is on the next line. -/
def strayTokens : List LocatedToken :=
  [.note "D", .note "R", .bar, .number 4, .number 8, .note "C#5", .identifier "x", .number 2,
    .note "E", .newline, .number 4, .note "Gb3", .number 1].map fun token => ⟨token, ⟨1, 1⟩⟩

/-- The melody of a track that is open when the line comes. -/
def openedMelody : List MelodyToken := [⟨.note ⟨.a, none, 4⟩, 2⟩]

/-- Of the line nothing sounds but the rest, and it goes behind the melody of the open track.
The script has the rest and the note of the next line, and with one more bar it is the same. -/
theorem melody_of_noteLine_stray :
    lineKind (firstLine strayTokens) = .noteLine ∧
    Draft.read { current := some { track := { name := "lead", tokens := openedMelody } } }
        strayTokens =
      Draft.read
        { current := some
            { track := { name := "lead", tokens := openedMelody ++ [⟨.rest, 4⟩] }
              hasNoteLines := true }
          contentStarted := true }
        (skipLine strayTokens) ∧
    (∃ script, ofTokens strayTokens = .ok script ∧
      script.tracks.flatMap Track.tokens = [⟨.rest, 4⟩, ⟨.note ⟨.g, some .flat, 3⟩, 1⟩]) ∧
    ofTokens (⟨.bar, ⟨1, 1⟩⟩ :: strayTokens) = ofTokens strayTokens := by
  obtain ⟨-, hread, hwhole, hbars⟩ := melody_of_noteLine
  have hkind : lineKind (firstLine strayTokens) = .noteLine := by decide
  have hmelody : (adjacent (firstLine strayTokens)).filterMap neighbours? = [⟨.rest, 4⟩] := by
    decide +kernel
  refine ⟨hkind, ?_, ?_, ?_⟩
  · have hsymbols := (malformedNote?_eq_none_iff (firstLine strayTokens)).mp (by decide)
    have hfirst :=
      hread { current := some { track := { name := "lead", tokens := openedMelody } } } _
        (.current rfl) strayTokens hkind hsymbols
    rwa [hmelody] at hfirst
  · have hfree : firstFault? (lines strayTokens) = none := by decide +kernel
    have hscript := ofTokens_of_free hfree
    refine ⟨_, hscript, (hwhole _ _ hscript).trans ?_⟩
    decide +kernel
  · exact hbars _ _ (.cons (.bars (by decide) (by decide) rfl) (.cons (.same _) .nil))

end BuzzerScript.Script

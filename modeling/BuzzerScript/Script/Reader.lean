import BuzzerScript.Script
import BuzzerScript.Token.Stream

/-!
# Reading scripts

Tokens are read into a script in one pass.  A script starts with directives, `key = value`;
then come tracks, each opened by a header and followed by its note lines.  Note lines before
the first header belong to a track that needs no header.

Reading is lenient within a line: what makes no sense there is skipped.  Three things are
refused: a directive after the first header or note line, a header without note lines, and a
note token whose text is no note symbol.

## Main definitions

* `Script.Draft`: a script that is still being read.
* `Script.ofTokens`: the script that tokens make, or the first error.
* `Script.ofString`: the script that a text makes.

## Main statements

* `Script.readTrackOptions_length_le`, `Script.readMelody_length_le`: reading part of a line
  leaves a part of the tokens.
-/

namespace BuzzerScript.Script

/-! ## Parts of a line -/

/-- The tokens after the next line end. -/
def skipLine : List LocatedToken → List LocatedToken
  | [] => []
  | t :: rest => if t.token = .newline then rest else skipLine rest

/-- Whether there is a note before the next line end. -/
def lineHasNote : List LocatedToken → Bool
  | [] => false
  | t :: rest =>
    match t.token with
    | .newline => false
    | .note _ => true
    | _ => lineHasNote rest

/-- The value that a token stands for on the right of an equal sign. -/
def settingValue? : Token → Option SettingValue
  | .number value => some (.number value)
  | .identifier text => some (.word text)
  | .note text => some (.word text)
  | _ => none

/-- The longest duration number, as a denominator. -/
def maxDenominator : Nat := 4294967295

/-- The denominator that a number stands for: a whole number from one on. -/
def denominator? (value : Binary64) : Option Nat :=
  match value.toNat? with
  | some n => if 1 ≤ n ∧ n ≤ maxDenominator then some n else none
  | none => none

/-- The melody tokens of a note line and the tokens after its line end.  A note waits for the
number that follows it; bars may stand between both, and anything else drops the note. -/
def readMelody (pending : Option NoteSymbol) :
    List LocatedToken → Except CompileError (List MelodyToken × List LocatedToken)
  | [] => .ok ([], [])
  | t :: rest =>
    match t.token with
    | .newline => .ok ([], rest)
    | .note text =>
      match NoteSymbol.ofChars? text.toList with
      | some symbol => readMelody (some symbol) rest
      | none => .error (.grammar t.position (.malformedNote text))
    | .number value =>
      match pending, denominator? value with
      | some symbol, some denominator =>
        (readMelody none rest).map fun (melody, after) =>
          (⟨symbol.sound, denominator⟩ :: melody, after)
      | _, _ => readMelody none rest
    | .bar => readMelody pending rest
    | _ => readMelody none rest

end Script

namespace Track

/-- Take over an option of a track header: a delay that is finite and not negative, or a
setting of the track. -/
def apply (track : Track) (key : String) (value : SettingValue) : Track :=
  match value with
  | .number beats =>
    if key = "delay" ∧ beats.isFinite ∧ Binary64.le 0 beats then
      { track with delayBeats := beats }
    else { track with settings := track.settings.apply key value }
  | .word _ => { track with settings := track.settings.apply key value }

end Track

namespace Script

/-- Take over the options of a track header up to its line end, and return the tokens
from the line end on.  What is no `key = value` is skipped, a word with an equal sign but
no value included. -/
def readTrackOptions (track : Track) : List LocatedToken → Track × List LocatedToken
  | [] => (track, [])
  | ⟨.newline, position⟩ :: rest => (track, ⟨.newline, position⟩ :: rest)
  | ⟨.identifier key, _⟩ :: ⟨.equal, _⟩ :: v :: rest =>
    match settingValue? v.token with
    | some value => readTrackOptions (track.apply (Text.lowerCase key) value) rest
    | none => readTrackOptions track (v :: rest)
  | _ :: rest => readTrackOptions track rest

/-- The name in a track header, the tokens after it, and otherwise a name made from the number
of tracks so far.  A word that an equal sign follows is not a name but the key of an option. -/
def readTrackName (trackCount : Nat) (tokens : List LocatedToken) :
    String × List LocatedToken :=
  let unnamed := ("unnamed_" ++ toString trackCount, tokens)
  match tokens with
  | [] => unnamed
  | t :: rest =>
    if rest.head?.map LocatedToken.token = some .equal then unnamed
    else
      match t.token with
      | .identifier name => (name, rest)
      | .note name => (name, rest)
      | _ => unnamed

/-- The track that a header opens, and the tokens after the header's line. -/
def readHeader (trackCount : Nat) (tokens : List LocatedToken) : Track × List LocatedToken :=
  let (name, afterName) := readTrackName trackCount tokens
  let (track, afterOptions) := readTrackOptions { name } afterName
  (track, skipLine afterOptions)

/-! ## Drafts -/

/-- A track that is still being read. -/
structure OpenTrack where
  track : Track
  /-- The position of the header; the track before the first header has none. -/
  header : Option Position := none
  hasNoteLines : Bool := false

/-- A script that is still being read. -/
structure Draft where
  script : Script := {}
  current : Option OpenTrack := none
  /-- Whether a header or a note line has been read. -/
  contentStarted : Bool := false

/-- The name of the track before the first header. -/
def implicitTrackName : String := "main"

namespace Draft

/-- Finish the current track.  A header wants a note line; a track without melody tokens is
dropped. -/
def close (draft : Draft) : Except CompileError Draft :=
  match draft.current with
  | none => .ok draft
  | some ⟨track, header, hasNoteLines⟩ =>
    match header, hasNoteLines with
    | some position, false => .error (.grammar position (.silentTrack track.name))
    | _, _ =>
      let tracks :=
        if track.tokens = [] then draft.script.tracks else draft.script.tracks ++ [track]
      .ok { draft with script := { draft.script with tracks }, current := none }

/-- Take over a directive: the tokens after its equal sign begin with the value, if any. -/
def directive (draft : Draft) (key : String) (afterEqual : List LocatedToken) : Draft :=
  match afterEqual.head?.bind fun t => settingValue? t.token with
  | some value =>
    { draft with
      script := { draft.script with
        globals := draft.script.globals.apply (Text.lowerCase key) value } }
  | none => draft

/-- Make the track of a header at `position` the current one. -/
def openTrack (draft : Draft) (position : Position) (track : Track) : Draft :=
  { draft with current := some { track, header := some position }, contentStarted := true }

/-- Add a line to the melody of the current track, which is opened if there is none. -/
def addMelody (draft : Draft) (melody : List MelodyToken) : Draft :=
  let opened := draft.current.getD { track := { name := implicitTrackName } }
  { draft with
    current := some { opened with
      track := { opened.track with tokens := opened.track.tokens ++ melody }
      hasNoteLines := true }
    contentStarted := true }

end Draft

/-! ## Every line shortens the tokens -/

theorem skipLine_length_le (tokens : List LocatedToken) :
    (skipLine tokens).length ≤ tokens.length := by
  induction tokens with
  | nil => simp [skipLine]
  | cons t rest ih => simp only [skipLine]; split <;> simp; omega

theorem skipLine_length_lt {tokens : List LocatedToken} (h : tokens ≠ []) :
    (skipLine tokens).length < tokens.length := by
  cases tokens with
  | nil => exact absurd rfl h
  | cons t rest =>
    have := skipLine_length_le rest
    simp only [skipLine]; split <;> simp; omega

theorem readTrackOptions_length_le (track : Track) (tokens : List LocatedToken) :
    (readTrackOptions track tokens).2.length ≤ tokens.length := by
  fun_induction readTrackOptions track tokens <;> simp_all <;> omega

theorem readTrackName_length_le (trackCount : Nat) (tokens : List LocatedToken) :
    (readTrackName trackCount tokens).2.length ≤ tokens.length := by
  unfold readTrackName
  split
  · simp
  · simp only
    split
    · simp
    · split <;> simp

theorem readHeader_length_le (trackCount : Nat) (tokens : List LocatedToken) :
    (readHeader trackCount tokens).2.length ≤ tokens.length := by
  have name := readTrackName_length_le trackCount tokens
  have options := readTrackOptions_length_le { name := (readTrackName trackCount tokens).1 }
    (readTrackName trackCount tokens).2
  have line := skipLine_length_le
    (readTrackOptions { name := (readTrackName trackCount tokens).1 }
      (readTrackName trackCount tokens).2).2
  simp only [readHeader]
  omega

theorem readMelody_length_le {pending : Option NoteSymbol} {tokens : List LocatedToken}
    {melody : List MelodyToken} {after : List LocatedToken}
    (h : readMelody pending tokens = .ok (melody, after)) :
    after.length ≤ tokens.length - 1 := by
  fun_induction readMelody pending tokens generalizing melody after with
  | case1 => simp_all
  | case2 => simp_all
  | case3 _ _ _ _ _ _ _ ih => have := ih h; simp; omega
  | case4 => simp at h
  | case5 t rest _ _ _ _ _ ih =>
    cases hr : readMelody none rest with
    | error e => simp [hr, Except.map] at h
    | ok r =>
      have := @ih r.1 r.2 hr
      simp only [hr, Except.map, Except.ok.injEq, Prod.mk.injEq] at h
      simp [← h.2]; omega
  | case6 _ _ _ _ _ _ ih => have := ih h; simp; omega
  | case7 _ _ _ _ ih => have := ih h; simp; omega
  | case8 _ _ _ _ _ _ _ ih => have := ih h; simp; omega

theorem readMelody_length_lt {pending : Option NoteSymbol} {tokens : List LocatedToken}
    {melody : List MelodyToken} {after : List LocatedToken}
    (h : readMelody pending tokens = .ok (melody, after)) (hne : tokens ≠ []) :
    after.length < tokens.length := by
  have := readMelody_length_le h
  have := List.length_pos_iff.mpr hne
  omega

/-! ## Whole scripts -/

/-- Read tokens line by line into a draft, and finish it at their end. -/
def Draft.read (draft : Draft) : List LocatedToken → Except CompileError Script
  | [] => draft.close.map Draft.script
  | ⟨.newline, _⟩ :: rest => draft.read rest
  | ⟨.track, position⟩ :: rest =>
    match draft.close with
    | .error e => .error e
    | .ok closed =>
      let header := readHeader closed.script.tracks.length rest
      (closed.openTrack position header.1).read header.2
  | ⟨.identifier key, position⟩ :: ⟨.equal, _⟩ :: rest =>
    if draft.contentStarted then .error (.grammar position .directiveAfterContent)
    else (draft.directive key rest).read (skipLine rest)
  | t :: rest =>
    if lineHasNote (t :: rest) then
      match _h : readMelody none (t :: rest) with
      | .error e => .error e
      | .ok (melody, after) => (draft.addMelody melody).read after
    else draft.read (skipLine (t :: rest))
termination_by tokens => tokens.length
decreasing_by
  · simp
  · have := readHeader_length_le closed.script.tracks.length rest
    simp; omega
  · have := skipLine_length_le rest
    simp; omega
  · exact readMelody_length_lt _h (by simp)
  · exact skipLine_length_lt (by simp)

/-- The script that tokens make, or the first error. -/
def ofTokens (tokens : List LocatedToken) : Except CompileError Script :=
  Draft.read {} tokens

/-- The script that a text makes, or the first error. -/
def ofString (source : String) : Except CompileError Script :=
  (tokenize source).bind ofTokens

end Script

end BuzzerScript

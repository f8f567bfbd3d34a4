import BuzzerScript.Script.Reader

/-!
# Lines of a script

The tokens of a script line by line.  What a line says does not depend on the lines around it:
its first tokens tell which kind of line it is, and its content follows from its own tokens.

These definitions say what a line means.  `Script.ofTokens` reads all lines in a single pass
and does not use them.

## Main definitions

* `Script.lines`: the lines of a list of tokens that are not empty.
* `Script.lineKind`: header, directive, note line, or none of these.
* `Script.lineMelody`: the melody tokens of a note line.
* `Script.headerName?`, `Script.headerPairs`: the name and the options of a header.
* `Settings.lastAccepted`: the settings that a list of keys and values leads to.
-/

namespace BuzzerScript

namespace Script

/-- The tokens of a line, without its line end. -/
abbrev Line := List LocatedToken

/-- What stands before, between and after the line ends. -/
def pieces : List LocatedToken → List Line
  | [] => [[]]
  | t :: rest =>
    if t.token = .newline then [] :: pieces rest
    else
      match pieces rest with
      | [] => [[t]]
      | line :: lines => (t :: line) :: lines

/-- The lines that are not empty. -/
def lines (tokens : List LocatedToken) : List Line := (pieces tokens).filter (· ≠ [])

/-- The kinds of lines. -/
inductive LineKind where
  | header | directive | noteLine | ignored
  deriving DecidableEq, Repr

/-- A token that is a note. -/
def isNote (t : LocatedToken) : Bool :=
  match t.token with
  | .note _ => true
  | _ => false

/-- The kind of a line: a header starts with the track sign and a directive with a key and an
equal sign; of the others those with a note are note lines. -/
def lineKind (line : Line) : LineKind :=
  match line.map LocatedToken.token with
  | .track :: _ => .header
  | .identifier _ :: .equal :: _ => .directive
  | _ => if line.any isNote then .noteLine else .ignored

/-! ## Directives and headers -/

/-- The key of a directive in lower case, and its value, if the token after the
equal sign can be one. -/
def directivePair? (line : Line) : Option (String × SettingValue) :=
  match line.map LocatedToken.token with
  | .identifier key :: .equal :: value :: _ =>
    (settingValue? value).map fun value => (Text.lowerCase key, value)
  | _ => none

/-- The name in a header: a word right after the track sign, unless an equal sign follows
it. -/
def headerName? (line : Line) : Option String :=
  match line.map LocatedToken.token with
  | _ :: _ :: .equal :: _ => none
  | _ :: .identifier name :: _ => some name
  | _ :: .note name :: _ => some name
  | _ => none

/-- The keys and values among tokens, from left to right and without overlap. -/
def pairs : List Token → List (String × SettingValue)
  | .identifier key :: .equal :: value :: rest =>
    match settingValue? value with
    | some found => (Text.lowerCase key, found) :: pairs rest
    | none => pairs (value :: rest)
  | _ :: rest => pairs rest
  | [] => []

/-- The keys and values of a header, after its name. -/
def headerPairs (line : Line) : List (String × SettingValue) :=
  pairs ((line.map LocatedToken.token).drop (if (headerName? line).isSome then 2 else 1))

end Script

/-- The tempo that a key and value set. -/
def Settings.acceptedTempo? : String × SettingValue → Option Binary64
  | ("tempo", .number x) => if isTempo x then some x else none
  | _ => none

/-- The waveform that a key and value set. -/
def Settings.acceptedWaveform? : String × SettingValue → Option Waveform
  | ("waveform", .word text) => Waveform.ofName? text
  | _ => none

/-- The volume that a key and value set. -/
def Settings.acceptedVolume? : String × SettingValue → Option Binary64
  | ("volume", .number x) => if x.isNaN then none else some x.clampUnit
  | _ => none

/-- The delay that a key and value set. -/
def Track.acceptedDelay? : String × SettingValue → Option Binary64
  | ("delay", .number x) => if x.isFinite ∧ Binary64.le 0 x then some x else none
  | _ => none

/-- The settings that keys and values lead to: for each setting the last value
that can be used. -/
def Settings.lastAccepted (pairs : List (String × SettingValue)) : Settings where
  tempo := (pairs.filterMap acceptedTempo?).getLast?
  waveform := (pairs.filterMap acceptedWaveform?).getLast?
  volume := (pairs.filterMap acceptedVolume?).getLast?

namespace Script

/-! ## Note lines -/

/-- The text of a note and the number right after it. -/
def noteAndNumber? : Token × Token → Option (String × Binary64)
  | (.note text, .number value) => some (text, value)
  | _ => none

/-- The notes of a line that have a number right after them, bars aside. -/
def notesWithNumbers (line : Line) : List (String × Binary64) :=
  let tokens := (line.map LocatedToken.token).filter (· ≠ .bar)
  (tokens.zip tokens.tail).filterMap noteAndNumber?

/-- The melody tokens of a note line: one for each note whose number is a duration. -/
def lineMelody (line : Line) : List MelodyToken :=
  (notesWithNumbers line).filterMap fun (text, value) => do
    let symbol ← NoteSymbol.ofChars? text.toList
    let denominator ← denominator? value
    return ⟨symbol.sound, denominator⟩

/-- The first note of a line that is no note symbol. -/
def malformedNote? (line : Line) : Option CompileError :=
  line.findSome? fun t =>
    match t.token with
    | .note text =>
      if (NoteSymbol.ofChars? text.toList).isNone then
        some (.grammar t.position (.malformedNote text))
      else none
    | _ => none

end Script

end BuzzerScript

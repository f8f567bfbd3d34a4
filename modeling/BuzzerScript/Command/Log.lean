import BuzzerScript.Decimal.Layout
import BuzzerScript.Timeline

/-!
# Log

What the command reports about its work.  Which of it is shown is the subject of
`BuzzerScript.Command.LogFilter`.
-/

namespace BuzzerScript

/-- How much a record matters. -/
inductive LogLevel where
  | error | warn | info | debug | trace
  deriving DecidableEq, Repr

namespace LogLevel

/-- Levels by how much they show. -/
def rank : LogLevel → Nat
  | .error => 1
  | .warn => 2
  | .info => 3
  | .debug => 4
  | .trace => 5

/-- The name of a level. -/
def name : LogLevel → String
  | .error => "ERROR"
  | .warn => "WARN"
  | .info => "INFO"
  | .debug => "DEBUG"
  | .trace => "TRACE"

end LogLevel

/-- A line of the log. -/
structure LogRecord where
  level : LogLevel
  message : Option String := none
  /-- Names with their values. -/
  fields : List (String × String) := []
  deriving DecidableEq, Repr

namespace LogRecord

/-- The target of all records of the command. -/
def target : String := "bzs"

/-- The names of the fields of a record, of which its message is one. -/
def fieldNames (record : LogRecord) : List String :=
  (record.message.map fun _ => "message").toList ++ record.fields.map Prod.fst

/-- A character of a message.  Control characters that a terminal may obey are spelled out. -/
def messageChar (c : Char) : List Char :=
  let digits := Nat.toDigits 16 c.toNat
  if c.toNat = 0x1b ∨ c.toNat = 0x7f then '\\' :: 'x' :: digits
  else if c.toNat = 0x07 ∨ c.toNat = 0x08 ∨ c.toNat = 0x0c then '\\' :: 'x' :: '0' :: digits
  else if 0x80 ≤ c.toNat ∧ c.toNat ≤ 0x9f then ['\\', 'u', '\x7b'] ++ digits ++ ['\x7d']
  else [c]

/-- A message as it is shown. -/
def shownMessage (message : String) : String :=
  String.ofList (message.toList.flatMap messageChar)

/-- A record as a line. -/
def line (record : LogRecord) : String :=
  let parts := (record.message.map shownMessage).toList ++
    record.fields.map fun (name, value) => name ++ "=" ++ value
  record.level.name ++ " " ++ target ++ ": " ++ " ".intercalate parts ++ "\n"

/-- Numbers in records: plain notation from `0.0001` up to sixteen digits before the point, and
always with a point or an exponent. -/
def numberFormat : NumberFormat where
  tie := .away
  isPlain := fun k => -3 ≤ k && k ≤ 16
  pointOnWhole := true
  infinity := "inf"
  notANumber := "NaN"

/-- A number in a record. -/
def number (x : Binary64) : String := numberFormat.render x

/-- The record of a failure. -/
def ofFailure (message : String) : LogRecord where
  level := .error
  message

/-- The record of a track that was read. -/
def ofTrack (track : Track) : LogRecord where
  level := .debug
  message := "parsed track"
  fields :=
    [("track", track.name), ("tokens", toString track.tokens.length),
      ("beats", number track.lengthBeats), ("delay_beats", number track.delayBeats)]

/-- The record of a finished timeline. -/
def ofTimeline (path : String) (script : Script) (events : List SoundEvent) : LogRecord where
  level := .info
  message := "compiled " ++ path
  fields :=
    [("tracks", toString script.tracks.length), ("events", toString events.length),
      ("end_seconds", number (endSeconds events))]

/-- The name of a waveform in a record. -/
def waveformName : Waveform → String
  | .sine => "Sine"
  | .square => "Square"
  | .sawtooth => "Sawtooth"
  | .triangle => "Triangle"

/-- The record of an event. -/
def ofEvent (event : SoundEvent) : LogRecord where
  level := .debug
  fields :=
    let frequency :=
      match event.frequency with
      | some hertz => "Some(" ++ number hertz ++ ")"
      | none => "None"
    [("event", "SoundEvent \x7b start_seconds: " ++ number event.start ++
      ", duration_seconds: " ++ number event.duration ++ ", frequency_hz: " ++ frequency ++
      ", waveform: " ++ waveformName event.waveform ++ ", volume: " ++ number event.volume ++
      " \x7d")]

end LogRecord

end BuzzerScript

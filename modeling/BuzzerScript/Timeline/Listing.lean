import BuzzerScript.Column
import BuzzerScript.Timeline

/-!
# Listings of timelines

A timeline as text: as a YAML sequence with one mapping for each event, or as a table with a
header and a row for each event.
-/

namespace BuzzerScript.Timeline

/-! ## YAML -/

/-- Numbers in YAML: plain notation from `0.00001` up to sixteen digits before the point, and
always with a point or an exponent. -/
def numberFormat : NumberFormat where
  tie := .toEven
  isPlain := fun k => -5 < k && k ≤ 16
  pointOnWhole := true
  infinity := ".inf"
  notANumber := ".nan"

/-- A line of a mapping. -/
def yamlField (name value : String) : String := name ++ ": " ++ value ++ "\n"

/-- An event as an item of a sequence, with numbers as `print` writes them; a rest has no
frequency. -/
def yamlEvent (print : Binary64 → String) (event : SoundEvent) : String :=
  let frequency :=
    match event.frequency with
    | some hertz => print hertz
    | none => "null"
  "- " ++ yamlField "startSeconds" (print event.start) ++
    "  " ++ yamlField "durationSeconds" (print event.duration) ++
    "  " ++ yamlField "frequencyHz" frequency ++
    "  " ++ yamlField "waveform" event.waveform.name ++
    "  " ++ yamlField "volume" (print event.volume)

/-- A timeline as a YAML document, with numbers as `print` writes them. -/
def yamlWith (print : Binary64 → String) (events : List SoundEvent) : String :=
  if events = [] then "[]\n" else String.join (events.map (yamlEvent print))

/-- A timeline as a YAML document. -/
def yaml : List SoundEvent → String := yamlWith numberFormat.render

/-! ## Table -/

/-- A row of a table; its columns are flush right and have a blank between them. -/
def tableRow (start duration frequency waveform volume : String) : String :=
  " ".intercalate
    [Alignment.right.fill 10 start, Alignment.right.fill 10 duration,
      Alignment.right.fill 12 frequency, Alignment.right.fill 9 waveform,
      Alignment.right.fill 7 volume] ++ "\n"

/-- The row of an event: times with four places, frequency and volume with three. -/
def tableEvent (event : SoundEvent) : String :=
  let frequency :=
    match event.frequency with
    | some hertz => hertz.renderPlaces 3
    | none => "rest"
  tableRow (event.start.renderPlaces 4) (event.duration.renderPlaces 4) frequency
    event.waveform.name (event.volume.renderPlaces 3)

/-- A timeline as a table. -/
def table (events : List SoundEvent) : String :=
  tableRow "start" "duration" "frequency" "waveform" "volume" ++
    String.join (events.map tableEvent)

end BuzzerScript.Timeline

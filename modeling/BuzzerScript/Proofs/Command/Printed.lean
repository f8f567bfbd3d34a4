import BuzzerScript.Command.Run
import BuzzerScript.Proofs.Decimal.Places

/-!
# Printed timelines

What the two forms of output look like, spelled out character by character: a YAML document
with five lines for each event, and a table with a header and one row for each event.  An empty
YAML document is a pair of brackets, while an empty table keeps its header.

The numbers of a document are in the notation that it is given; those of a table have a
fixed count of places.
-/

namespace BuzzerScript

/-- The name that a waveform is printed with. -/
inductive Waveform.IsCalled : Waveform → String → Prop
  | sine : IsCalled .sine "sine"
  | square : IsCalled .square "square"
  | sawtooth : IsCalled .sawtooth "sawtooth"
  | triangle : IsCalled .triangle "triangle"

theorem Waveform.isCalled_name (waveform : Waveform) : waveform.IsCalled waveform.name := by
  cases waveform
  · exact .sine
  · exact .square
  · exact .sawtooth
  · exact .triangle

theorem Waveform.IsCalled.unique {waveform : Waveform} {name other : String}
    (h : waveform.IsCalled name) (h' : waveform.IsCalled other) : name = other := by
  cases h <;> cases h' <;> rfl

namespace Timeline

/-! ## YAML -/

/-- A frequency in a document. -/
inductive IsYamlFrequency (print : Binary64 → String) : Option Binary64 → String → Prop
  | note (hertz : Binary64) : IsYamlFrequency print (some hertz) (print hertz)
  | rest : IsYamlFrequency print none "null"

theorem IsYamlFrequency.unique {print : Binary64 → String} {frequency : Option Binary64}
    {text other : String} (h : IsYamlFrequency print frequency text)
    (h' : IsYamlFrequency print frequency other) : text = other := by
  cases h <;> cases h' <;> rfl

/-- The lines of a document. -/
inductive IsYamlItems (print : Binary64 → String) : List SoundEvent → String → Prop
  | nil : IsYamlItems print [] ""
  | cons {event : SoundEvent} {events : List SoundEvent} {frequency waveform rest : String}
      (hfrequency : IsYamlFrequency print event.frequency frequency)
      (hwaveform : event.waveform.IsCalled waveform) (hrest : IsYamlItems print events rest) :
      IsYamlItems print (event :: events)
        ("- startSeconds: " ++ print event.start ++ "\n" ++
          "  durationSeconds: " ++ print event.duration ++ "\n" ++
          "  frequencyHz: " ++ frequency ++ "\n" ++
          "  waveform: " ++ waveform ++ "\n" ++
          "  volume: " ++ print event.volume ++ "\n" ++ rest)

/-- A YAML document. -/
inductive IsYaml (print : Binary64 → String) : List SoundEvent → String → Prop
  | empty : IsYaml print [] "[]\n"
  | items {events : List SoundEvent} {text : String} (hevents : events ≠ [])
      (htext : IsYamlItems print events text) : IsYaml print events text

theorem isYamlItems_join (print : Binary64 → String) (events : List SoundEvent) :
    IsYamlItems print events (String.join (events.map (yamlEvent print))) := by
  induction events with
  | nil => exact .nil
  | cons event events ih =>
    have hfrequency : IsYamlFrequency print event.frequency
        ((event.frequency.map print).getD "null") := by
      cases event.frequency with
      | some hertz => exact .note hertz
      | none => exact .rest
    have hitem := IsYamlItems.cons hfrequency event.waveform.isCalled_name ih
    have hevent : yamlEvent print event =
        "- " ++ yamlField "startSeconds" (print event.start) ++
          "  " ++ yamlField "durationSeconds" (print event.duration) ++
          "  " ++ yamlField "frequencyHz" ((event.frequency.map print).getD "null") ++
          "  " ++ yamlField "waveform" event.waveform.name ++
          "  " ++ yamlField "volume" (print event.volume) := by
      rw [yamlEvent]
      cases event.frequency <;> rfl
    convert hitem using 1
    refine String.toList_inj.mp ?_
    simp [hevent, yamlField, String.join_cons]

/-- A timeline is printed as a document. -/
theorem isYaml_yamlWith (print : Binary64 → String) (events : List SoundEvent) :
    IsYaml print events (yamlWith print events) := by
  rw [yamlWith]
  split
  · next hevents =>
    subst hevents
    exact .empty
  · next hevents => exact .items hevents (isYamlItems_join print events)

/-! ## Tables -/

/-- A text in a column of a table. -/
def cell (width : Nat) (text : String) : String :=
  String.ofList (List.replicate (width - text.length) ' ') ++ text

/-- A frequency in a table. -/
inductive IsTableFrequency : Option Binary64 → String → Prop
  | note {hertz : Binary64} {text : String} (htext : hertz.HasPlaces 3 text) :
      IsTableFrequency (some hertz) text
  | rest : IsTableFrequency none "rest"

theorem IsTableFrequency.unique {frequency : Option Binary64} {text other : String}
    (h : IsTableFrequency frequency text) (h' : IsTableFrequency frequency other) :
    text = other := by
  cases h with
  | note htext => cases h' with | note hother => exact htext.unique hother
  | rest => cases h' with | rest => rfl

/-- The rows of a table below its header. -/
inductive IsRows : List SoundEvent → String → Prop
  | nil : IsRows [] ""
  | cons {event : SoundEvent} {events : List SoundEvent}
      {start duration frequency waveform volume rest : String}
      (hstart : event.start.HasPlaces 4 start)
      (hduration : event.duration.HasPlaces 4 duration)
      (hfrequency : IsTableFrequency event.frequency frequency)
      (hwaveform : event.waveform.IsCalled waveform)
      (hvolume : event.volume.HasPlaces 3 volume)
      (hrest : IsRows events rest) :
      IsRows (event :: events)
        (cell 10 start ++ " " ++ cell 10 duration ++ " " ++ cell 12 frequency ++ " " ++
          cell 9 waveform ++ " " ++ cell 7 volume ++ "\n" ++ rest)

/-- A table. -/
inductive IsTable : List SoundEvent → String → Prop
  | rows {events : List SoundEvent} {text : String} (htext : IsRows events text) :
      IsTable events ("     start   duration    frequency  waveform  volume\n" ++ text)

theorem fill_right (width : Nat) (text : String) :
    Alignment.right.fill width text = cell width text := by
  refine String.toList_inj.mp ?_
  simp [Alignment.fill, cell]

theorem isRows_join (events : List SoundEvent) :
    IsRows events (String.join (events.map tableEvent)) := by
  induction events with
  | nil => exact .nil
  | cons event events ih =>
    have hplaces := fun places (h : 0 < places) => Binary64.hasPlaces_renderPlaces h
    have hfrequency : IsTableFrequency event.frequency
        ((event.frequency.map (Binary64.renderPlaces 3)).getD "rest") := by
      cases event.frequency with
      | some hertz => exact .note (hplaces 3 (by decide) hertz)
      | none => exact .rest
    have hrow := IsRows.cons (hplaces 4 (by decide) event.start)
      (hplaces 4 (by decide) event.duration) hfrequency event.waveform.isCalled_name
      (hplaces 3 (by decide) event.volume) ih
    have hevent : tableEvent event =
        tableRow (event.start.renderPlaces 4) (event.duration.renderPlaces 4)
          ((event.frequency.map (Binary64.renderPlaces 3)).getD "rest") event.waveform.name
          (event.volume.renderPlaces 3) := by
      rw [tableEvent]
      cases event.frequency <;> rfl
    convert hrow using 1
    refine String.toList_inj.mp ?_
    simp [hevent, tableRow, fill_right, String.join_cons]

/-- A timeline is printed as a table. -/
theorem isTable_table (events : List SoundEvent) : IsTable events (table events) := by
  have hheader : tableRow "start" "duration" "frequency" "waveform" "volume" =
      "     start   duration    frequency  waveform  volume\n" := by decide +kernel
  rw [table, hheader]
  exact .rows (isRows_join events)

/-! ## One text for each timeline -/

/-- A document has one text. -/
theorem IsYamlItems.unique {print : Binary64 → String} {events : List SoundEvent}
    {text other : String} (h : IsYamlItems print events text)
    (h' : IsYamlItems print events other) : text = other := by
  induction h generalizing other with
  | nil => cases h' with | nil => rfl
  | cons hfrequency hwaveform _ ih =>
    cases h' with
    | cons hfrequency' hwaveform' hrest' =>
      rw [hfrequency.unique hfrequency', hwaveform.unique hwaveform', ih hrest']

theorem IsRows.unique {events : List SoundEvent} {text other : String} (h : IsRows events text)
    (h' : IsRows events other) : text = other := by
  induction h generalizing other with
  | nil => cases h' with | nil => rfl
  | cons hstart hduration hfrequency hwaveform hvolume _ ih =>
    cases h' with
    | cons hstart' hduration' hfrequency' hwaveform' hvolume' hrest' =>
      rw [hstart.unique hstart', hduration.unique hduration', hfrequency.unique hfrequency',
        hwaveform.unique hwaveform', hvolume.unique hvolume', ih hrest']

theorem IsYaml.unique {print : Binary64 → String} {events : List SoundEvent}
    {text other : String} (h : IsYaml print events text) (h' : IsYaml print events other) :
    text = other := by
  cases h with
  | empty =>
    cases h' with
    | empty => rfl
    | items hevents => exact absurd rfl hevents
  | items hevents htext =>
    cases h' with
    | empty => exact absurd rfl hevents
    | items _ hother => exact htext.unique hother

theorem IsTable.unique {events : List SoundEvent} {text other : String}
    (h : IsTable events text) (h' : IsTable events other) : text = other := by
  cases h with
  | rows htext => cases h' with | rows hother => rw [htext.unique hother]

end Timeline

namespace Command

/-- A timeline in the form that is asked for. -/
inductive IsPrinted (print : Binary64 → String) (events : List SoundEvent) :
    OutputFormat → String → Prop
  | yaml {text : String} (h : Timeline.IsYaml print events text) :
      IsPrinted print events .yaml text
  | table {text : String} (h : Timeline.IsTable events text) :
      IsPrinted print events .table text

theorem IsPrinted.unique {print : Binary64 → String} {events : List SoundEvent}
    {format : OutputFormat} {text other : String} (h : IsPrinted print events format text)
    (h' : IsPrinted print events format other) : text = other := by
  cases h with
  | yaml htext => cases h' with | yaml hother => exact htext.unique hother
  | table htext => cases h' with | table hother => exact htext.unique hother

/-- What the command prints is the timeline in the form that is asked for. -/
theorem isPrinted_render (backend : Backend) (format : OutputFormat)
    (events : List SoundEvent) :
    IsPrinted backend.printNumber events format (render backend format events) := by
  cases format with
  | yaml => exact .yaml (Timeline.isYaml_yamlWith _ events)
  | table => exact .table (Timeline.isTable_table events)

end Command

end BuzzerScript

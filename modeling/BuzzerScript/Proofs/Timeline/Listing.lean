import BuzzerScript.Proofs.Decimal.Layout
import BuzzerScript.Timeline.Listing

/-!
# The listing loses nothing

The YAML document of a timeline determines the timeline, as long as no number in it is NaN.
Each value stands on a line of its own behind a fixed key, so the lines of the document can be
taken off one by one, and a value can be told from its text.

Of the numbers no more is needed than that different ones have different texts, which are one
line each and not the word for a missing frequency.  `Timeline.IsFaithful` collects this, and
the numbers of the program are faithful because they read back.
-/

namespace BuzzerScript

/-- An event none of whose numbers is NaN. -/
structure SoundEvent.NoNaN (event : SoundEvent) : Prop where
  start : event.start.isNaN = false
  duration : event.duration.isNaN = false
  frequency : ∀ hertz ∈ event.frequency, hertz.isNaN = false
  volume : event.volume.isNaN = false

instance (event : SoundEvent) : Decidable event.NoNaN :=
  decidable_of_iff (event.start.isNaN = false ∧ event.duration.isNaN = false ∧
      (∀ hertz ∈ event.frequency, hertz.isNaN = false) ∧ event.volume.isNaN = false)
    ⟨fun ⟨start, duration, frequency, volume⟩ => ⟨start, duration, frequency, volume⟩,
      fun h => ⟨h.start, h.duration, h.frequency, h.volume⟩⟩

/-- Where a number is wanted, the spellings of infinity and NaN are tried before the numerals,
and none of them is a numeral. -/
theorem Yaml.float?_of_ofChars? {text : String} {x : Binary64}
    (hplus : text.toList.head? ≠ some '+') (hread : Binary64.ofChars? text.toList = some x)
    (hfinite : x.isFinite = true) : float? text = some x := by
  have hbody : withoutPlus? text.toList = some text.toList := by
    unfold withoutPlus?
    split
    · next rest htext => exact absurd (by rw [htext]; rfl) hplus
    · rfl
  have hnot : ∀ words : List String, (∀ word ∈ words, Binary64.ofChars? word.toList = none) →
      text ∉ words := by
    intro words hnone hmem
    rw [hnone text hmem] at hread
    cases hread
  rw [float?, hbody, Option.bind_some, String.ofList_toList,
    if_neg (hnot _ (by decide +kernel)), if_neg (hnot _ (by decide +kernel)),
    if_neg (hnot _ (by decide +kernel)), hread, Option.filter_some,
    if_pos hfinite]

theorem Waveform.ofExactName?_name (waveform : Waveform) :
    ofExactName? waveform.name = some waveform := by
  cases waveform <;> decide +kernel

theorem Waveform.name_injective : Function.Injective Waveform.name := by
  intro waveform other h
  have hread := ofExactName?_name waveform
  rw [h, ofExactName?_name] at hread
  exact (Option.some.inj hread).symm

namespace Timeline

/-! ## Values -/

/-- A number in the document reads back. -/
theorem float?_render {x : Binary64} (h : x.isNaN = false) :
    Yaml.float? (numberFormat.render x) = some x := by
  cases x with
  | finite negative c =>
    refine Yaml.float?_of_ofChars? ?_ (Binary64.ofChars?_render numberFormat negative c) rfl
    obtain ⟨d, hnumeral, -⟩ := numberFormat.exists_numeral_magnitude c
    obtain ⟨first, rest, htext, hfirst⟩ := hnumeral.exists_cons
    rw [NumberFormat.render, String.toList_ofList, htext]
    cases negative with
    | false => rintro ⟨⟩; cases hfirst
    | true => rintro ⟨⟩
  | infinite negative => cases negative <;> decide +kernel
  | nan negative => cases h

theorem render_inj {x y : Binary64} (hx : x.isNaN = false) (hy : y.isNaN = false)
    (h : numberFormat.render x = numberFormat.render y) : x = y := by
  have hread := float?_render hx
  rw [h, float?_render hy] at hread
  exact (Option.some.inj hread).symm

theorem newline_notMem_render (x : Binary64) : '\n' ∉ (numberFormat.render x).toList := by
  cases x with
  | finite negative c =>
    obtain ⟨d, hnumeral, -⟩ := numberFormat.exists_numeral_magnitude c
    have hmagnitude : '\n' ∉ numberFormat.magnitude c := fun hmem =>
      absurd (hnumeral.isNumeralChar _ hmem) (by decide)
    rw [NumberFormat.render, String.toList_ofList]
    cases negative with
    | false => exact hmagnitude
    | true => exact List.not_mem_cons_of_ne_of_not_mem (by decide) hmagnitude
  | infinite negative => cases negative <;> decide +kernel
  | nan negative => exact (by decide +kernel : '\n' ∉ numberFormat.notANumber.toList)

/-- What the document needs of the texts of its numbers, NaN aside. -/
structure IsFaithful (print : Binary64 → String) : Prop where
  injective : ∀ x y, x.isNaN = false → y.isNaN = false → print x = print y → x = y
  newline_notMem : ∀ x, x.isNaN = false → '\n' ∉ (print x).toList
  ne_null : ∀ x, x.isNaN = false → print x ≠ "null"

/-- The numbers of the program read back, and `null` does not. -/
theorem isFaithful_render : IsFaithful numberFormat.render where
  injective := fun _ _ hx hy h => render_inj hx hy h
  newline_notMem := fun x _ => newline_notMem_render x
  ne_null := fun x hx hnull => by
    have hread := float?_render hx
    rw [hnull] at hread
    cases hread

theorem newline_notMem_name (waveform : Waveform) : '\n' ∉ waveform.name.toList := by
  cases waveform <;> decide +kernel

/-! ## Lines -/

/-- A line with a key and a value in front of other lines. -/
def line (key value : String) (rest : List Char) : List Char :=
  key.toList ++ (value.toList ++ '\n' :: rest)

theorem takeWhile_line {value : List Char} (h : '\n' ∉ value) (rest : List Char) :
    (value ++ '\n' :: rest).takeWhile (· ≠ '\n') = value := by
  have hvalue : ∀ c ∈ value, decide (c ≠ '\n') = true := fun c hc =>
    decide_eq_true (ne_of_mem_of_not_mem hc h)
  rw [List.takeWhile_append_of_pos hvalue, List.takeWhile_cons_of_neg (by simp),
    List.append_nil]

/-- A value ends with its line. -/
theorem line_inj {key value other : String} {rest rest' : List Char}
    (hvalue : '\n' ∉ value.toList) (hother : '\n' ∉ other.toList)
    (h : line key value rest = line key other rest') : value = other ∧ rest = rest' := by
  have hlines := List.append_cancel_left h
  have hsame : value.toList = other.toList := by
    rw [← takeWhile_line hvalue rest, hlines, takeWhile_line hother]
  rw [hsame] at hlines
  exact ⟨String.toList_inj.mp hsame, (List.cons.inj (List.append_cancel_left hlines)).2⟩

/-- The text of a frequency; a rest has none. -/
def frequencyText (print : Binary64 → String) (frequency : Option Binary64) : String :=
  match frequency with
  | some hertz => print hertz
  | none => "null"

/-- An event in front of others, line by line. -/
theorem toList_yamlEvent (print : Binary64 → String) (event : SoundEvent) (rest : List Char) :
    (yamlEvent print event).toList ++ rest =
      line "- startSeconds: " (print event.start)
        (line "  durationSeconds: " (print event.duration)
          (line "  frequencyHz: " (frequencyText print event.frequency)
            (line "  waveform: " event.waveform.name
              (line "  volume: " (print event.volume) rest)))) := by
  have hevent : yamlEvent print event =
      "- " ++ yamlField "startSeconds" (print event.start) ++
        "  " ++ yamlField "durationSeconds" (print event.duration) ++
        "  " ++ yamlField "frequencyHz" (frequencyText print event.frequency) ++
        "  " ++ yamlField "waveform" event.waveform.name ++
        "  " ++ yamlField "volume" (print event.volume) := rfl
  simp [hevent, yamlField, line]

example :
    yamlEvent numberFormat.render
        ⟨.zero true, .infinite false, some ((⟨1, -7⟩ : Decimal).nearest false), .sine, 1⟩ =
      "- startSeconds: -0.0\n  durationSeconds: .inf\n  frequencyHz: 1e-7\n" ++
        "  waveform: sine\n  volume: 1.0\n" := by decide +kernel

/-! ## Documents -/

/-- The lines of the events of a document. -/
def eventLines (print : Binary64 → String) (events : List SoundEvent) : List Char :=
  events.flatMap fun event => (yamlEvent print event).toList

theorem eventLines_cons (print : Binary64 → String) (event : SoundEvent)
    (events : List SoundEvent) :
    eventLines print (event :: events) =
      (yamlEvent print event).toList ++ eventLines print events :=
  List.flatMap_cons

theorem toList_yamlWith (print : Binary64 → String) {events : List SoundEvent}
    (h : events ≠ []) : (yamlWith print events).toList = eventLines print events := by
  rw [yamlWith, if_neg h, String.toList_join, List.flatMap_map, eventLines]

/-- Every event starts with the mark of an item. -/
theorem head?_eventLines (print : Binary64 → String) (event : SoundEvent)
    (events : List SoundEvent) : (eventLines print (event :: events)).head? = some '-' := by
  have hkey : "- startSeconds: ".toList.head? = some '-' := by decide +kernel
  rw [eventLines_cons, toList_yamlEvent, line, List.head?_append, hkey, Option.some_or]

/-- The document of no events is not the one of some. -/
theorem yamlWith_nil_ne (print : Binary64 → String) (event : SoundEvent)
    (events : List SoundEvent) : yamlWith print [] ≠ yamlWith print (event :: events) := by
  intro htext
  have hhead := head?_eventLines print event events
  rw [← toList_yamlWith print (List.cons_ne_nil event events), ← htext, yamlWith, if_pos rfl]
    at hhead
  revert hhead
  decide +kernel

/-! ## Faithful numbers -/

section Faithful

variable {print : Binary64 → String} (faithful : IsFaithful print)

include faithful

/-- A rest is not confused with a note. -/
theorem IsFaithful.frequencyText_inj {frequency other : Option Binary64}
    (h : ∀ hertz ∈ frequency, hertz.isNaN = false) (h' : ∀ hertz ∈ other, hertz.isNaN = false)
    (htext : frequencyText print frequency = frequencyText print other) :
    frequency = other := by
  cases frequency with
  | none =>
    cases other with
    | none => rfl
    | some hertz => exact absurd htext.symm (faithful.ne_null hertz (h' hertz rfl))
  | some hertz =>
    cases other with
    | none => exact absurd htext (faithful.ne_null hertz (h hertz rfl))
    | some hertz' =>
      exact congrArg some (faithful.injective _ _ (h hertz rfl) (h' hertz' rfl) htext)

theorem IsFaithful.newline_notMem_frequencyText {frequency : Option Binary64}
    (h : ∀ hertz ∈ frequency, hertz.isNaN = false) :
    '\n' ∉ (frequencyText print frequency).toList := by
  cases frequency with
  | none => exact (by decide +kernel : '\n' ∉ "null".toList)
  | some hertz => exact faithful.newline_notMem hertz (h hertz rfl)

/-- The first event and the text behind it are determined. -/
theorem IsFaithful.yamlEvent_append_inj {event other : SoundEvent} {rest rest' : List Char}
    (h : event.NoNaN) (h' : other.NoNaN)
    (htext : (yamlEvent print event).toList ++ rest =
      (yamlEvent print other).toList ++ rest') :
    event = other ∧ rest = rest' := by
  rw [toList_yamlEvent, toList_yamlEvent] at htext
  have hnewline := faithful.newline_notMem
  obtain ⟨hstart, htext⟩ := line_inj (hnewline _ h.start) (hnewline _ h'.start) htext
  obtain ⟨hduration, htext⟩ := line_inj (hnewline _ h.duration) (hnewline _ h'.duration) htext
  obtain ⟨hfrequency, htext⟩ := line_inj (faithful.newline_notMem_frequencyText h.frequency)
    (faithful.newline_notMem_frequencyText h'.frequency) htext
  obtain ⟨hwaveform, htext⟩ := line_inj (newline_notMem_name _) (newline_notMem_name _) htext
  obtain ⟨hvolume, hrest⟩ := line_inj (hnewline _ h.volume) (hnewline _ h'.volume) htext
  refine ⟨?_, hrest⟩
  obtain ⟨start, duration, frequency, waveform, volume⟩ := event
  obtain rfl := faithful.injective _ _ h.start h'.start hstart
  obtain rfl := faithful.injective _ _ h.duration h'.duration hduration
  obtain rfl := faithful.frequencyText_inj h.frequency h'.frequency hfrequency
  obtain rfl := Waveform.name_injective hwaveform
  obtain rfl := faithful.injective _ _ h.volume h'.volume hvolume
  rfl

theorem IsFaithful.eventLines_inj {events others : List SoundEvent}
    (h : ∀ event ∈ events, event.NoNaN) (h' : ∀ event ∈ others, event.NoNaN)
    (htext : eventLines print events = eventLines print others) : events = others := by
  induction events generalizing others with
  | nil =>
    cases others with
    | nil => rfl
    | cons other others =>
      have hhead := head?_eventLines print other others
      rw [← htext] at hhead
      cases hhead
  | cons event events ih =>
    cases others with
    | nil =>
      have hhead := head?_eventLines print event events
      rw [htext] at hhead
      cases hhead
    | cons other others =>
      rw [eventLines_cons, eventLines_cons] at htext
      obtain ⟨rfl, hrest⟩ := faithful.yamlEvent_append_inj (h _ List.mem_cons_self)
        (h' _ List.mem_cons_self) htext
      rw [ih (fun event hevent => h event (List.mem_cons_of_mem _ hevent))
        (fun event hevent => h' event (List.mem_cons_of_mem _ hevent)) hrest]

/-- Whatever its numbers look like, a document with faithful ones determines its events. -/
theorem IsFaithful.yamlWith_inj {events others : List SoundEvent}
    (h : ∀ event ∈ events, event.NoNaN) (h' : ∀ event ∈ others, event.NoNaN)
    (htext : yamlWith print events = yamlWith print others) : events = others := by
  cases events with
  | nil =>
    cases others with
    | nil => rfl
    | cons other others => exact absurd htext (yamlWith_nil_ne print other others)
  | cons event events =>
    cases others with
    | nil => exact absurd htext.symm (yamlWith_nil_ne print event events)
    | cons other others =>
      refine faithful.eventLines_inj h h' ?_
      rw [← toList_yamlWith print (List.cons_ne_nil event events), htext,
        toList_yamlWith print (List.cons_ne_nil other others)]

end Faithful

/-- Two lists of events without NaN that have the same document are the same list. -/
theorem yaml_lossless {events others : List SoundEvent} (h : ∀ event ∈ events, event.NoNaN)
    (h' : ∀ event ∈ others, event.NoNaN) (htext : yaml events = yaml others) :
    events = others :=
  isFaithful_render.yamlWith_inj h h' htext

/-- An endless sound from negative zero on, and a rest, with numbers that are computed. -/
def computedEvents : List SoundEvent :=
  [{ start := 0 * .zero true, duration := 1 / 0, frequency := some (1 / 10000000)
     waveform := .sine, volume := 1 / 2 },
    { start := 1 / 4 + 1 / 2, duration := 1 / 8, frequency := none, waveform := .square
      volume := 1 }]

/-- The same events with their numbers written out. -/
def writtenEvents : List SoundEvent :=
  [{ start := .zero true, duration := .infinite false
     frequency := some ((⟨1, -7⟩ : Decimal).nearest false)
     waveform := .sine, volume := (⟨5, -1⟩ : Decimal).nearest false },
    { start := (⟨75, -2⟩ : Decimal).nearest false,
      duration := (⟨125, -3⟩ : Decimal).nearest false
      frequency := none, waveform := .square, volume := 1 }]

/-- Both lists have the same document, so they are the same. -/
theorem yaml_lossless_computed :
    (∀ event ∈ computedEvents, event.NoNaN) ∧ (∀ event ∈ writtenEvents, event.NoNaN) ∧
      yaml computedEvents = yaml writtenEvents ∧ computedEvents = writtenEvents := by
  have hcomputed : ∀ event ∈ computedEvents, event.NoNaN := by decide +kernel
  have hwritten : ∀ event ∈ writtenEvents, event.NoNaN := by decide +kernel
  have htext : yaml computedEvents = yaml writtenEvents := by decide +kernel
  exact ⟨hcomputed, hwritten, htext, yaml_lossless hcomputed hwritten htext⟩

end Timeline

end BuzzerScript

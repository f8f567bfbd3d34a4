import BuzzerScript.Proofs.Yaml.FlatScanner
import BuzzerScript.Yaml.Document

/-!
# The document of a flat mapping

The tokens of a flat mapping become a document with a mapping, its keys and its values,
all of which are plain scalars.  If a key is too long, the document ends in front of it
and is not complete.
-/

namespace BuzzerScript.Yaml

/-- The event of a plain scalar without properties. -/
def plainScalar (content : List Char) : Event :=
  .scalar none ⟨String.ofList content, .plain, none⟩

/-- The events of the lines of a flat mapping after the start of the mapping, and whether there
are no others.  They end in front of the first key that is too long. -/
inductive FlatEvents : List FlatLine → List MarkedEvent → Bool → Prop
  | close (stop : Mark) : FlatEvents [] [⟨.mappingEnd, stop⟩] true
  | long {line : FlatLine} (lines : List FlatLine) (key : maxKeyLength < line.key.length) :
      FlatEvents (line :: lines) [] false
  | cons {line : FlatLine} {lines : List FlatLine} {events : List MarkedEvent}
      {isComplete : Bool}
      (key : line.key.length ≤ maxKeyLength) (keyMark valueMark : Mark)
      (rest : FlatEvents lines events isComplete) :
      FlatEvents (line :: lines)
        (⟨plainScalar line.key, keyMark⟩ :: ⟨plainScalar line.value, valueMark⟩ :: events)
        isComplete

/-- The events after a mapping that is closed. -/
def closingEvents (stop : Mark) : List MarkedEvent :=
  [⟨.documentEnd, stop⟩, ⟨.streamEnd, stop⟩]

namespace Machine

/-! ## Steps -/

/-- The machine within the mapping of a document. -/
def inMapping (state : State) (tokens : List MarkedToken) : Machine where
  tokens
  state
  pending := [.documentEnd]
  handles := standardHandles

section Steps

variable {m next : Machine} {event : MarkedEvent} {tokens : List MarkedToken}
  {mark stop : Mark}

theorem events_of_step (h : m.step = some (event, next)) (bound : Nat) :
    m.events (bound + 1) = event :: next.events bound := by
  rw [events, h]

theorem events_of_none (h : m.step = none) (bound : Nat) : m.events bound = [] := by
  cases bound with
  | zero => rfl
  | succ bound => rw [events, h]

theorem step_of_no_tokens (h : m.tokens = []) : m.step = none := by
  rw [step, peek?, h]
  rfl

theorem step_key (keyMark mark : Mark) (content : List Char) (tokens : List MarkedToken) :
    (inMapping .blockMappingKey
        (⟨.key, keyMark⟩ :: ⟨.scalar content .plain, mark⟩ :: tokens)).step =
      some (⟨plainScalar content, mark⟩, inMapping .blockMappingValue tokens) := rfl

theorem step_value (signMark mark : Mark) (content : List Char) (tokens : List MarkedToken) :
    (inMapping .blockMappingValue
        (⟨.value, signMark⟩ :: ⟨.scalar content .plain, mark⟩ :: tokens)).step =
      some (⟨plainScalar content, mark⟩, inMapping .blockMappingKey tokens) := rfl

/-- The machine behind the mapping of a document. -/
def afterMapping (state : State) (tokens : List MarkedToken) : Machine where
  tokens
  state
  handles := standardHandles

theorem step_blockEnd (stop : Mark) (tokens : List MarkedToken) :
    (inMapping .blockMappingKey (⟨.blockEnd, stop⟩ :: tokens)).step =
      some (⟨.mappingEnd, stop⟩, afterMapping .documentEnd tokens) := rfl

theorem step_documentEnd (stop : Mark) :
    (afterMapping .documentEnd [⟨.streamEnd, stop⟩]).step =
      some (⟨.documentEnd, stop⟩, afterMapping .document [⟨.streamEnd, stop⟩]) := rfl

theorem step_streamEnd (stop : Mark) :
    (afterMapping .document [⟨.streamEnd, stop⟩]).step =
      some (⟨.streamEnd, stop⟩, afterMapping .finished []) := rfl

/-- The lines of a mapping become their events, and the end of the mapping is the end of the
document and of the stream. -/
theorem events_lines {lines : List FlatLine} (h : FlatTokens lines tokens) {bound : Nat}
    (hbound : tokens.length < bound) :
    ∃ events isComplete stop, FlatEvents lines events isComplete ∧
      (inMapping .blockMappingKey tokens).events bound =
        events ++ if isComplete then closingEvents stop else [] := by
  induction h generalizing bound with
  | close stop =>
    obtain ⟨bound, rfl⟩ : ∃ more, bound = more + 3 := Nat.exists_eq_add_of_le' hbound
    refine ⟨_, true, stop, .close stop, ?_⟩
    rw [events_of_step (step_blockEnd _ _), events_of_step (step_documentEnd _),
      events_of_step (step_streamEnd _), events_of_none (step_of_no_tokens rfl)]
    rfl
  | long lines key =>
    refine ⟨_, false, {}, .long lines key, ?_⟩
    exact events_of_none (step_of_no_tokens rfl) bound
  | cons key keyMark valueSign valueMark rest ih =>
    simp only [List.length_cons] at hbound
    obtain ⟨bound, rfl⟩ : ∃ more, bound = more + 2 := Nat.exists_eq_add_of_le' (by omega)
    obtain ⟨events, isComplete, stop, hevents, hrun⟩ := ih (show _ < bound by omega)
    refine ⟨_, isComplete, stop, .cons key keyMark valueMark hevents, ?_⟩
    rw [events_of_step (step_key _ _ _ _), events_of_step (step_value _ _ _ _), hrun]
    rfl

/-! ## The start of a stream -/

theorem step_firstDocument (mark : Mark) (tokens : List MarkedToken) :
    ({ tokens := ⟨.blockMappingStart, mark⟩ :: tokens } : Machine).step =
      some (⟨.documentStart, mark⟩,
        inMapping .blockNode (⟨.blockMappingStart, mark⟩ :: tokens)) := rfl

theorem step_mappingStart (mark : Mark) (tokens : List MarkedToken) :
    (inMapping .blockNode (⟨.blockMappingStart, mark⟩ :: tokens)).step =
      some (⟨.mappingStart {}, mark⟩,
        inMapping .blockMappingStart (⟨.blockMappingStart, mark⟩ :: tokens)) := rfl

/-- The first key comes as the others do. -/
theorem events_blockMappingStart {lines : List FlatLine} (h : FlatTokens lines tokens)
    (mark : Mark) (bound : Nat) :
    (inMapping .blockMappingStart (⟨.blockMappingStart, mark⟩ :: tokens)).events bound =
      (inMapping .blockMappingKey tokens).events bound := by
  have hstep : (inMapping .blockMappingStart (⟨.blockMappingStart, mark⟩ :: tokens)).step =
      (inMapping .blockMappingKey tokens).step := by
    cases h <;> rfl
  cases bound with
  | zero => rfl
  | succ bound => rw [Machine.events, Machine.events, hstep]

end Steps

end Machine

/-- The events of a flat mapping. -/
theorem eventsOf_flatTokens {lines : List FlatLine} {tokens : List MarkedToken}
    (h : FlatTokens lines tokens) (mark : Mark) :
    ∃ events isComplete stop, FlatEvents lines events isComplete ∧
      eventsOf (⟨.blockMappingStart, mark⟩ :: tokens) =
        ⟨.documentStart, mark⟩ :: ⟨.mappingStart {}, mark⟩ ::
          (events ++ if isComplete then closingEvents stop else []) := by
  obtain ⟨bound, hbound⟩ : ∃ bound,
      8 * ((⟨.blockMappingStart, mark⟩ :: tokens).length + 1) =
        (tokens.length + 1 + bound) + 2 :=
    ⟨7 * tokens.length + 13, by rw [List.length_cons]; omega⟩
  obtain ⟨events, isComplete, stop, hevents, hrun⟩ :=
    Machine.events_lines h (show tokens.length < tokens.length + 1 + bound by omega)
  refine ⟨events, isComplete, stop, hevents, ?_⟩
  rw [eventsOf, hbound, Machine.events_of_step (Machine.step_firstDocument mark tokens),
    Machine.events_of_step (Machine.step_mappingStart mark tokens),
    Machine.events_blockMappingStart h, hrun]

/-! ## The document -/

namespace Document

/-- An event of the mapping, which is neither an alias nor the end of the document and has no
anchor. -/
def IsPlainEvent (e : MarkedEvent) : Prop :=
  e.event = .mappingStart {} ∨ e.event = .mappingEnd ∨ ∃ content, e.event = plainScalar content

/-- The item of an event that is no alias. -/
def itemOf (e : MarkedEvent) : Item := { event := e.event, mark := e.mark }

theorem isPlainEvent_of_flatEvents {lines : List FlatLine} {events : List MarkedEvent}
    {isComplete : Bool} (h : FlatEvents lines events isComplete) :
    ∀ e ∈ events, IsPlainEvent e := by
  induction h with
  | close stop => simp [IsPlainEvent]
  | long lines key => simp
  | cons key keyMark valueMark rest ih =>
    simp only [List.forall_mem_cons]
    exact ⟨.inr (.inr ⟨_, rfl⟩), .inr (.inr ⟨_, rfl⟩), ih⟩

theorem not_isEnd {e : MarkedEvent} (h : IsPlainEvent e) : isEnd e = false := by
  obtain ⟨event, mark⟩ := e
  obtain rfl | rfl | ⟨content, rfl⟩ := h
  · rfl
  · rfl
  · simp [isEnd, plainScalar]

/-- Each event becomes an item. -/
theorem collect_of_isPlainEvent (anchors : Anchors) {events : List MarkedEvent}
    (h : ∀ e ∈ events, IsPlainEvent e) :
    collect anchors events = (events.map fun e => (itemOf e, none), anchors, true) := by
  induction events with
  | nil => rfl
  | cons e events ih =>
    obtain ⟨event, mark⟩ := e
    have hrest := ih fun d hd => h d (List.mem_cons_of_mem _ hd)
    obtain hevent | hevent | ⟨content, hevent⟩ := h _ List.mem_cons_self
    · obtain rfl : event = .mappingStart {} := hevent
      simp [collect, anchor?, hrest, itemOf]
    · obtain rfl : event = .mappingEnd := hevent
      simp [collect, anchor?, hrest, itemOf]
    · obtain rfl : event = plainScalar content := hevent
      simp [collect, plainScalar, anchor?, hrest, itemOf]

/-- The document of a text whose events are known. -/
theorem first_of_eventsOf {text : List Char} {mark stop : Mark} {events : List MarkedEvent}
    {isComplete : Bool} (hplain : ∀ e ∈ events, IsPlainEvent e)
    (hevents : eventsOf (tokensOf text) =
      ⟨.documentStart, mark⟩ :: (events ++ if isComplete then closingEvents stop else [])) :
    first text = { items := events.map itemOf, isComplete, isLast := true } := by
  let start : MarkedEvent := ⟨.documentStart, mark⟩
  have hnotEnd : ∀ e ∈ start :: events, (!isEnd e) = true := by
    refine List.forall_mem_cons.mpr ⟨rfl, fun e he => ?_⟩
    rw [not_isEnd (hplain e he)]
    rfl
  have hitems : (events.map fun e => (itemOf e, (none : Option Nat))).map (resolve {}) =
      events.map itemOf := by
    rw [List.map_map]
    rfl
  rw [first, hevents, ← List.cons_append, List.takeWhile_append_of_pos hnotEnd,
    List.dropWhile_append_of_pos hnotEnd]
  cases isComplete with
  | true =>
    have htake : (closingEvents stop).takeWhile (!isEnd ·) = [] := rfl
    have hdrop : (closingEvents stop).dropWhile (!isEnd ·) = closingEvents stop := rfl
    rw [if_pos rfl, htake, hdrop, List.append_nil, collect, collect_of_isPlainEvent {} hplain]
    simp only [hitems]
    rfl
  | false =>
    rw [if_neg Bool.false_ne_true, List.takeWhile_nil, List.dropWhile_nil, List.append_nil,
      collect, collect_of_isPlainEvent {} hplain]
    simp only [hitems]

/-- The document of a flat mapping whose first key is short enough. -/
theorem first_flatText {line : FlatLine} (hkey : line.key.length ≤ maxKeyLength)
    (lines : List FlatLine) :
    ∃ events isComplete, FlatEvents (line :: lines) events isComplete ∧
      first (flatText (line :: lines)) =
        { items := { event := .mappingStart {}, mark := {} } :: events.map itemOf
          isComplete
          isLast := true } := by
  obtain ⟨tokens, htokens, hcut⟩ := tokensOf_flatText hkey lines
  obtain ⟨events, isComplete, stop, hflat, hevents⟩ := eventsOf_flatTokens htokens {}
  refine ⟨events, isComplete, hflat, ?_⟩
  rw [← hcut, ← List.cons_append] at hevents
  rw [first_of_eventsOf (List.forall_mem_cons.mpr ⟨.inl rfl, isPlainEvent_of_flatEvents hflat⟩)
    hevents]
  rfl

/-- The document if the first key is too long. -/
theorem first_flatText_long {line : FlatLine} (hkey : maxKeyLength < line.key.length)
    (lines : List FlatLine) :
    first (flatText (line :: lines)) =
      { items := [{ event := plainScalar line.key, mark := {} }]
        isComplete := false
        isLast := true } := by
  have hevents : eventsOf (tokensOf (flatText (line :: lines))) =
      ⟨.documentStart, {}⟩ ::
        ([⟨plainScalar line.key, {}⟩] ++ if false then closingEvents {} else []) := by
    rw [tokensOf_flatText_long hkey]
    rfl
  exact first_of_eventsOf (List.forall_mem_singleton.mpr (.inr (.inr ⟨_, rfl⟩))) hevents

/-- The document of a text without lines. -/
theorem first_nil :
    first (flatText []) = { items := [], isComplete := true, isLast := true } := by
  rw [first, tokensOf_nil]
  rfl

end Document

end BuzzerScript.Yaml

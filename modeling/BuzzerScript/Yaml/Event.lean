import BuzzerScript.Yaml.Token

/-!
# YAML events

The nodes of a stream in the order in which they are written: scalars, aliases, and the starts
and ends of collections and documents.  Tokens are turned into events by a machine with a stack
of states, each of which says what has to come next.
-/

namespace BuzzerScript.Yaml

/-- The anchor and tag in front of a node. -/
structure NodeProperties where
  anchor : Option (List Char) := none
  tag : Option TagText := none
  deriving DecidableEq

/-- A scalar with its content as written. -/
structure Scalar where
  content : String
  style : ScalarStyle
  tag : Option TagText := none
  deriving DecidableEq

/-- An event of a stream. -/
inductive Event where
  | streamEnd
  | documentStart
  | documentEnd
  | alias (name : List Char)
  | scalar (anchor : Option (List Char)) (scalar : Scalar)
  | sequenceStart (properties : NodeProperties)
  | sequenceEnd
  | mappingStart (properties : NodeProperties)
  | mappingEnd
  deriving DecidableEq

/-- An event and the place where it starts. -/
structure MarkedEvent where
  event : Event
  mark : Mark
  deriving DecidableEq

/-! ## The machine -/

/-- What comes next. -/
inductive State where
  | firstDocument
  | document
  | documentContent
  | documentEnd
  | blockNode
  | blockSequenceStart
  | blockSequenceEntry
  | indentlessEntry
  | blockMappingStart
  | blockMappingKey
  | blockMappingValue
  | flowSequenceStart
  | flowSequenceEntry
  | flowPairKey
  | flowPairValue
  | flowPairEnd
  | flowMappingStart
  | flowMappingKey
  | flowMappingValue
  | flowMappingNoValue
  | finished
  deriving DecidableEq

/-- A list of tokens that is being turned into events. -/
structure Machine where
  tokens : List MarkedToken
  state : State := .firstDocument
  /-- The states that come after the current node is done. -/
  pending : List State := []
  /-- The tags that handles stand for in this document. -/
  handles : List (List Char × TagText) := []

namespace Machine

/-- The handles that need no directive. -/
def standardHandles : List (List Char × TagText) :=
  [(['!'], ['!'.toUInt8]), (['!', '!'], "tag:yaml.org,2002:".toUTF8.toList)]

/-- The token that comes next. -/
def peek? (m : Machine) : Option MarkedToken := m.tokens.head?

/-- Leave a token behind. -/
def skip (m : Machine) : Machine := { m with tokens := m.tokens.tail }

/-- Go to a state. -/
def goto (m : Machine) (state : State) : Machine := { m with state }

/-- Go to the state that comes after the current node. -/
def pop (m : Machine) : Machine :=
  match m.pending with
  | state :: pending => { m with state, pending }
  | [] => { m with state := .finished }

/-- Have a state come after the current node. -/
def later (m : Machine) (state : State) : Machine := { m with pending := state :: m.pending }

/-- What a machine does next: an event, if any, and the machine after it. -/
abbrev Result := Option (MarkedEvent × Machine)

/-- An event at a place. -/
def emit (event : Event) (mark : Mark) (m : Machine) : Result := some (⟨event, mark⟩, m)

/-- A node that is left out. -/
def emptyNode (mark : Mark) (m : Machine) : Result :=
  emit (.scalar none ⟨"", .plain, none⟩) mark m

/-- The place after a sign of one character. -/
def afterSign (t : MarkedToken) : Mark := ⟨t.mark.index + 1, t.mark.line, t.mark.column + 1⟩

/-- The tag that a handle and a suffix stand for. -/
def resolveTag? (m : Machine) (handle : List Char) (suffix : TagText) : Option TagText :=
  if handle = [] then some suffix
  else (m.handles.find? fun h => h.1 = handle).map fun h => h.2 ++ suffix

/-- An anchor and a tag, in any order, and the machine after them; `none` if the handle of the
tag is not known. -/
def readProperties (m : Machine) : Option (NodeProperties × Machine) :=
  let tagged (properties : NodeProperties) (handle : List Char) (suffix : TagText)
      (m : Machine) :
      Option (NodeProperties × Machine) :=
    (m.resolveTag? handle suffix).map fun tag => ({ properties with tag := some tag }, m)
  match m.tokens with
  | ⟨.anchor name, _⟩ :: ⟨.tag handle suffix, _⟩ :: _ =>
    tagged { anchor := some name } handle suffix m.skip.skip
  | ⟨.tag handle suffix, _⟩ :: ⟨.anchor name, _⟩ :: _ =>
    tagged { anchor := some name } handle suffix m.skip.skip
  | ⟨.anchor name, _⟩ :: _ => some ({ anchor := some name }, m.skip)
  | ⟨.tag handle suffix, _⟩ :: _ => tagged {} handle suffix m.skip
  | _ => some ({}, m)

/-- The tag of a scalar that is written; a lone exclamation mark is none. -/
def scalarTag (tag : Option TagText) : Option TagText :=
  if tag = some ['!'.toUInt8] then none else tag

/-- A node.  Block collections occur only where `block` says so, and a sequence that is not
indented only where `indentless` does. -/
def readNode (block indentless : Bool) (m : Machine) : Result := do
  let start ← m.peek?
  match start.token with
  | .alias name => emit (.alias name) start.mark m.skip.pop
  | _ =>
    let (properties, m) ← m.readProperties
    let t ← m.peek?
    match t.token with
    | .scalar content style =>
      emit (.scalar properties.anchor ⟨String.ofList content, style, scalarTag properties.tag⟩)
        start.mark m.skip.pop
    | .flowSequenceStart =>
      emit (.sequenceStart properties) start.mark (m.goto .flowSequenceStart)
    | .flowMappingStart =>
      emit (.mappingStart properties) start.mark (m.goto .flowMappingStart)
    | token =>
      if indentless ∧ token = .blockEntry then
        emit (.sequenceStart properties) start.mark (m.goto .indentlessEntry)
      else if block ∧ token = .blockSequenceStart then
        emit (.sequenceStart properties) start.mark (m.goto .blockSequenceStart)
      else if block ∧ token = .blockMappingStart then
        emit (.mappingStart properties) start.mark (m.goto .blockMappingStart)
      else if properties ≠ {} then
        emit (.scalar properties.anchor ⟨"", .plain, properties.tag⟩) start.mark m.pop
      else none

/-- Directives in front of a document: at most one version, which has to be 1.1 or 1.2, and no
two tag directives for one handle. -/
def readDirectives (m : Machine) (version : Bool) (handles : List (List Char × TagText)) :
    List MarkedToken → Option Machine
  | ⟨.version major minor, _⟩ :: rest =>
    if version ∨ major ≠ 1 ∨ (minor ≠ 1 ∧ minor ≠ 2) then none
    else readDirectives m true handles rest
  | ⟨.tagDirective handle uri, _⟩ :: rest =>
    if handles.any fun h => h.1 = handle then none
    else readDirectives m version ((handle, uri) :: handles) rest
  | rest => some { m with tokens := rest, handles := handles ++ standardHandles }

/-- The start of a document that a line with hyphens announces, or the end of the stream. -/
def announcedDocument (m : Machine) (t : MarkedToken) : Result := do
  if t.token = .streamEnd then emit .streamEnd t.mark (m.skip.goto .finished)
  else
    let m ← m.readDirectives false [] m.tokens
    let t' ← m.peek?
    if t'.token = .documentStart then
      emit .documentStart t.mark ((m.skip.later .documentEnd).goto .documentContent)
    else none

/-- The end of a flow collection. -/
def closeFlow (m : Machine) (t : MarkedToken) (event : Event) : Result :=
  emit event t.mark m.skip.pop

/-- An entry of a flow sequence.  A key starts a mapping of a single pair. -/
def flowEntry (m : Machine) (t : MarkedToken) : Result :=
  match t.token with
  | .flowSequenceEnd => m.closeFlow t .sequenceEnd
  | .key => emit (.mappingStart {}) t.mark (m.skip.goto .flowPairKey)
  | _ => (m.later .flowSequenceEntry).readNode false false

/-- A key of a flow mapping; without a question mark it may lack a value. -/
def flowKey (m : Machine) (t : MarkedToken) : Result := do
  match t.token with
  | .flowMappingEnd => m.closeFlow t .mappingEnd
  | .key =>
    let m := m.skip
    let t ← m.peek?
    if t.token ∈ [.value, .flowEntry, .flowMappingEnd] then
      emptyNode t.mark (m.goto .flowMappingValue)
    else (m.later .flowMappingValue).readNode false false
  | _ => (m.later .flowMappingNoValue).readNode false false

/-- A node after the sign `t`, or an empty one if a token comes that no node starts with. -/
def afterBlockSign (m : Machine) (t : MarkedToken) (noNode : List Token) (next : State)
    (indentless : Bool) : Result := do
  let m := m.skip
  let t' ← m.peek?
  if t'.token ∈ noNode then emptyNode (afterSign t) (m.goto next)
  else (m.later next).readNode true indentless

/-- One event. -/
def step (m : Machine) : Result := do
  let t ← m.peek?
  match m.state with
  | .firstDocument =>
    match t.token with
    | .version _ _ | .tagDirective _ _ | .documentStart | .streamEnd => m.announcedDocument t
    | _ =>
      emit .documentStart t.mark
        (({ m with handles := standardHandles }.later .documentEnd).goto .blockNode)
  | .document =>
    let m := { m with tokens := m.tokens.dropWhile fun t => t.token = Token.documentEnd }
    m.announcedDocument (← m.peek?)
  | .documentContent =>
    match t.token with
    | .version _ _ | .tagDirective _ _ | .documentStart | .documentEnd | .streamEnd =>
      emptyNode t.mark m.pop
    | _ => m.readNode true false
  | .documentEnd =>
    let m := if t.token = .documentEnd then m.skip else m
    emit .documentEnd t.mark (m.goto .document)
  | .blockNode => m.readNode true false
  | .blockSequenceStart => blockEntry m.skip
  | .blockSequenceEntry => blockEntry m
  | .indentlessEntry =>
    if t.token = .blockEntry then
      m.afterBlockSign t [.blockEntry, .key, .value, .blockEnd] .indentlessEntry false
    else emit .sequenceEnd t.mark m.pop
  | .blockMappingStart => blockKey m.skip
  | .blockMappingKey => blockKey m
  | .blockMappingValue =>
    if t.token = .value then
      m.afterBlockSign t [.key, .value, .blockEnd] .blockMappingKey true
    else emptyNode t.mark (m.goto .blockMappingKey)
  | .flowSequenceStart =>
    let m := m.skip
    m.flowEntry (← m.peek?)
  | .flowSequenceEntry =>
    match t.token with
    | .flowSequenceEnd => m.closeFlow t .sequenceEnd
    | .flowEntry =>
      let m := m.skip
      m.flowEntry (← m.peek?)
    | _ => none
  | .flowPairKey =>
    if t.token ∈ [.value, .flowEntry, .flowSequenceEnd] then
      emptyNode (afterSign t) (m.skip.goto .flowPairValue)
    else (m.later .flowPairValue).readNode false false
  | .flowPairValue =>
    if t.token = .value then
      let m := m.skip
      let t ← m.peek?
      if t.token ∈ [.flowEntry, .flowSequenceEnd] then emptyNode t.mark (m.goto .flowPairEnd)
      else (m.later .flowPairEnd).readNode false false
    else emptyNode t.mark (m.goto .flowPairEnd)
  | .flowPairEnd => emit .mappingEnd t.mark (m.goto .flowSequenceEntry)
  | .flowMappingStart =>
    let m := m.skip
    m.flowKey (← m.peek?)
  | .flowMappingKey =>
    match t.token with
    | .flowMappingEnd => m.closeFlow t .mappingEnd
    | .flowEntry =>
      let m := m.skip
      m.flowKey (← m.peek?)
    | _ => none
  | .flowMappingValue =>
    if t.token = .value then
      let m := m.skip
      let t ← m.peek?
      if t.token ∈ [.flowEntry, .flowMappingEnd] then emptyNode t.mark (m.goto .flowMappingKey)
      else (m.later .flowMappingKey).readNode false false
    else emptyNode t.mark (m.goto .flowMappingKey)
  | .flowMappingNoValue => emptyNode t.mark (m.goto .flowMappingKey)
  | .finished => none
where
  /-- An entry of a block sequence, or its end. -/
  blockEntry (m : Machine) : Result := do
    let t ← m.peek?
    match t.token with
    | .blockEntry => m.afterBlockSign t [.blockEntry, .blockEnd] .blockSequenceEntry false
    | .blockEnd => emit .sequenceEnd t.mark m.skip.pop
    | _ => none
  /-- A key of a block mapping, or its end. -/
  blockKey (m : Machine) : Result := do
    let t ← m.peek?
    match t.token with
    | .key => m.afterBlockSign t [.key, .value, .blockEnd] .blockMappingValue true
    | .blockEnd => emit .mappingEnd t.mark m.skip.pop
    | _ => none

/-- The events of a machine, at most `bound` of them. -/
def events (m : Machine) : Nat → List MarkedEvent
  | 0 => []
  | bound + 1 =>
    match m.step with
    | some (event, next) => event :: next.events bound
    | none => []

end Machine

/-- The events of a list of tokens, up to the first token that is out of place.  They end with
the end of the stream if all tokens are in place.  Between two tokens there are never more than
a few events, so the bound is not reached. -/
def eventsOf (tokens : List MarkedToken) : List MarkedEvent :=
  Machine.events { tokens } (8 * (tokens.length + 1))

end BuzzerScript.Yaml

import BuzzerScript.Yaml.Event

/-!
# YAML documents

The first document of a stream, with its aliases replaced by what they refer to.  A
document can be looked at although the stream is malformed further on: it then consists
of what comes before.
-/

namespace BuzzerScript.Yaml

/-- The start of a node, or the end of a collection.  An alias is replaced by the start of the
node that it refers to, at that node's place. -/
structure Item where
  event : Event
  mark : Mark
  /-- The place of the alias, if there is one. -/
  aliasMark : Option Mark := none

/-- The first document of a stream. -/
structure Document where
  items : List Item
  /-- Whether the text of the document is well formed. -/
  isComplete : Bool
  /-- Whether the stream ends after the document. -/
  isLast : Bool

namespace Document

/-- The anchor of the node that an event starts. -/
def anchor? : Event → Option (List Char)
  | .scalar anchor _ => anchor
  | .sequenceStart properties => properties.anchor
  | .mappingStart properties => properties.anchor
  | _ => none

/-- The anchors of a document, and the nodes that they are set at.

An anchor has a number, the count of the different names before it.  When a name is set again
it gets a new number while the count of names stays the same, so two names may come to share a
number.  A number stands for the last node that got it. -/
structure Anchors where
  numbers : List (List Char × Nat) := []
  nodes : List (Nat × Item) := []

/-- Set an anchor at a node. -/
def Anchors.set (anchors : Anchors) (name : List Char) (item : Item) : Anchors :=
  let number := anchors.numbers.length
  { numbers := (name, number) :: anchors.numbers.filter (·.1 ≠ name)
    nodes := (number, item) :: anchors.nodes }

/-- The number that a name has at this place. -/
def Anchors.number? (anchors : Anchors) (name : List Char) : Option Nat :=
  (anchors.numbers.find? (·.1 = name)).map Prod.snd

/-- The node that a number stands for. -/
def Anchors.node? (anchors : Anchors) (number : Nat) : Option Item :=
  (anchors.nodes.find? (·.1 = number)).map Prod.snd

/-- The items of a document, those that are aliases with the number of their anchor, up to an
alias whose name is not set; the flag says whether there is none. -/
def collect (anchors : Anchors) : List MarkedEvent → List (Item × Option Nat) × Anchors × Bool
  | [] => ([], anchors, true)
  | ⟨event, mark⟩ :: rest =>
    let item : Item := { event, mark }
    match event with
    | .documentStart => collect anchors rest
    | .alias name =>
      match anchors.number? name with
      | none => ([], anchors, false)
      | some number =>
        let (items, last, known) := collect anchors rest
        ((item, some number) :: items, last, known)
    | _ =>
      let anchors :=
        match anchor? event with
        | some name => anchors.set name item
        | none => anchors
      let (items, last, known) := collect anchors rest
      ((item, none) :: items, last, known)

/-- Replace an alias by the node that its number stands for at the end of the document. -/
def resolve (anchors : Anchors) : Item × Option Nat → Item
  | (item, none) => item
  | (item, some number) =>
    match anchors.node? number with
    | some node => { node with aliasMark := some item.mark }
    | none => item

/-- Whether an event ends a document. -/
def isEnd (e : MarkedEvent) : Bool := e.event = .documentEnd || e.event = .streamEnd

/-- The first document of a text.  It has no items if the text holds no document. -/
def first (text : List Char) : Document :=
  let events := eventsOf (tokensOf text)
  let (entries, anchors, known) := collect {} (events.takeWhile (!isEnd ·))
  let items := entries.map (resolve anchors)
  match events.dropWhile (!isEnd ·) with
  | [] => { items, isComplete := false, isLast := true }
  | e :: rest =>
    { items
      isComplete := known
      isLast := e.event = .streamEnd || rest.head?.any fun e => e.event = .streamEnd }

end Document

end BuzzerScript.Yaml

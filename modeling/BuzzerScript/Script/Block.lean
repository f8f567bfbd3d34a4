import BuzzerScript.Script.Line

/-!
# Blocks of a script

The lines of a script fall into blocks, one for each track: the note lines before the first
header, and each header with the note lines up to the next one.  A script is what its
directives and its blocks say, and which fault is reported follows from the order of its lines.

These definitions say what a script means.  `Script.ofTokens` reads all lines in a single pass
and does not use them.

## Main definitions

* `Script.blocks`: the blocks of a list of lines.
* `Script.ofLines`: the script that lines say, whether or not there is a fault in them.
* `Script.firstFault?`: the fault that is reported.
-/

namespace BuzzerScript.Script

/-- The lines of one track. -/
structure Block where
  /-- The header; the lines before the first header have none. -/
  header : Option Line := none
  noteLines : List Line := []

namespace Block

/-- The melody of a block, line after line. -/
def melody (block : Block) : List MelodyToken := block.noteLines.flatMap lineMelody

/-- The name of the track, where `trackCount` tracks come before it. -/
def name (block : Block) (trackCount : Nat) : String :=
  match block.header with
  | none => implicitTrackName
  | some line => (headerName? line).getD ("unnamed_" ++ toString trackCount)

/-- The options of the track. -/
def options (block : Block) : List (String × SettingValue) :=
  (block.header.map headerPairs).getD []

/-- The track of a block, where `trackCount` tracks come before it. -/
def track (block : Block) (trackCount : Nat) : Track where
  name := block.name trackCount
  delayBeats := (block.options.filterMap Track.acceptedDelay?).getLast?.getD 0
  settings := Settings.lastAccepted block.options
  tokens := block.melody

end Block

/-- The blocks of lines, of which `current` is the first. -/
def blocksFrom (current : Block) : List Line → List Block
  | [] => [current]
  | line :: rest =>
    match lineKind line with
    | .header => current :: blocksFrom { header := some line } rest
    | .noteLine => blocksFrom { current with noteLines := current.noteLines ++ [line] } rest
    | _ => blocksFrom current rest

/-- The blocks of lines; the first one has no header and may be empty. -/
def blocks (lines : List Line) : List Block := blocksFrom {} lines

/-- The tracks of blocks, after `trackCount` others.  A block without melody has none. -/
def tracksFrom (trackCount : Nat) : List Block → List Track
  | [] => []
  | block :: rest =>
    if block.melody = [] then tracksFrom trackCount rest
    else block.track trackCount :: tracksFrom (trackCount + 1) rest

/-- The script that lines say. -/
def ofLines (lines : List Line) : Script where
  globals := Settings.lastAccepted
    ((lines.filter fun line => lineKind line = .directive).filterMap directivePair?)
  tracks := tracksFrom 0 (blocks lines)

/-! ## Faults -/

/-- The position of a line. -/
def linePosition (line : Line) : Position :=
  ((line.head?.map LocatedToken.position).getD ⟨1, 1⟩)

/-- A line that belongs to a block. -/
def isContent (line : Line) : Bool := lineKind line = .header || lineKind line = .noteLine

/-- The fault of a header without note lines, if lines end with one, other lines aside. -/
def silentTrack? (lines : List Line) : Option CompileError :=
  match (lines.filter isContent).getLast? with
  | none => none
  | some line =>
    if lineKind line = .header then
      let others := (blocks lines).dropLast
      let name := Block.name { header := some line } (tracksFrom 0 others).length
      some (.grammar (linePosition line) (.silentTrack name))
    else none

/-- The fault of a line that comes after the lines `before`. -/
def lineFault? (before : List Line) (line : Line) : Option CompileError :=
  match lineKind line with
  | .header => silentTrack? before
  | .directive =>
    if before.any isContent then some (.grammar (linePosition line) .directiveAfterContent)
    else none
  | .noteLine => malformedNote? line
  | .ignored => none

/-- The first fault of lines that come after the lines `before`, or of the end of them all. -/
def firstFaultFrom? (before : List Line) : List Line → Option CompileError
  | [] => silentTrack? before
  | line :: rest => (lineFault? before line).or (firstFaultFrom? (before ++ [line]) rest)

/-- The fault that is reported for lines. -/
def firstFault? (lines : List Line) : Option CompileError := firstFaultFrom? [] lines

end BuzzerScript.Script

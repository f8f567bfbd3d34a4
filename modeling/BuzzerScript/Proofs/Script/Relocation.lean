import BuzzerScript.Proofs.Script.Faults
import BuzzerScript.Proofs.Token.Joined

/-!
# Scripts do not depend on positions

The positions of tokens go into the errors that are reported and into nothing else.
So the same tokens at other positions make the same script, or fail with the same
error at its other position.
-/

namespace BuzzerScript.Script

/-- A line at other positions. -/
def relocateLine (f : Position → Position) (line : Line) : Line :=
  line.map (LocatedToken.relocate f)

/-- A block at other positions. -/
def Block.relocate (f : Position → Position) (block : Block) : Block where
  header := block.header.map (relocateLine f)
  noteLines := block.noteLines.map (relocateLine f)

variable (f : Position → Position)

/-! ## Lines -/

@[simp] theorem relocateLine_eq_nil_iff (line : Line) : relocateLine f line = [] ↔ line = [] :=
  List.map_eq_nil_iff

/-- The tokens of a line stay as they are. -/
@[simp] theorem map_token_relocateLine (line : Line) :
    (relocateLine f line).map LocatedToken.token = line.map LocatedToken.token := by
  rw [relocateLine, List.map_map]
  rfl

@[simp] theorem any_isNote_relocateLine (line : Line) :
    (relocateLine f line).any isNote = line.any isNote := by
  rw [relocateLine, List.any_map]
  rfl

@[simp] theorem lineKind_relocateLine (line : Line) :
    lineKind (relocateLine f line) = lineKind line := by
  simp only [lineKind, map_token_relocateLine, any_isNote_relocateLine]

@[simp] theorem isContent_relocateLine (line : Line) :
    isContent (relocateLine f line) = isContent line := by
  simp only [isContent, lineKind_relocateLine]

@[simp] theorem directivePair?_relocateLine (line : Line) :
    directivePair? (relocateLine f line) = directivePair? line := by
  simp only [directivePair?, map_token_relocateLine]

@[simp] theorem headerName?_relocateLine (line : Line) :
    headerName? (relocateLine f line) = headerName? line := by
  simp only [headerName?, map_token_relocateLine]

@[simp] theorem headerPairs_relocateLine (line : Line) :
    headerPairs (relocateLine f line) = headerPairs line := by
  simp only [headerPairs, headerName?_relocateLine, map_token_relocateLine]

@[simp] theorem lineMelody_relocateLine (line : Line) :
    lineMelody (relocateLine f line) = lineMelody line := by
  simp only [lineMelody, notesWithNumbers, map_token_relocateLine]

/-- A line of a kind has a first token, and its position is the one of that. -/
theorem linePosition_relocateLine {line : Line} (h : lineKind line ≠ .ignored) :
    linePosition (relocateLine f line) = f (linePosition line) := by
  cases line with
  | nil => exact absurd rfl h
  | cons t rest => rfl

theorem malformed?_relocate (t : LocatedToken) :
    malformed? (t.relocate f) = (malformed? t).map (CompileError.relocate f) := by
  obtain ⟨token, position⟩ := t
  cases token with
  | note text =>
    cases hs : NoteSymbol.ofChars? text.toList <;>
      simp [malformed?, LocatedToken.relocate, CompileError.relocate, hs]
  | _ => rfl

theorem malformedNote?_relocateLine (line : Line) :
    malformedNote? (relocateLine f line) =
      (malformedNote? line).map (CompileError.relocate f) := by
  have hfind : ∀ line, malformedNote? line = line.findSome? malformed? := fun _ => rfl
  rw [hfind, hfind, relocateLine, List.findSome?_map, List.map_findSome?]
  congr 1
  exact funext fun t => malformed?_relocate f t

theorem pieces_relocate (tokens : List LocatedToken) :
    pieces (tokens.map (LocatedToken.relocate f)) = (pieces tokens).map (relocateLine f) := by
  induction tokens with
  | nil => rfl
  | cons t rest ih =>
    rw [List.map_cons, pieces, pieces, ih, LocatedToken.token_relocate]
    by_cases h : t.token = .newline
    · rw [if_pos h, if_pos h]
      rfl
    · rw [if_neg h, if_neg h]
      cases pieces rest <;> rfl

theorem lines_relocate (tokens : List LocatedToken) :
    lines (tokens.map (LocatedToken.relocate f)) = (lines tokens).map (relocateLine f) := by
  rw [lines, pieces_relocate, List.filter_map, lines]
  congr 1
  refine List.filter_congr ?_
  intro line _
  simp

/-! ## Blocks -/

@[simp] theorem Block.melody_relocate (block : Block) :
    (block.relocate f).melody = block.melody := by
  simp [Block.melody, Block.relocate, List.flatMap_map]

@[simp] theorem Block.track_relocate (block : Block) (trackCount : Nat) :
    (block.relocate f).track trackCount = block.track trackCount := by
  obtain ⟨header, noteLines⟩ := block
  cases header <;>
    simp [Block.track, Block.name, Block.options, Block.melody, Block.relocate,
      List.flatMap_map]

theorem blocksFrom_relocate (current : Block) (lines : List Line) :
    blocksFrom (current.relocate f) (lines.map (relocateLine f)) =
      (blocksFrom current lines).map (Block.relocate f) := by
  induction lines generalizing current with
  | nil => rfl
  | cons line rest ih =>
    rw [List.map_cons, blocksFrom, blocksFrom, lineKind_relocateLine]
    cases lineKind line with
    | header =>
      rw [List.map_cons, ← ih]
      rfl
    | noteLine =>
      simp only [← ih]
      simp [Block.relocate]
    | _ => exact ih current

theorem blocks_relocate (lines : List Line) :
    blocks (lines.map (relocateLine f)) = (blocks lines).map (Block.relocate f) :=
  blocksFrom_relocate f {} lines

theorem tracksFrom_relocate (trackCount : Nat) (blocks : List Block) :
    tracksFrom trackCount (blocks.map (Block.relocate f)) = tracksFrom trackCount blocks := by
  induction blocks generalizing trackCount with
  | nil => rfl
  | cons block rest ih => simp [tracksFrom, ih]

/-- Lines at other positions say the same script. -/
theorem ofLines_relocate (lines : List Line) :
    ofLines (lines.map (relocateLine f)) = ofLines lines := by
  have hglobals : globalsOf (lines.map (relocateLine f)) = globalsOf lines := by
    simp only [globalsOf, List.filter_map, List.filterMap_map, Function.comp_def,
      lineKind_relocateLine, directivePair?_relocateLine]
  have htracks : tracksFrom 0 (blocks (lines.map (relocateLine f))) =
      tracksFrom 0 (blocks lines) := by
    rw [blocks_relocate, tracksFrom_relocate]
  rw [ofLines, htracks]
  exact congrArg (fun globals => Script.mk globals _) hglobals

/-! ## Faults -/

theorem silentFault_relocateLine {header : Line} (h : lineKind header = .header)
    (trackCount : Nat) :
    silentFault trackCount (relocateLine f header) =
      (silentFault trackCount header).relocate f := by
  have hposition : linePosition (relocateLine f header) = f (linePosition header) :=
    linePosition_relocateLine f (by simp [h])
  simp [silentFault, Block.name, hposition, CompileError.relocate]

theorem silentTrack?_relocate (lines : List Line) :
    silentTrack? (lines.map (relocateLine f)) =
      (silentTrack? lines).map (CompileError.relocate f) := by
  have hcontent : (lines.map (relocateLine f)).filter isContent =
      (lines.filter isContent).map (relocateLine f) := by
    simp only [List.filter_map, Function.comp_def, isContent_relocateLine]
  have hothers : tracksFrom 0 (blocks (lines.map (relocateLine f))).dropLast =
      tracksFrom 0 (blocks lines).dropLast := by
    rw [blocks_relocate, ← List.map_dropLast, tracksFrom_relocate]
  rw [silentTrack?, silentTrack?, hcontent, List.getLast?_map]
  simp only [hothers]
  cases (lines.filter isContent).getLast? with
  | none => rfl
  | some line =>
    by_cases h : lineKind line = .header
    · simp only [Option.map_some, lineKind_relocateLine, h, if_true]
      exact congrArg some
        (silentFault_relocateLine f h (tracksFrom 0 (blocks lines).dropLast).length)
    · simp [h]

theorem lineFault?_relocate (before : List Line) (line : Line) :
    lineFault? (before.map (relocateLine f)) (relocateLine f line) =
      (lineFault? before line).map (CompileError.relocate f) := by
  rw [lineFault?, lineFault?, lineKind_relocateLine]
  cases h : lineKind line with
  | header => exact silentTrack?_relocate f before
  | directive =>
    have hposition : linePosition (relocateLine f line) = f (linePosition line) :=
      linePosition_relocateLine f (by simp [h])
    have hcontent : (before.map (relocateLine f)).any isContent = before.any isContent := by
      simp only [List.any_map, Function.comp_def, isContent_relocateLine]
    simp only [hcontent, hposition]
    cases before.any isContent <;> rfl
  | noteLine => exact malformedNote?_relocateLine f line
  | ignored => rfl

theorem firstFaultFrom?_relocate (before rest : List Line) :
    firstFaultFrom? (before.map (relocateLine f)) (rest.map (relocateLine f)) =
      (firstFaultFrom? before rest).map (CompileError.relocate f) := by
  induction rest generalizing before with
  | nil => exact silentTrack?_relocate f before
  | cons line rest ih =>
    have hrest := ih (before ++ [line])
    rw [List.map_append, List.map_singleton] at hrest
    rw [List.map_cons, firstFaultFrom?, firstFaultFrom?, lineFault?_relocate, hrest]
    cases lineFault? before line <;> rfl

/-- **Tokens at other positions** make the same script, or fail with the same fault at
its other position. -/
theorem ofTokens_relocate (tokens : List LocatedToken) :
    ofTokens (tokens.map (LocatedToken.relocate f)) =
      (ofTokens tokens).mapError (CompileError.relocate f) := by
  have hfault := firstFaultFrom?_relocate f [] (lines tokens)
  rw [ofTokens_eq, ofTokens_eq, lines_relocate, ofLines_relocate]
  simp only [firstFault?]
  rw [List.map_nil] at hfault
  rw [hfault]
  cases firstFaultFrom? [] (lines tokens) <;> rfl

end BuzzerScript.Script

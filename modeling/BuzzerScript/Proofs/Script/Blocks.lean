import BuzzerScript.Script.Block
import Mathlib.Data.List.Induction

/-!
# Blocks, line after line

`Script.blocks` cuts lines into blocks from the front.  What is read next belongs to the last
of them, so here the last block is kept apart from the ones before it, and one more line either
extends it or opens a new one.
-/

namespace BuzzerScript.Script

/-- One more line: a header opens a block, and a note line goes to the last block. -/
def Block.extend (blocks : List Block × Block) (line : Line) : List Block × Block :=
  match lineKind line with
  | .header => (blocks.1 ++ [blocks.2], { header := some line })
  | .noteLine => (blocks.1, { blocks.2 with noteLines := blocks.2.noteLines ++ [line] })
  | _ => blocks

/-- The blocks before the last one, and the last one. -/
def splitBlocks (lines : List Line) : List Block × Block := lines.foldl Block.extend ([], {})

@[simp] theorem splitBlocks_nil : splitBlocks [] = ([], {}) := rfl

theorem splitBlocks_append (lines more : List Line) :
    splitBlocks (lines ++ more) = more.foldl Block.extend (splitBlocks lines) := by
  simp [splitBlocks]

theorem splitBlocks_append_singleton (lines : List Line) (line : Line) :
    splitBlocks (lines ++ [line]) = Block.extend (splitBlocks lines) line := by
  simp [splitBlocks]

theorem append_blocksFrom (lines : List Line) (closed : List Block) (current : Block) :
    closed ++ blocksFrom current lines =
      (lines.foldl Block.extend (closed, current)).1 ++
        [(lines.foldl Block.extend (closed, current)).2] := by
  induction lines generalizing closed current with
  | nil => rfl
  | cons line rest ih =>
    cases h : lineKind line <;> simp only [blocksFrom, List.foldl_cons, Block.extend, h, ← ih]
    simp

theorem blocks_eq (lines : List Line) :
    blocks lines = (splitBlocks lines).1 ++ [(splitBlocks lines).2] :=
  append_blocksFrom lines [] {}

theorem dropLast_blocks (lines : List Line) :
    (blocks lines).dropLast = (splitBlocks lines).1 := by
  simp [blocks_eq]

/-! ## The last block -/

theorem isContent_iff (line : Line) :
    isContent line = true ↔ lineKind line = .header ∨ lineKind line = .noteLine := by
  simp [isContent]

theorem isContent_of_header {line : Line} (h : lineKind line = .header) :
    isContent line = true :=
  (isContent_iff line).mpr (.inl h)

theorem isContent_of_noteLine {line : Line} (h : lineKind line = .noteLine) :
    isContent line = true :=
  (isContent_iff line).mpr (.inr h)

/-- A line that is no content leaves the blocks as they are. -/
theorem extend_of_not_content {line : Line} (h : isContent line = false)
    (blocks : List Block × Block) : Block.extend blocks line = blocks := by
  cases hk : lineKind line <;> simp_all [Block.extend, isContent]

theorem foldl_extend_of_not_content {lines : List Line}
    (h : ∀ line ∈ lines, isContent line = false) (blocks : List Block × Block) :
    lines.foldl Block.extend blocks = blocks := by
  induction lines with
  | nil => rfl
  | cons line rest ih =>
    rw [List.foldl_cons, extend_of_not_content (h line (by simp))]
    exact ih fun line hline => h line (by simp [hline])

/-- What is known of the last block: its lines are of the right kind, and the last of them is
the last line that belongs to a block at all. -/
structure IsLastBlock (lines : List Line) (block : Block) : Prop where
  header : ∀ line, block.header = some line → lineKind line = .header
  noteLines : ∀ line ∈ block.noteLines, lineKind line = .noteLine
  last : (lines.filter isContent).getLast? = block.noteLines.getLast?.or block.header

theorem isLastBlock (lines : List Line) : IsLastBlock lines (splitBlocks lines).2 := by
  induction lines using List.reverseRecOn with
  | nil => exact ⟨by simp, by simp, rfl⟩
  | append_singleton lines line ih =>
    rw [splitBlocks_append_singleton]
    cases h : lineKind line with
    | header =>
      have hc := isContent_of_header h
      exact ⟨by simp [Block.extend, h], by simp [Block.extend, h],
        by simp [Block.extend, h, hc]⟩
    | noteLine =>
      have hc := isContent_of_noteLine h
      refine ⟨?_, ?_, by simp [Block.extend, h, hc]⟩
      · simpa [Block.extend, h] using ih.header
      · intro earlier hearlier
        simp only [Block.extend, h, List.mem_append, List.mem_singleton] at hearlier
        rcases hearlier with hearlier | rfl
        · exact ih.noteLines earlier hearlier
        · exact h
    | directive =>
      have hc : isContent line = false := by simp [isContent, h]
      rw [extend_of_not_content hc]
      exact ⟨ih.header, ih.noteLines, by simp [hc, ih.last]⟩
    | ignored =>
      have hc : isContent line = false := by simp [isContent, h]
      rw [extend_of_not_content hc]
      exact ⟨ih.header, ih.noteLines, by simp [hc, ih.last]⟩

/-! ## Silent headers -/

/-- The fault of a header that ends lines, where `trackCount` tracks come before it. -/
def silentFault (trackCount : Nat) (header : Line) : CompileError :=
  .grammar (linePosition header)
    (.silentTrack (Block.name { header := some header } trackCount))

/-- The fault of a block that ends here. -/
def Block.silent? (trackCount : Nat) (block : Block) : Option CompileError :=
  match block.header, block.noteLines with
  | some header, [] => some (silentFault trackCount header)
  | _, _ => none

theorem silentTrack?_eq (lines : List Line) :
    silentTrack? lines =
      (splitBlocks lines).2.silent? (tracksFrom 0 (splitBlocks lines).1).length := by
  have hlast := isLastBlock lines
  rw [silentTrack?, hlast.last, dropLast_blocks]
  cases hnotes : (splitBlocks lines).2.noteLines using List.reverseRecOn with
  | nil =>
    cases hheader : (splitBlocks lines).2.header with
    | none => simp [Block.silent?, hheader, hnotes]
    | some line =>
      simp [Block.silent?, hheader, hnotes, hlast.header line hheader, silentFault]
  | append_singleton earlier line _ =>
    have hkind : lineKind line = .noteLine := hlast.noteLines line (by simp [hnotes])
    simp [Block.silent?, hnotes, hkind]

/-! ## Tracks -/

theorem tracksFrom_append (trackCount : Nat) (closed more : List Block) :
    tracksFrom trackCount (closed ++ more) =
      tracksFrom trackCount closed ++
        tracksFrom (trackCount + (tracksFrom trackCount closed).length) more := by
  induction closed generalizing trackCount with
  | nil => rfl
  | cons block rest ih =>
    by_cases h : block.melody = []
    · simp [tracksFrom, h, ih]
    · simp [tracksFrom, h, ih, Nat.add_assoc, Nat.add_comm 1]

end BuzzerScript.Script

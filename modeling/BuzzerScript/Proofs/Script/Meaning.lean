import BuzzerScript.Proofs.Script.Blocks
import BuzzerScript.Proofs.Script.LineReader

/-!
# The script that tokens make

Reading keeps a draft, and the draft at any time says the same as the lines read so far: its
globals are those of the directives, its tracks those of the blocks before the last one, and
its current track is the one of the last block.  One more line keeps it so unless the line has
a fault, and in the end the draft says what all the lines say.

## Main definitions

* `Script.draftOf`: the draft that lines lead to.

## Main statements

* `Script.readLine_draftOf`: one more line.
* `Script.ofTokens_eq`: tokens make the script of their lines, or fail with the first fault.
* `Script.ofTokens_eq_ok_iff`: the scripts that tokens make.
-/

namespace BuzzerScript.Script

/-! ## The current track -/

/-- The track of the last block while it is being read.  Before the first header and the first
note line there is none. -/
def Block.open? (trackCount : Nat) (block : Block) : Option OpenTrack :=
  if block.header = none ∧ block.noteLines = [] then none
  else
    some
      { track := block.track trackCount
        header := block.header.map linePosition
        hasNoteLines := !block.noteLines.isEmpty }

/-- To finish the track of a block is to add it to the tracks, unless its header is silent. -/
theorem close_eq (draft : Draft) {block : Block}
    (h : draft.current = block.open? draft.script.tracks.length) :
    draft.close =
      match block.silent? draft.script.tracks.length with
      | some e => .error e
      | none => .ok
          { draft with
            script := { draft.script with
              tracks := draft.script.tracks ++ tracksFrom draft.script.tracks.length [block] }
            current := none } := by
  obtain ⟨header, noteLines⟩ := block
  rw [Draft.close, h]
  cases noteLines with
  | nil =>
    cases header with
    | none =>
      cases draft
      simp_all [Block.open?, Block.silent?, tracksFrom, Block.melody]
    | some line => rfl
  | cons note rest =>
    by_cases hm : Block.melody { header, noteLines := note :: rest } = [] <;>
      cases header <;>
      simp [Block.open?, Block.silent?, tracksFrom, Block.track, hm]

/-- To add a line to the melody of a block's track is to add it to the block. -/
theorem addMelody_eq (draft : Draft) {block : Block}
    (h : draft.current = block.open? draft.script.tracks.length) (line : Line) :
    draft.addMelody (lineMelody line) =
      { draft with
        current := Block.open? draft.script.tracks.length
          { block with noteLines := block.noteLines ++ [line] }
        contentStarted := true } := by
  obtain ⟨header, noteLines⟩ := block
  rw [Draft.addMelody, h]
  by_cases hnone : header = none ∧ noteLines = []
  · obtain ⟨rfl, rfl⟩ := hnone
    simp [Block.open?, Block.track, Block.name, Block.options, Block.melody]
  · have hsome : ¬ (header = none ∧ noteLines ++ [line] = []) := by simp
    simp only [Block.open?, if_neg hnone, if_neg hsome, Option.getD_some]
    simp [Block.track, Block.name, Block.options, Block.melody]

/-! ## The draft of lines -/

/-- The settings of the directives among lines. -/
def globalsOf (lines : List Line) : Settings :=
  Settings.lastAccepted
    ((lines.filter fun line => lineKind line = .directive).filterMap directivePair?)

/-- The draft that lines lead to, if there is no fault in them. -/
def draftOf (lines : List Line) : Draft where
  script := { globals := globalsOf lines, tracks := tracksFrom 0 (splitBlocks lines).1 }
  current := (splitBlocks lines).2.open? (tracksFrom 0 (splitBlocks lines).1).length
  contentStarted := lines.any isContent

theorem globalsOf_append_singleton (lines : List Line) (line : Line) :
    globalsOf (lines ++ [line]) =
      if lineKind line = .directive then
        match directivePair? line with
        | some (key, value) => (globalsOf lines).apply key value
        | none => globalsOf lines
      else globalsOf lines := by
  by_cases h : lineKind line = .directive
  · cases hp : directivePair? line with
    | none => simp [globalsOf, h, hp]
    | some pair => simp [globalsOf, h, hp, Settings.lastAccepted_append_singleton]
  · simp [globalsOf, h]

/-- At the end of the lines the last track is finished. -/
theorem close_draftOf (lines : List Line) :
    (draftOf lines).close =
      match silentTrack? lines with
      | some e => .error e
      | none => .ok
          { script := ofLines lines, current := none,
            contentStarted := lines.any isContent } := by
  rw [close_eq (draftOf lines) rfl, silentTrack?_eq]
  have htracks := tracksFrom_append 0 (splitBlocks lines).1 [(splitBlocks lines).2]
  rw [← blocks_eq, Nat.zero_add] at htracks
  simp only [draftOf, ← htracks]
  rfl

theorem finish_draftOf (lines : List Line) :
    (draftOf lines).finish =
      match silentTrack? lines with
      | some e => .error e
      | none => .ok (ofLines lines) := by
  rw [Draft.finish, close_draftOf]
  cases silentTrack? lines <;> rfl

theorem draftOf_append_singleton (lines : List Line) (line : Line) :
    draftOf (lines ++ [line]) =
      let blocks := Block.extend (splitBlocks lines) line
      { script := { globals := globalsOf (lines ++ [line]), tracks := tracksFrom 0 blocks.1 }
        current := blocks.2.open? (tracksFrom 0 blocks.1).length
        contentStarted := lines.any isContent || isContent line } := by
  simp [draftOf, splitBlocks_append_singleton]

/-- A header finishes the last track and opens another one. -/
theorem readLine_header {line : Line} (h : lineKind line = .header) (lines : List Line) :
    (draftOf lines).readLine line =
      match silentTrack? lines with
      | some e => .error e
      | none => .ok (draftOf (lines ++ [line])) := by
  rw [Draft.readLine, h, close_draftOf, draftOf_append_singleton, isContent_of_header h,
    globalsOf_append_singleton, Block.extend, h]
  cases silentTrack? lines with
  | some e => rfl
  | none =>
    rw [Bool.or_true]
    simp only [← blocks_eq]
    rfl

/-- A directive changes the globals, unless there is content before it. -/
theorem readLine_directive {line : Line} (h : lineKind line = .directive) (lines : List Line) :
    (draftOf lines).readLine line =
      if lines.any isContent then .error (.grammar (linePosition line) .directiveAfterContent)
      else .ok (draftOf (lines ++ [line])) := by
  have hc : isContent line = false := by simp [isContent, h]
  rw [Draft.readLine, h, draftOf_append_singleton, hc, globalsOf_append_singleton,
    extend_of_not_content hc, if_pos h, Bool.or_false]
  by_cases hcontent : lines.any isContent = true
  · simp only [draftOf, hcontent, if_true]
  · simp only [draftOf, hcontent]
    cases directivePair? line <;> rfl

/-- A note line goes to the last track, unless it has a malformed note. -/
theorem readLine_noteLine {line : Line} (h : lineKind line = .noteLine) (lines : List Line) :
    (draftOf lines).readLine line =
      match malformedNote? line with
      | some e => .error e
      | none => .ok (draftOf (lines ++ [line])) := by
  rw [Draft.readLine, h, draftOf_append_singleton, isContent_of_noteLine h,
    globalsOf_append_singleton, Block.extend, h, addMelody_eq (draftOf lines) rfl]
  cases malformedNote? line with
  | some e => rfl
  | none =>
    rw [Bool.or_true]
    rfl

/-- Any other line changes nothing. -/
theorem readLine_ignored {line : Line} (h : lineKind line = .ignored) (lines : List Line) :
    (draftOf lines).readLine line = .ok (draftOf (lines ++ [line])) := by
  have hc : isContent line = false := by simp [isContent, h]
  rw [Draft.readLine, h, draftOf_append_singleton, hc, globalsOf_append_singleton,
    extend_of_not_content hc, Bool.or_false, h]
  rfl

/-- **One more line**: the draft stays the one of the lines read so far, or the
line has a fault. -/
theorem readLine_draftOf (lines : List Line) (line : Line) :
    (draftOf lines).readLine line =
      match lineFault? lines line with
      | some e => .error e
      | none => .ok (draftOf (lines ++ [line])) := by
  rw [lineFault?]
  cases h : lineKind line with
  | header => exact readLine_header h lines
  | directive =>
    rw [readLine_directive h]
    split <;> rfl
  | noteLine => exact readLine_noteLine h lines
  | ignored => exact readLine_ignored h lines

/-- Reading lines after others. -/
theorem foldlM_readLine_draftOf (before rest : List Line) :
    (rest.foldlM Draft.readLine (draftOf before)).bind Draft.finish =
      match firstFaultFrom? before rest with
      | some e => .error e
      | none => .ok (ofLines (before ++ rest)) := by
  induction rest generalizing before with
  | nil =>
    rw [List.append_nil]
    exact finish_draftOf before
  | cons line rest ih =>
    rw [List.foldlM_cons, readLine_draftOf, firstFaultFrom?]
    cases lineFault? before line with
    | some e => rfl
    | none =>
      have hrest := ih (before ++ [line])
      rw [List.append_assoc, List.singleton_append] at hrest
      exact hrest

theorem draftOf_nil : draftOf [] = {} := rfl

/-- Tokens make the script of their lines, or fail with the first fault of these. -/
theorem ofTokens_eq (tokens : List LocatedToken) :
    ofTokens tokens =
      match firstFault? (lines tokens) with
      | some e => .error e
      | none => .ok (ofLines (lines tokens)) := by
  rw [ofTokens, Draft.read_eq_foldlM, ← draftOf_nil]
  exact foldlM_readLine_draftOf [] (lines tokens)

theorem ofTokens_of_free {tokens : List LocatedToken} (h : firstFault? (lines tokens) = none) :
    ofTokens tokens = .ok (ofLines (lines tokens)) := by
  rw [ofTokens_eq, h]

theorem free_of_ofTokens {tokens : List LocatedToken} {script : Script}
    (h : ofTokens tokens = .ok script) :
    firstFault? (lines tokens) = none ∧ ofLines (lines tokens) = script := by
  rw [ofTokens_eq] at h
  cases hfault : firstFault? (lines tokens) with
  | some e => simp [hfault] at h
  | none => exact ⟨rfl, by simpa [hfault] using h⟩

/-- Tokens make a script exactly if there is no fault in their lines. -/
theorem exists_ofTokens_iff (tokens : List LocatedToken) :
    (∃ script, ofTokens tokens = .ok script) ↔ firstFault? (lines tokens) = none :=
  ⟨fun ⟨_, h⟩ => (free_of_ofTokens h).1, fun h => ⟨_, ofTokens_of_free h⟩⟩

/-- A text makes the script of its tokens. -/
theorem ofString_eq_ok_iff {source : String} {script : Script} :
    ofString source = .ok script ↔
      ∃ tokens, tokenize source = .ok tokens ∧ ofTokens tokens = .ok script := by
  rw [ofString]
  cases tokenize source <;> simp [Except.bind]

/-- **What is read is what the lines say.**  Reading succeeds if no line has a fault, and then
the globals come from the directives, and the tracks from the blocks that have a melody. -/
theorem ofTokens_eq_ok_iff (tokens : List LocatedToken) (script : Script) :
    ofTokens tokens = .ok script ↔
      firstFault? (lines tokens) = none ∧ script = ofLines (lines tokens) := by
  rw [ofTokens_eq]
  cases firstFault? (lines tokens) with
  | some e => simp
  | none => simp [eq_comm]

end BuzzerScript.Script

import BuzzerScript.Proofs.Script.Relocation

/-!
# Scripts one below the other

A script may be written below another one if it starts with a header.  The header finishes the
last track of the script above, as its end would, and from there on nothing is left of that
script but the number of its tracks, from which nameless tracks take their names.
-/

namespace BuzzerScript.Script

/-! ## Lines -/

theorem pieces_append_newline (upper : List LocatedToken) {t : LocatedToken}
    (ht : t.token = .newline) (lower : List LocatedToken) :
    pieces (upper ++ t :: lower) = pieces upper ++ pieces lower := by
  induction upper with
  | nil => simp [pieces, ht]
  | cons s upper ih =>
    rw [List.cons_append, pieces, pieces, ih]
    obtain ⟨later, hpieces, -⟩ := exists_pieces upper
    by_cases hs : s.token = .newline
    · simp [hs]
    · simp [hs, hpieces]

/-- The lines above a line end and the lines below it. -/
theorem lines_append_newline (upper : List LocatedToken) {t : LocatedToken}
    (ht : t.token = .newline) (lower : List LocatedToken) :
    lines (upper ++ t :: lower) = lines upper ++ lines lower := by
  rw [lines, pieces_append_newline upper ht, List.filter_append, lines, lines]

/-! ## Blocks -/

section Header

variable {header : Line} (hheader : lineKind header = .header)
include hheader

/-- A header starts a block of its own. -/
theorem blocksFrom_append_header (current : Block) (upper lower : List Line) :
    blocksFrom current (upper ++ header :: lower) =
      blocksFrom current upper ++ blocksFrom { header := some header } lower := by
  induction upper generalizing current with
  | nil => simp [blocksFrom, hheader]
  | cons line upper ih =>
    rw [List.cons_append, blocksFrom, blocksFrom]
    cases lineKind line <;> simp [ih]

theorem blocks_header (lower : List Line) :
    blocks (header :: lower) = {} :: blocksFrom { header := some header } lower := by
  simp [blocks, blocksFrom, hheader]

/-- The last block does not depend on what stands above its header. -/
theorem snd_splitBlocks_append_header (upper lower : List Line) :
    (splitBlocks (upper ++ header :: lower)).2 = (splitBlocks (header :: lower)).2 := by
  obtain ⟨closed, last, hblocks⟩ :
      ∃ closed last, blocksFrom { header := some header } lower = closed ++ [last] :=
    ⟨_, _, append_blocksFrom lower [] { header := some header }⟩
  have hupper := blocksFrom_append_header hheader {} upper lower
  have halone := blocks_header hheader lower
  rw [← blocks, blocks_eq, hblocks, ← List.append_assoc] at hupper
  rw [blocks_eq, hblocks, ← List.cons_append] at halone
  rw [(List.append_inj' hupper rfl).2 |> List.singleton_inj.mp,
    (List.append_inj' halone rfl).2 |> List.singleton_inj.mp]

/-! ## Faults -/

omit hheader in
/-- Whether a block is silent does not depend on the tracks before it. -/
theorem Block.silent?_eq_none_iff (block : Block) (trackCount : Nat) :
    block.silent? trackCount = none ↔ block.header = none ∨ block.noteLines ≠ [] := by
  obtain ⟨header, noteLines⟩ := block
  cases header <;> cases noteLines <;> simp [Block.silent?]

theorem silentTrack?_append_header (upper lower : List Line) :
    silentTrack? (upper ++ header :: lower) = none ↔
      silentTrack? (header :: lower) = none := by
  rw [silentTrack?_eq, silentTrack?_eq, Block.silent?_eq_none_iff, Block.silent?_eq_none_iff,
    snd_splitBlocks_append_header hheader]

theorem lineFault?_append_header (upper lower : List Line) (line : Line) :
    lineFault? (upper ++ header :: lower) line = none ↔
      lineFault? (header :: lower) line = none := by
  have hcontent := isContent_of_header hheader
  rw [lineFault?, lineFault?]
  cases lineKind line with
  | header => exact silentTrack?_append_header hheader upper lower
  | directive => simp [hcontent]
  | _ => rfl

/-- Below a header there are the same faults, whatever stands above it. -/
theorem firstFaultFrom?_append_header (upper before rest : List Line) :
    firstFaultFrom? (upper ++ header :: before) rest = none ↔
      firstFaultFrom? (header :: before) rest = none := by
  induction rest generalizing before with
  | nil => exact silentTrack?_append_header hheader upper before
  | cons line rest ih =>
    have hrest := ih (before ++ [line])
    rw [firstFaultFrom?, firstFaultFrom?, Option.or_eq_none_iff, Option.or_eq_none_iff,
      lineFault?_append_header hheader, List.append_assoc, List.cons_append, hrest]

/-- A header finds the fault that the end would find in its place. -/
theorem firstFaultFrom?_header (before upper lower : List Line) :
    firstFaultFrom? before (upper ++ header :: lower) = none ↔
      firstFaultFrom? before upper = none ∧
        firstFaultFrom? (before ++ upper ++ [header]) lower = none := by
  induction upper generalizing before with
  | nil => simp [firstFaultFrom?, lineFault?, hheader]
  | cons line upper ih =>
    rw [List.cons_append, firstFaultFrom?, firstFaultFrom?, Option.or_eq_none_iff,
      Option.or_eq_none_iff, ih, and_assoc, List.append_assoc before, List.singleton_append]

/-- Lines with a header among them are free of faults if the lines above the header are, and
the lines from the header on. -/
theorem firstFault?_append_header (upper lower : List Line) :
    firstFault? (upper ++ header :: lower) = none ↔
      firstFault? upper = none ∧ firstFault? (header :: lower) = none := by
  have halone := firstFaultFrom?_header hheader [] [] lower
  have hnothing : firstFaultFrom? [] [] = none := rfl
  rw [firstFault?, firstFaultFrom?_header hheader, firstFault?, firstFault?,
    ← List.nil_append (header :: lower), halone]
  simp only [hnothing, true_and, List.nil_append, List.append_nil]
  rw [firstFaultFrom?_append_header hheader]

/-- Below a header that is free of faults there is no directive. -/
theorem lineKind_ne_directive {before rest : List Line}
    (h : firstFaultFrom? (header :: before) rest = none) :
    ∀ line ∈ rest, lineKind line ≠ .directive := by
  induction rest generalizing before with
  | nil => simp
  | cons line rest ih =>
    rw [firstFaultFrom?, Option.or_eq_none_iff] at h
    intro other hother
    rcases List.mem_cons.mp hother with rfl | hother
    · intro hkind
      simp [lineFault?, hkind, isContent_of_header hheader] at h
    · exact ih h.2 other hother

/-! ## Tracks -/

/-- The globals are those of the lines above the header. -/
theorem globalsOf_append_header {lower : List Line}
    (hfree : firstFault? (header :: lower) = none) (upper : List Line) :
    globalsOf (upper ++ header :: lower) = globalsOf upper := by
  have hrest : firstFaultFrom? [header] lower = none := by
    have halone := firstFaultFrom?_header hheader [] [] lower
    exact (halone.mp hfree).2
  have hlower : (header :: lower).filter (fun line => lineKind line = .directive) = [] := by
    rw [List.filter_eq_nil_iff]
    intro line hline
    rcases List.mem_cons.mp hline with rfl | hline
    · simp [hheader]
    · simpa using lineKind_ne_directive hheader hrest line hline
  rw [globalsOf, List.filter_append, hlower, List.append_nil, globalsOf]

/-- The tracks of both parts, with the globals of the upper one. -/
theorem ofLines_append_header {lower : List Line}
    (hfree : firstFault? (header :: lower) = none) (upper : List Line) :
    ofLines (upper ++ header :: lower) =
      { globals := (ofLines upper).globals
        tracks := (ofLines upper).tracks ++ tracksFrom (ofLines upper).tracks.length
          (blocksFrom { header := some header } lower) } := by
  have htracks : tracksFrom 0 (blocks (upper ++ header :: lower)) =
      tracksFrom 0 (blocks upper) ++ tracksFrom (tracksFrom 0 (blocks upper)).length
        (blocksFrom { header := some header } lower) := by
    rw [blocks, blocksFrom_append_header hheader, tracksFrom_append, Nat.zero_add, blocks]
  rw [ofLines, htracks]
  exact congrArg (fun globals => Script.mk globals _)
    (globalsOf_append_header hheader hfree upper)

theorem tracks_ofLines_header (lower : List Line) :
    (ofLines (header :: lower)).tracks =
      tracksFrom 0 (blocksFrom { header := some header } lower) := by
  rw [ofLines, blocks_header hheader]
  rfl

end Header

/-- The headers of the tracks that lines make, in their order.  The track of the note lines
before the first header has none. -/
def trackHeaders (lines : List Line) : List (Option Line) :=
  ((blocks lines).filter fun block => block.melody ≠ []).map Block.header

/-- The tracks of blocks one by one: each block with a melody has one, and its number is
counted from the tracks before. -/
theorem getElem?_tracksFrom (trackCount : Nat) (blocks : List Block) (k : Nat) :
    (tracksFrom trackCount blocks)[k]? =
      (blocks.filter fun block => block.melody ≠ [])[k]?.map fun block =>
        block.track (trackCount + k) := by
  induction blocks generalizing trackCount k with
  | nil => rfl
  | cons block rest ih =>
    by_cases h : block.melody = []
    · simp [tracksFrom, h, ih]
    · cases k with
      | zero => simp [tracksFrom, h]
      | succ k => simp [tracksFrom, h, ih, Nat.add_assoc, Nat.add_comm 1]

theorem length_tracksFrom (trackCount : Nat) (blocks : List Block) :
    (tracksFrom trackCount blocks).length =
      (blocks.filter fun block => block.melody ≠ []).length := by
  induction blocks generalizing trackCount with
  | nil => rfl
  | cons block rest ih => by_cases h : block.melody = [] <;> simp [tracksFrom, h, ih]

/-- Below a header every block has a header. -/
theorem exists_header_of_mem_blocksFrom {current : Block} {lines : List Line}
    (hcurrent : current.header ≠ none) :
    ∀ block ∈ blocksFrom current lines, block.header ≠ none := by
  induction lines generalizing current with
  | nil => simpa [blocksFrom] using hcurrent
  | cons line rest ih =>
    rw [blocksFrom]
    cases lineKind line with
    | header => simpa [hcurrent] using ih (by simp)
    | noteLine => exact ih hcurrent
    | _ => exact ih hcurrent

/-! ## Names -/

/-- A name in the header does not depend on the tracks before. -/
theorem Block.track_of_named {block : Block} {header : Line} {name : String}
    (hheader : block.header = some header) (hname : headerName? header = some name)
    (trackCount other : Nat) :
    (block.track trackCount).name = name ∧ block.track other = block.track trackCount := by
  simp [Block.track, Block.name, hheader, hname]

/-- Without a name in the header the track takes its number for one. -/
theorem Block.track_of_unnamed {block : Block} {header : Line}
    (hheader : block.header = some header) (hname : headerName? header = none)
    (trackCount other : Nat) :
    (block.track trackCount).name = "unnamed_" ++ toString trackCount ∧
      block.track other =
        { block.track trackCount with name := "unnamed_" ++ toString other } := by
  simp [Block.track, Block.name, hheader, hname]

/-! ## Texts -/

/-- A text that starts with the track sign is read as tokens that do. -/
theorem exists_tokenize_track {source : String} (h : trackWord <+: source.toList)
    {tokens : List LocatedToken} (htokens : tokenize source = .ok tokens) :
    ∃ position rest, tokens = ⟨.track, position⟩ :: rest := by
  obtain ⟨rest, hsource⟩ := h
  have hlexeme : IsLexeme .track trackWord rest :=
    (isLongest_sign .track fun _ => Iff.rfl).isLexeme (c := '@') rfl rfl (by decide)
  have hstep := Cursor.step_lexeme hlexeme (.track trackWord) 0 ⟨1, 1⟩
  rw [hsource] at hstep
  rw [tokenize, Cursor.start, Cursor.tokens_of_token hstep] at htokens
  obtain ⟨more, -, rfl⟩ := Cursor.exists_of_map_eq_ok htokens
  exact ⟨_, more, rfl⟩

/-- Such tokens start with the line of a header. -/
theorem exists_lines_track (position : Position) (rest : List LocatedToken) :
    ∃ header later, lines (⟨.track, position⟩ :: rest) = header :: later ∧
      lineKind header = .header := by
  refine ⟨_, _, lines_cons (by simp) rest, ?_⟩
  rw [firstLine_cons (by simp), lineKind_track]

section Joined

variable {upper lower : List LocatedToken} {lineEnd : LocatedToken} {header : Line}
  {later : List Line} (hend : lineEnd.token = .newline)
  (hlower : lines lower = header :: later)
  (hheader : lineKind header = .header) (f : Position → Position)
include hend hlower hheader

omit hheader in
theorem lines_joined :
    lines (upper ++ lineEnd :: lower.map (LocatedToken.relocate f)) =
      lines upper ++ relocateLine f header :: later.map (relocateLine f) := by
  rw [lines_append_newline upper hend, lines_relocate, hlower, List.map_cons]

theorem firstFault?_joined :
    firstFault? (lines (upper ++ lineEnd :: lower.map (LocatedToken.relocate f))) = none ↔
      firstFault? (lines upper) = none ∧ firstFault? (lines lower) = none := by
  have hkind : lineKind (relocateLine f header) = .header := by
    rw [lineKind_relocateLine, hheader]
  have hrelocate := firstFaultFrom?_relocate f [] (header :: later)
  rw [List.map_nil, List.map_cons] at hrelocate
  rw [lines_joined hend hlower, firstFault?_append_header hkind, hlower, firstFault?,
    firstFault?, firstFault?, hrelocate, Option.map_eq_none_iff]

theorem ofLines_joined (hfree : firstFault? (lines lower) = none) :
    ofLines (lines (upper ++ lineEnd :: lower.map (LocatedToken.relocate f))) =
      { globals := (ofLines (lines upper)).globals
        tracks := (ofLines (lines upper)).tracks ++
          tracksFrom (ofLines (lines upper)).tracks.length
            (blocksFrom { header := some header } later) } := by
  have hkind : lineKind (relocateLine f header) = .header := by
    rw [lineKind_relocateLine, hheader]
  have hrelocate := firstFaultFrom?_relocate f [] (header :: later)
  rw [hlower, firstFault?] at hfree
  rw [hfree, List.map_nil, List.map_cons, Option.map_none] at hrelocate
  have hblocks : blocksFrom { header := some (relocateLine f header) }
      (later.map (relocateLine f)) =
      (blocksFrom { header := some header } later).map (Block.relocate f) :=
    blocksFrom_relocate f { header := some header } later
  rw [lines_joined hend hlower, ofLines_append_header hkind hrelocate, hblocks,
    tracksFrom_relocate]

end Joined

/-- The tokens of a text that starts with a header, and the header. -/
theorem exists_lines_of_tokenize {source : String} (h : trackWord <+: source.toList)
    {tokens : List LocatedToken} (htokens : tokenize source = .ok tokens) :
    ∃ header later, lines tokens = header :: later ∧ lineKind header = .header := by
  obtain ⟨position, rest, rfl⟩ := exists_tokenize_track h htokens
  exact exists_lines_track position rest

/-- Two texts make the script of the tokens of both, the lower ones further down. -/
theorem ofString_joined_eq {first second : String} {firstTokens tokens : List LocatedToken}
    (hfirst : tokenize first = .ok firstTokens) (htokens : tokenize second = .ok tokens) :
    ofString (first ++ "\n" ++ second) =
      ofTokens (firstTokens ++ ⟨.newline, Position.atEnd first.toList⟩ ::
        tokens.map (LocatedToken.relocate
          (Position.below (1 + first.toList.count '\n')))) := by
  rw [ofString, tokenize_joined, hfirst, htokens]
  rfl

/-- Two texts can be read, one below the other, exactly if each of them can. -/
theorem exists_ofString_joined_iff {second : String} (hsecond : trackWord <+: second.toList)
    (first : String) :
    (∃ script, ofString (first ++ "\n" ++ second) = .ok script) ↔
      (∃ upper, ofString first = .ok upper) ∧ ∃ lower, ofString second = .ok lower := by
  cases hfirst : tokenize first with
  | error e => simp [ofString, tokenize_joined, hfirst, Except.bind]
  | ok firstTokens =>
    cases htokens : tokenize second with
    | error e =>
      simp [ofString, tokenize_joined, htokens, hfirst, Except.bind, Except.map,
        Except.mapError, relocated]
    | ok tokens =>
      obtain ⟨header, later, hlines, hheader⟩ := exists_lines_of_tokenize hsecond htokens
      rw [ofString_joined_eq hfirst htokens, exists_ofTokens_iff,
        firstFault?_joined rfl hlines hheader, ← exists_ofTokens_iff, ← exists_ofTokens_iff,
        ofString, ofString, hfirst, htokens]
      rfl

/-- The script that both texts make. -/
theorem ofString_joined {first second : String} {tokens : List LocatedToken} {header : Line}
    {later : List Line} {upper lower : Script} (hupper : ofString first = .ok upper)
    (htokens : tokenize second = .ok tokens) (hlower : ofTokens tokens = .ok lower)
    (hlines : lines tokens = header :: later) (hheader : lineKind header = .header) :
    ofString (first ++ "\n" ++ second) =
      .ok { globals := upper.globals
            tracks := upper.tracks ++ tracksFrom upper.tracks.length
              (blocksFrom { header := some header } later) } := by
  obtain ⟨firstTokens, hfirst, hupper⟩ := ofString_eq_ok_iff.mp hupper
  obtain ⟨hfreeUpper, rfl⟩ := free_of_ofTokens hupper
  obtain ⟨hfreeLower, -⟩ := free_of_ofTokens hlower
  rw [ofString_joined_eq hfirst htokens,
    ofTokens_of_free ((firstFault?_joined rfl hlines hheader _).mpr ⟨hfreeUpper, hfreeLower⟩),
    ofLines_joined rfl hlines hheader _ hfreeLower]

/-- The tracks below a header one by one.  With other tracks before them only the nameless ones
change, and these only in their names. -/
theorem exists_trackHeader {header : Line} {later : List Line}
    (hheader : lineKind header = .header) {k : Nat} {track : Track}
    (h : (ofLines (header :: later)).tracks[k]? = some track) (trackCount : Nat) :
    ∃ line, (trackHeaders (header :: later))[k]? = some (some line) ∧
      match headerName? line with
      | some name => track.name = name ∧
        (tracksFrom trackCount (blocksFrom { header := some header } later))[k]? = some track
      | none => track.name = "unnamed_" ++ toString k ∧
        (tracksFrom trackCount (blocksFrom { header := some header } later))[k]? =
          some { track with name := "unnamed_" ++ toString (k + trackCount) } := by
  rw [tracks_ofLines_header hheader, getElem?_tracksFrom, Option.map_eq_some_iff] at h
  obtain ⟨block, hblock, rfl⟩ := h
  have hmem := (List.mem_filter.mp (List.mem_of_getElem? hblock)).1
  obtain ⟨line, hline⟩ :=
    Option.ne_none_iff_exists'.mp (exists_header_of_mem_blocksFrom (by simp) block hmem)
  refine ⟨line, ?_, ?_⟩
  · rw [trackHeaders, blocks_header hheader, List.filter_cons_of_neg (by simp [Block.melody]),
      List.getElem?_map, hblock, Option.map_some, hline]
  · rw [getElem?_tracksFrom, hblock, Nat.zero_add, Option.map_some, Nat.add_comm k]
    cases hname : headerName? line with
    | some name =>
      obtain ⟨hown, hsame⟩ := Block.track_of_named hline hname k (trackCount + k)
      exact ⟨hown, congrArg some hsame⟩
    | none =>
      obtain ⟨hown, hother⟩ := Block.track_of_unnamed hline hname k (trackCount + k)
      exact ⟨hown, congrArg some hother⟩

/-- **Scripts one below the other.**  A text that starts with a header makes a script below
another text exactly if both make one alone.  The globals are those of the upper text, and its
tracks are followed by those of the lower one, in which only the nameless are numbered anew. -/
theorem ofString_append_track {second : String} (hsecond : trackWord <+: second.toList)
    (first : String) :
    ((∃ script, ofString (first ++ "\n" ++ second) = .ok script) ↔
      (∃ upper, ofString first = .ok upper) ∧ ∃ lower, ofString second = .ok lower) ∧
    ∀ upper lower, ofString first = .ok upper → ofString second = .ok lower →
      ∃ (tokens : List LocatedToken) (more : List Track), tokenize second = .ok tokens ∧
        ofString (first ++ "\n" ++ second) =
          .ok { globals := upper.globals, tracks := upper.tracks ++ more } ∧
        more.length = lower.tracks.length ∧
        ∀ (k : Nat) (track : Track), lower.tracks[k]? = some track →
          ∃ header, (trackHeaders (lines tokens))[k]? = some (some header) ∧
            match headerName? header with
            | some name => track.name = name ∧ more[k]? = some track
            | none => track.name = "unnamed_" ++ toString k ∧ more[k]? =
                some { track with
                  name := "unnamed_" ++ toString (k + upper.tracks.length) } := by
  refine ⟨exists_ofString_joined_iff hsecond first, fun upper lower hupper hlower => ?_⟩
  obtain ⟨tokens, htokens, hofTokens⟩ := ofString_eq_ok_iff.mp hlower
  obtain ⟨header, later, hlines, hheader⟩ := exists_lines_of_tokenize hsecond htokens
  obtain ⟨-, hscript⟩ := free_of_ofTokens hofTokens
  rw [hlines] at hscript
  refine ⟨tokens, _, htokens, ofString_joined hupper htokens hofTokens hlines hheader, ?_, ?_⟩
  · rw [← hscript, tracks_ofLines_header hheader, length_tracksFrom, length_tracksFrom]
  · intro k track htrack
    rw [hlines]
    exact exists_trackHeader hheader (hscript ▸ htrack) upper.tracks.length

/-- The track below a melody has no name and takes the number one for it. -/
theorem ofString_append_track_unnamed :
    trackWord <+: "@track\nD4 4".toList ∧
      ∃ script, ofString ("C4 4" ++ "\n" ++ "@track\nD4 4") = .ok script ∧
        script.tracks.map Track.name = ["main", "unnamed_1"] := by
  have hsecond : trackWord <+: "@track\nD4 4".toList := by decide
  have hupper : ofString "C4 4" = .ok
      { tracks := [{ name := "main", tokens := [⟨.note ⟨.c, none, 4⟩, 4⟩] }] } := by
    decide +kernel
  have hlower : ofString "@track\nD4 4" = .ok
      { tracks := [{ name := "unnamed_0", tokens := [⟨.note ⟨.d, none, 4⟩, 4⟩] }] } := by
    decide +kernel
  obtain ⟨hiff, -⟩ := ofString_append_track hsecond "C4 4"
  obtain ⟨script, hscript⟩ := hiff.mpr ⟨⟨_, hupper⟩, _, hlower⟩
  have hnames : (ofString ("C4 4" ++ "\n" ++ "@track\nD4 4")).map (·.tracks.map Track.name) =
      .ok ["main", "unnamed_1"] := by
    decide +kernel
  rw [hscript] at hnames
  exact ⟨hsecond, script, hscript, Except.ok.inj hnames⟩

end BuzzerScript.Script

import BuzzerScript.Proofs.Script.Meaning

/-!
# The faults of a script

There are three faults, and each is one of a line after the lines before it: a directive comes
too late, a header or the end of the script finds the header before it silent, or a note line
has a malformed note.  The first of them is reported, and without any the tokens make a script.
-/

namespace BuzzerScript.Script

/-- The fault of the line `next` after the lines `before`; no line stands for the end. -/
inductive FaultAt (before : List Line) : Option Line → CompileError → Prop
  /-- A directive after a header or a note line. -/
  | directiveAfterContent {line earlier : Line} (kind : lineKind line = .directive)
      (mem : earlier ∈ before)
      (content : lineKind earlier = .header ∨ lineKind earlier = .noteLine) :
      FaultAt before (some line) (.grammar (linePosition line) .directiveAfterContent)
  /-- A header, or the end, after a header with no note line since.  The fault is the one of
  the earlier header and names its track. -/
  | silentTrack {next : Option Line} {earlier since : List Line} {header : Line}
      (ends : ∀ line, next = some line → lineKind line = .header)
      (split : before = earlier ++ header :: since) (kind : lineKind header = .header)
      (silent : ∀ line ∈ since, lineKind line ≠ .header ∧ lineKind line ≠ .noteLine) :
      FaultAt before next
        (.grammar (linePosition header)
          (.silentTrack
            (Block.name { header := some header } (ofLines earlier).tracks.length)))
  /-- A note of a note line that is no note symbol, where the notes before it are some. -/
  | malformedNote {line read rest : Line} {t : LocatedToken} {text : String}
      (kind : lineKind line = .noteLine) (split : line = read ++ t :: rest)
      (note : t.token = .note text) (malformed : NoteSymbol.ofChars? text.toList = none)
      (first : ∀ s ∈ read, ∀ earlier, s.token = .note earlier →
        NoteSymbol.ofChars? earlier.toList ≠ none) :
      FaultAt before (some line) (.grammar t.position (.malformedNote text))

/-! ## Silent headers -/

/-- Lines that end with a silent header. -/
theorem silentTrack?_append {header : Line} {since : List Line}
    (hkind : lineKind header = .header) (hsilent : ∀ line ∈ since, isContent line = false)
    (earlier : List Line) :
    silentTrack? (earlier ++ header :: since) =
      some (silentFault (ofLines earlier).tracks.length header) := by
  have hsplit : splitBlocks (earlier ++ header :: since) =
      (blocks earlier, { header := some header }) := by
    rw [splitBlocks_append, List.foldl_cons, foldl_extend_of_not_content hsilent, Block.extend,
      hkind, ← blocks_eq]
  rw [silentTrack?_eq, hsplit]
  rfl

/-- If lines end with the fault of a silent header, then that header is the last line that
belongs to a block. -/
theorem exists_of_silentTrack? {lines : List Line} {e : CompileError}
    (h : silentTrack? lines = some e) :
    ∃ earlier header since, lines = earlier ++ header :: since ∧ lineKind header = .header ∧
      ∀ line ∈ since, isContent line = false := by
  have hlast : ∃ header, (lines.filter isContent).getLast? = some header ∧
      lineKind header = .header := by
    rw [silentTrack?] at h
    cases hl : (lines.filter isContent).getLast? with
    | none => simp [hl] at h
    | some header =>
      refine ⟨header, rfl, ?_⟩
      by_contra hkind
      simp [hl, hkind] at h
  obtain ⟨header, hheader, hkind⟩ := hlast
  obtain ⟨content, hcontent⟩ := List.getLast?_eq_some_iff.mp hheader
  obtain ⟨first, second, rfl, -, hsecond⟩ := List.filter_eq_append_iff.mp hcontent
  obtain ⟨skipped, since, rfl, -, -, hsince⟩ := List.filter_eq_cons_iff.mp hsecond
  refine ⟨first ++ skipped, header, since, by simp, hkind, ?_⟩
  simpa [List.filter_eq_nil_iff] using hsince

theorem isContent_eq_false_iff (line : Line) :
    isContent line = false ↔ lineKind line ≠ .header ∧ lineKind line ≠ .noteLine := by
  simp [isContent]

/-! ## Malformed notes -/

/-- The fault of a token that is a malformed note. -/
def malformed? (t : LocatedToken) : Option CompileError :=
  match t.token with
  | .note text =>
    if (NoteSymbol.ofChars? text.toList).isNone then
      some (.grammar t.position (.malformedNote text))
    else none
  | _ => none

theorem malformed?_eq_some_iff (t : LocatedToken) (e : CompileError) :
    malformed? t = some e ↔
      ∃ text, t.token = .note text ∧ NoteSymbol.ofChars? text.toList = none ∧
        e = .grammar t.position (.malformedNote text) := by
  rw [malformed?]
  cases ht : t.token with
  | note text =>
    cases hs : NoteSymbol.ofChars? text.toList with
    | none => simp [hs, eq_comm (a := e)]
    | some symbol => simp [hs]
  | _ => simp

theorem malformed?_eq_none_iff (t : LocatedToken) :
    malformed? t = none ↔
      ∀ text, t.token = .note text → NoteSymbol.ofChars? text.toList ≠ none := by
  rw [malformed?]
  cases ht : t.token with
  | note text => simp
  | _ => simp

/-- The fault of a line with malformed notes is the one of the first of them. -/
theorem malformedNote?_eq_some_iff (line : Line) (e : CompileError) :
    malformedNote? line = some e ↔
      ∃ read t rest, line = read ++ t :: rest ∧ malformed? t = some e ∧
        ∀ s ∈ read, malformed? s = none := by
  rw [malformedNote?, List.findSome?_eq_some_iff]
  rfl

/-! ## All faults -/

/-- What is looked for at a line, or at the end. -/
def faultOf? (before : List Line) : Option Line → Option CompileError
  | some line => lineFault? before line
  | none => silentTrack? before

theorem faultOf?_eq_some {before : List Line} {next : Option Line} {e : CompileError}
    (h : FaultAt before next e) : faultOf? before next = some e := by
  cases h with
  | directiveAfterContent kind mem content =>
    have hany : before.any isContent = true :=
      List.any_eq_true.mpr ⟨_, mem, (isContent_iff _).mpr content⟩
    simp [faultOf?, lineFault?, kind, hany]
  | silentTrack ends split kind silent =>
    rename_i earlier since header
    have hsilent := silentTrack?_append kind
      (fun line hline => (isContent_eq_false_iff line).mpr (silent line hline)) earlier
    rw [← split] at hsilent
    cases next with
    | none => exact hsilent
    | some line =>
      rw [faultOf?, lineFault?, ends line rfl]
      exact hsilent
  | malformedNote kind split note malformed first =>
    rw [faultOf?, lineFault?, kind]
    refine (malformedNote?_eq_some_iff _ _).mpr ⟨_, _, _, split, ?_, ?_⟩
    · exact (malformed?_eq_some_iff _ _).mpr ⟨_, note, malformed, rfl⟩
    · intro s hs
      exact (malformed?_eq_none_iff s).mpr (first s hs)

theorem FaultAt.of_silentTrack? {before : List Line} {e : CompileError}
    (h : silentTrack? before = some e) {next : Option Line}
    (hends : ∀ line, next = some line → lineKind line = .header) : FaultAt before next e := by
  obtain ⟨earlier, header, since, rfl, hkind, hsilent⟩ := exists_of_silentTrack? h
  rw [silentTrack?_append hkind hsilent] at h
  obtain rfl : _ = e := by simpa using h
  refine .silentTrack hends rfl hkind ?_
  intro line hline
  exact (isContent_eq_false_iff line).mp (hsilent line hline)

/-- What is looked for at a line, or at the end, is its fault. -/
theorem faultAt_iff (before : List Line) (next : Option Line) (e : CompileError) :
    FaultAt before next e ↔ faultOf? before next = some e := by
  refine ⟨faultOf?_eq_some, ?_⟩
  intro h
  cases next with
  | none => exact .of_silentTrack? h (by simp)
  | some line =>
    rw [faultOf?, lineFault?] at h
    cases hkind : lineKind line with
    | header =>
      rw [hkind] at h
      exact .of_silentTrack? h (by simp [hkind])
    | directive =>
      by_cases hany : before.any isContent = true
      · obtain ⟨earlier, hmem, hcontent⟩ := List.any_eq_true.mp hany
        obtain rfl : _ = e := by simpa [hkind, hany] using h
        exact .directiveAfterContent hkind hmem ((isContent_iff earlier).mp hcontent)
      · simp [hkind, hany] at h
    | noteLine =>
      rw [hkind] at h
      obtain ⟨read, t, rest, hsplit, ht, hread⟩ := (malformedNote?_eq_some_iff line e).mp h
      obtain ⟨text, hnote, hmalformed, rfl⟩ := (malformed?_eq_some_iff t e).mp ht
      refine .malformedNote hkind hsplit hnote hmalformed ?_
      intro s hs
      exact (malformed?_eq_none_iff s).mp (hread s hs)
    | ignored => simp [hkind] at h

theorem not_faultAt_iff (before : List Line) (next : Option Line) :
    (∀ e, ¬ FaultAt before next e) ↔ faultOf? before next = none := by
  simp only [faultAt_iff, Option.eq_none_iff_forall_ne_some]

/-! ## The first fault -/

/-- Some fault is found among the lines `rest` or at their end if it is found after some of
them, and none after fewer. -/
theorem firstFaultFrom?_eq_some_iff (before rest : List Line) (e : CompileError) :
    firstFaultFrom? before rest = some e ↔
      ∃ n ≤ rest.length, faultOf? (before ++ rest.take n) rest[n]? = some e ∧
        ∀ m < n, faultOf? (before ++ rest.take m) rest[m]? = none := by
  induction rest generalizing before with
  | nil =>
    simp [firstFaultFrom?, faultOf?]
  | cons line rest ih =>
    have hnext : ∀ n, faultOf? (before ++ (line :: rest).take (n + 1)) (line :: rest)[n + 1]? =
        faultOf? (before ++ [line] ++ rest.take n) rest[n]? := by simp
    have hfirst : faultOf? (before ++ (line :: rest).take 0) (line :: rest)[0]? =
        lineFault? before line := by simp [faultOf?]
    rw [firstFaultFrom?]
    cases hline : lineFault? before line with
    | some found =>
      rw [hline] at hfirst
      rw [Option.some_or]
      constructor
      · intro h
        exact ⟨0, by simp, hfirst.trans h, by simp⟩
      · rintro ⟨n, -, hn, hbefore⟩
        cases n with
        | zero => exact hfirst.symm.trans hn
        | succ n => exact absurd (hfirst.symm.trans (hbefore 0 (by simp))) (by simp)
    | none =>
      rw [hline] at hfirst
      rw [Option.none_or, ih]
      constructor
      · rintro ⟨n, hle, hn, hbefore⟩
        refine ⟨n + 1, by simpa using hle, (hnext n).trans hn, ?_⟩
        intro m hm
        cases m with
        | zero => exact hfirst
        | succ m => exact (hnext m).trans (hbefore m (by omega))
      · rintro ⟨n, hle, hn, hbefore⟩
        cases n with
        | zero => exact absurd (hfirst.symm.trans hn) (by simp)
        | succ n =>
          refine ⟨n, by simpa using hle, (hnext n).symm.trans hn, ?_⟩
          intro m hm
          exact (hnext m).symm.trans (hbefore (m + 1) (by omega))

theorem firstFaultFrom?_eq_none_iff (before rest : List Line) :
    firstFaultFrom? before rest = none ↔
      ∀ n ≤ rest.length, faultOf? (before ++ rest.take n) rest[n]? = none := by
  induction rest generalizing before with
  | nil => simp [firstFaultFrom?, faultOf?]
  | cons line rest ih =>
    rw [firstFaultFrom?, Option.or_eq_none_iff, ih]
    constructor
    · rintro ⟨hline, hrest⟩ n hle
      cases n with
      | zero => simpa [faultOf?] using hline
      | succ n => simpa using hrest n (by simpa using hle)
    · intro h
      refine ⟨by simpa [faultOf?] using h 0 (by simp), ?_⟩
      intro n hle
      simpa using h (n + 1) (by simpa using hle)

/-- An error of reading is the fault of a line, or of the end. -/
theorem exists_faultAt_of_ofTokens {tokens : List LocatedToken} {e : CompileError}
    (h : ofTokens tokens = .error e) :
    ∃ n, FaultAt ((lines tokens).take n) (lines tokens)[n]? e := by
  have hfault : firstFault? (lines tokens) = some e := by
    rw [ofTokens_eq] at h
    cases hfound : firstFault? (lines tokens) with
    | none => simp [hfound] at h
    | some found => simpa [hfound] using h
  obtain ⟨n, -, hn, -⟩ := (firstFaultFrom?_eq_some_iff [] (lines tokens) e).mp hfault
  exact ⟨n, (faultAt_iff _ _ _).mpr hn⟩

/-- Tokens are refused for grammar faults only. -/
theorem exists_grammar_of_ofTokens {tokens : List LocatedToken} {e : CompileError}
    (h : ofTokens tokens = .error e) : ∃ position fault, e = .grammar position fault := by
  obtain ⟨n, hn⟩ := exists_faultAt_of_ofTokens h
  generalize (lines tokens)[n]? = next at hn
  cases hn <;> exact ⟨_, _, rfl⟩

/-- A block without melody has no track, and takes no number from the tracks after it. -/
theorem tracksFrom_filter (trackCount : Nat) (blocks : List Block) :
    tracksFrom trackCount (blocks.filter fun block => block.melody ≠ []) =
      tracksFrom trackCount blocks := by
  induction blocks generalizing trackCount with
  | nil => rfl
  | cons block rest ih =>
    by_cases h : block.melody = []
    · simp [tracksFrom, h, ← ih]
    · simp [tracksFrom, h, ← ih]

/-- **The errors of reading.**  An error is the fault of a line, or of the end, with no fault
before it; without any fault the tokens make the script of their lines, where a block without
melody has no track. -/
theorem ofTokens_eq_error_iff (tokens : List LocatedToken) :
    (∀ e, ofTokens tokens = .error e ↔
      ∃ n ≤ (lines tokens).length,
        FaultAt ((lines tokens).take n) (lines tokens)[n]? e ∧
        ∀ m < n, ∀ e', ¬ FaultAt ((lines tokens).take m) (lines tokens)[m]? e') ∧
    (ofTokens tokens = .ok (ofLines (lines tokens)) ↔
      ∀ n ≤ (lines tokens).length, ∀ e,
        ¬ FaultAt ((lines tokens).take n) (lines tokens)[n]? e) ∧
    (ofLines (lines tokens)).tracks =
      tracksFrom 0 ((blocks (lines tokens)).filter fun block => block.melody ≠ []) := by
  simp only [not_faultAt_iff]
  simp only [faultAt_iff]
  refine ⟨?_, ?_, ?_⟩
  · intro e
    have hfirst := firstFaultFrom?_eq_some_iff [] (lines tokens) e
    simp only [List.nil_append] at hfirst
    rw [← hfirst, ofTokens_eq, firstFault?]
    cases firstFaultFrom? [] (lines tokens) <;> simp
  · have hnone := firstFaultFrom?_eq_none_iff [] (lines tokens)
    simp only [List.nil_append] at hnone
    rw [← hnone, ofTokens_eq, firstFault?]
    cases firstFaultFrom? [] (lines tokens) <;> simp
  · exact (tracksFrom_filter 0 (blocks (lines tokens))).symm

end BuzzerScript.Script

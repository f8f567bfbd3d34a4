import BuzzerScript.Proofs.Script.Joined
import BuzzerScript.Proofs.Script.Options

/-!
# The last accepted setting holds

A setting is taken over if its value can be used, and then it takes the place of an earlier
one.  So of all directives for a key the last accepted one holds, and of all options of a
header the last accepted one holds for its track.  What is rejected changes nothing, settings
with different keys may change places, and no header reaches a track other than its own.
-/

namespace BuzzerScript.Script

/-! ## Tracks and their headers -/

/-- The tokens of a block in which options may stand. -/
def Block.optionTokens (block : Block) : List Token := (block.header.map afterName).getD []

theorem Block.options_eq (block : Block) : block.options = pairs block.optionTokens := by
  obtain ⟨header, noteLines⟩ := block
  cases header <;> rfl

/-- A track with the settings of its own header: of the triples behind the name the last
accepted ones hold.  The delay is zero if none is accepted. -/
inductive OwnSettings (block : Block) (track : Track) : Prop
  | intro {options : List (String × SettingValue)} {delay : Option Binary64}
      (scans : Scans [] block.optionTokens options) (settings : track.settings.IsLast options)
      (last : LastOf Track.acceptedDelay? options delay)
      (delayBeats : track.delayBeats = delay.getD 0)

theorem Block.ownSettings_track (block : Block) (trackCount : Nat) :
    OwnSettings block (block.track trackCount) :=
  .intro ((scans_iff _ _).mpr rfl) ((Settings.isLast_iff _ _).mpr (by rw [← options_eq]; rfl))
    ((lastOf_iff _ _ _).mpr rfl) (by rw [← options_eq]; rfl)

/-- Each block with a melody has a track with the settings of its header. -/
theorem forall₂_ownSettings (trackCount : Nat) (blocks : List Block) :
    List.Forall₂ OwnSettings (blocks.filter fun block => block.melody ≠ [])
      (tracksFrom trackCount blocks) := by
  induction blocks generalizing trackCount with
  | nil => exact .nil
  | cons block rest ih =>
    by_cases h : block.melody = []
    · rw [List.filter_cons_of_neg (by simp [h]), tracksFrom, if_pos h]
      exact ih trackCount
    · rw [List.filter_cons_of_pos (by simp [h]), tracksFrom, if_neg h]
      exact .cons (block.ownSettings_track trackCount) (ih (trackCount + 1))

/-- Only a directive has a key and a value. -/
theorem directivePair?_of_not_directive {line : Line} (h : lineKind line ≠ .directive) :
    directivePair? line = none := by
  rw [directivePair?]
  split
  · rename_i hline
    exact absurd (by rw [lineKind, hline]) h
  · rfl

/-- Each global setting is the last accepted one of the directives. -/
theorem globals_isLast (lines : List Line) :
    (ofLines lines).globals.IsLast (lines.filterMap directivePair?) := by
  have hdirectives : lines.filterMap directivePair? =
      (lines.filter fun line => lineKind line = .directive).filterMap directivePair? := by
    rw [List.filterMap_filter]
    congr 1
    funext line
    by_cases h : lineKind line = .directive
    · simp [h]
    · simpa [h] using directivePair?_of_not_directive h
  rw [Settings.isLast_iff, hdirectives]
  rfl

/-! ## The same settings -/

/-- Lines that set the same. -/
inductive Rearranged : List Line → List Line → Prop
  /-- Two directives with different keys have changed places; only lines that are ignored stand
  between them. -/
  | directives {above between below : List Line} {a b : Line}
      (kind_a : lineKind a = .directive)
      (kind_b : lineKind b = .directive)
      (keys : ∀ p q, directivePair? a = some p → directivePair? b = some q → p.1 ≠ q.1)
      (ignored : ∀ line ∈ between, lineKind line = .ignored) :
      Rearranged (above ++ (a :: between ++ [b] ++ below))
        (above ++ (b :: between ++ [a] ++ below))
  /-- Two options of a header with different keys have changed places. -/
  | options {above below : List Line} {header other : Line} (kind : lineKind header = .header)
      (exchanged : OptionsExchanged header other) :
      Rearranged (above ++ ([header] ++ below)) (above ++ ([other] ++ below))
  /-- A directive that is rejected is left out. -/
  | rejectedDirective {above below : List Line} {line : Line}
      (kind : lineKind line = .directive)
      (rejected : ∀ p, directivePair? line = some p → Settings.Rejected p) :
      Rearranged (above ++ ([line] ++ below)) (above ++ ([] ++ below))
  /-- An option that is rejected is left out. -/
  | rejectedOption {above below : List Line} {header other : Line}
      {front back : List (String × SettingValue)} {p : String × SettingValue}
      (kind : lineKind header = .header) (start : other.head? = header.head?)
      (name : headerName? other = headerName? header)
      (found : Scans [] (afterName header) (front ++ p :: back))
      (found_other : Scans [] (afterName other) (front ++ back))
      (rejected : Settings.Rejected p) (delay : Track.acceptedDelay? p = none) :
      Rearranged (above ++ ([header] ++ below)) (above ++ ([other] ++ below))

/-- Lines in the middle may be replaced by lines that are read alike. -/
theorem ofTokens_replace {tokens other : List LocatedToken}
    {above middle middle' below : List Line}
    (hlines : lines tokens = above ++ (middle ++ below))
    (hother : lines other = above ++ (middle' ++ below))
    (hmiddle : ∀ draft next, middle.foldlM Draft.readLine draft = .ok next →
      middle'.foldlM Draft.readLine draft = .ok next) {script : Script}
    (h : ofTokens tokens = .ok script) : ofTokens other = .ok script := by
  rw [ofTokens, Draft.read_eq_foldlM, hlines, List.foldlM_append] at h
  rw [ofTokens, Draft.read_eq_foldlM, hother, List.foldlM_append]
  cases habove : above.foldlM Draft.readLine {} with
  | error e =>
    rw [habove] at h
    cases h
  | ok draft =>
    rw [habove] at h
    simp only [bind, Except.bind] at h ⊢
    rw [List.foldlM_append] at h ⊢
    cases hnext : middle.foldlM Draft.readLine draft with
    | error e =>
      rw [hnext] at h
      cases h
    | ok next =>
      rw [hmiddle draft next hnext]
      rw [hnext] at h
      exact h

theorem setGlobal_comm {pair pair' : Option (String × SettingValue)}
    (h : ∀ p q, pair = some p → pair' = some q → p.1 ≠ q.1) (draft : Draft) :
    (draft.setGlobal pair).setGlobal pair' = (draft.setGlobal pair').setGlobal pair := by
  cases pair with
  | none => rfl
  | some p =>
    cases pair' with
    | none => rfl
    | some q => simp only [Draft.setGlobal, Settings.apply_comm (h p q rfl rfl)]

theorem setGlobal_of_rejected {pair : Option (String × SettingValue)}
    (h : ∀ p, pair = some p → Settings.Rejected p) (draft : Draft) :
    draft.setGlobal pair = draft := by
  cases pair with
  | none => rfl
  | some p => rw [Draft.setGlobal, Settings.apply_of_rejected (h p rfl)]

theorem contentStarted_setGlobal (draft : Draft) (pair : Option (String × SettingValue)) :
    (draft.setGlobal pair).contentStarted = draft.contentStarted := by
  cases pair <;> rfl

/-- A directive is taken over unless it comes too late. -/
theorem readLine_directive_eq_ok_iff {line : Line} (hkind : lineKind line = .directive)
    (draft next : Draft) :
    draft.readLine line = .ok next ↔
      draft.contentStarted = false ∧ draft.setGlobal (directivePair? line) = next := by
  rw [Draft.readLine, hkind]
  cases draft.contentStarted <;> simp

theorem foldlM_ignored {between : List Line} (h : ∀ line ∈ between, lineKind line = .ignored)
    (draft : Draft) : between.foldlM Draft.readLine draft = .ok draft := by
  induction between with
  | nil => rfl
  | cons line rest ih =>
    rw [List.foldlM_cons, Draft.readLine, h line List.mem_cons_self]
    exact ih fun other hother => h other (List.mem_cons_of_mem line hother)

/-- Two directives around ignored lines are taken over one after the other. -/
theorem foldlM_directives {a b : Line} {between : List Line} (kind_a : lineKind a = .directive)
    (kind_b : lineKind b = .directive) (ignored : ∀ line ∈ between, lineKind line = .ignored)
    (draft next : Draft) :
    (a :: between ++ [b]).foldlM Draft.readLine draft = .ok next ↔
      draft.contentStarted = false ∧
        (draft.setGlobal (directivePair? a)).setGlobal (directivePair? b) = next := by
  have hbetween : ∀ middle : Draft, (between ++ [b]).foldlM Draft.readLine middle =
      middle.readLine b := by
    intro middle
    rw [List.foldlM_append, foldlM_ignored ignored]
    change [b].foldlM Draft.readLine middle = _
    rw [List.foldlM_cons]
    cases middle.readLine b <;> rfl
  rw [List.cons_append, List.foldlM_cons]
  simp only [hbetween]
  constructor
  · intro h
    cases ha : draft.readLine a with
    | error e =>
      rw [ha] at h
      cases h
    | ok middle =>
      rw [ha] at h
      obtain ⟨hstarted, rfl⟩ := (readLine_directive_eq_ok_iff kind_a draft middle).mp ha
      exact ⟨hstarted, ((readLine_directive_eq_ok_iff kind_b _ next).mp h).2⟩
  · rintro ⟨hstarted, hnext⟩
    rw [(readLine_directive_eq_ok_iff kind_a draft _).mpr ⟨hstarted, rfl⟩]
    exact (readLine_directive_eq_ok_iff kind_b _ next).mpr
      ⟨by rw [contentStarted_setGlobal, hstarted], hnext⟩

/-- A header is a line that starts with the track sign. -/
theorem lineKind_eq_header_iff (line : Line) :
    lineKind line = .header ↔ line.head?.map LocatedToken.token = some .track := by
  rw [← List.head?_map, lineKind]
  split
  · rename_i hline
    simp [hline]
  · rename_i hline
    simp [hline]
  · rename_i htrack _
    have hhead : (line.map LocatedToken.token).head? ≠ some .track := by
      intro h
      obtain ⟨rest, hrest⟩ := List.head?_eq_some_iff.mp h
      exact htrack rest hrest
    split <;> simpa using hhead

/-- Headers at the same position that open the same track are read alike. -/
theorem readLine_header_congr {header other : Line} (kind : lineKind header = .header)
    (start : other.head? = header.head?)
    (track : ∀ trackCount, headerTrack trackCount other = headerTrack trackCount header)
    (draft : Draft) : draft.readLine other = draft.readLine header := by
  have hposition : linePosition other = linePosition header := by
    rw [linePosition, start, linePosition]
  have kind_other : lineKind other = .header := by
    rw [lineKind_eq_header_iff, start, ← lineKind_eq_header_iff, kind]
  rw [Draft.readLine, Draft.readLine, kind, kind_other, hposition]
  simp only [track]

theorem foldlM_singleton (draft : Draft) (line : Line) :
    [line].foldlM Draft.readLine draft = draft.readLine line := by
  rw [List.foldlM_cons]
  cases draft.readLine line <;> rfl

/-- **Lines that set the same** make the same script. -/
theorem ofTokens_rearranged {tokens other : List LocatedToken} {script : Script}
    (h : ofTokens tokens = .ok script) (hlines : Rearranged (lines tokens) (lines other)) :
    ofTokens other = .ok script := by
  generalize hl : lines tokens = l at hlines
  generalize hl' : lines other = l' at hlines
  cases hlines with
  | directives kind_a kind_b keys ignored =>
    refine ofTokens_replace hl hl' ?_ h
    intro draft next hnext
    rw [foldlM_directives kind_a kind_b ignored] at hnext
    rw [foldlM_directives kind_b kind_a ignored,
      setGlobal_comm fun p q hp hq => (keys q p hq hp).symm]
    exact hnext
  | options kind exchanged =>
    refine ofTokens_replace hl hl' ?_ h
    intro draft next hnext
    rw [foldlM_singleton] at hnext ⊢
    rw [readLine_header_congr kind exchanged.start exchanged.headerTrack_eq]
    exact hnext
  | rejectedDirective kind rejected =>
    refine ofTokens_replace hl hl' ?_ h
    intro draft next hnext
    rw [foldlM_singleton, readLine_directive_eq_ok_iff kind,
      setGlobal_of_rejected rejected] at hnext
    exact congrArg Except.ok hnext.2
  | rejectedOption kind start name found found_other rejected delay =>
    have hpairs := (scans_iff _ _).mp found
    have hpairs_other := (scans_iff _ _).mp found_other
    rw [← headerPairs_eq] at hpairs hpairs_other
    refine ofTokens_replace hl hl' ?_ h
    intro draft next hnext
    rw [foldlM_singleton] at hnext ⊢
    rw [readLine_header_congr kind start]
    · exact hnext
    · refine headerTrack_congr name ?_ ?_
      · rw [hpairs, hpairs_other, Settings.lastAccepted_of_rejected rejected]
      · rw [hpairs, hpairs_other, List.filterMap_append, List.filterMap_append,
          List.filterMap_cons_none delay]

/-! ## Other headers -/

theorem silentTrack?_eq_none_iff (lines : List Line) :
    silentTrack? lines = none ↔
      ∀ line, (lines.filter isContent).getLast? = some line → lineKind line ≠ .header := by
  rw [silentTrack?]
  cases (lines.filter isContent).getLast? with
  | none => simp
  | some line => simp

section OtherHeader

variable {header other : Line} (hheader : lineKind header = .header)
  (hother : lineKind other = .header)
include hheader hother

/-- Another header is silent in the same places. -/
theorem silentTrack?_otherHeader (before : List Line) :
    silentTrack? (other :: before) = none ↔ silentTrack? (header :: before) = none := by
  rw [silentTrack?_eq_none_iff, silentTrack?_eq_none_iff,
    List.filter_cons_of_pos (isContent_of_header hheader),
    List.filter_cons_of_pos (isContent_of_header hother), List.getLast?_cons,
    List.getLast?_cons]
  cases (before.filter isContent).getLast? with
  | none => simp [hheader, hother]
  | some line => rfl

/-- Below another header there are the same faults. -/
theorem firstFaultFrom?_otherHeader (before rest : List Line) :
    firstFaultFrom? (other :: before) rest = none ↔
      firstFaultFrom? (header :: before) rest = none := by
  induction rest generalizing before with
  | nil => exact silentTrack?_otherHeader hheader hother before
  | cons line rest ih =>
    have hline : lineFault? (other :: before) line = none ↔
        lineFault? (header :: before) line = none := by
      rw [lineFault?, lineFault?]
      cases lineKind line with
      | header => exact silentTrack?_otherHeader hheader hother before
      | directive => simp [isContent_of_header hheader, isContent_of_header hother]
      | _ => rfl
    have hrest := ih (before ++ [line])
    rw [firstFaultFrom?, firstFaultFrom?, Option.or_eq_none_iff, Option.or_eq_none_iff, hline,
      List.cons_append, List.cons_append, hrest]

theorem firstFault?_otherHeader (below : List Line) :
    firstFault? (other :: below) = none ↔ firstFault? (header :: below) = none := by
  have hnothing : firstFaultFrom? [] [] = none := rfl
  have hfirst := firstFaultFrom?_header hheader [] [] below
  have hfirst' := firstFaultFrom?_header hother [] [] below
  simp only [hnothing, true_and, List.nil_append] at hfirst hfirst'
  rw [firstFault?, firstFault?, hfirst, hfirst', firstFaultFrom?_otherHeader hheader hother]

end OtherHeader

/-- A block goes on to the next header, whatever its own header is. -/
theorem exists_blocksFrom (noteLines : List Line) (below : List Line) :
    ∃ more rest, ∀ header, blocksFrom { header, noteLines } below =
      { header, noteLines := more } :: rest := by
  induction below generalizing noteLines with
  | nil => exact ⟨noteLines, [], fun _ => rfl⟩
  | cons line below ih =>
    cases hkind : lineKind line with
    | header =>
      exact ⟨noteLines, blocksFrom { header := some line } below,
        fun _ => by simp [blocksFrom, hkind]⟩
    | noteLine =>
      obtain ⟨more, rest, hmore⟩ := ih (noteLines ++ [line])
      exact ⟨more, rest, fun header => by simpa [blocksFrom, hkind] using hmore header⟩
    | directive =>
      obtain ⟨more, rest, hmore⟩ := ih noteLines
      exact ⟨more, rest, fun header => by simpa [blocksFrom, hkind] using hmore header⟩
    | ignored =>
      obtain ⟨more, rest, hmore⟩ := ih noteLines
      exact ⟨more, rest, fun header => by simpa [blocksFrom, hkind] using hmore header⟩

/-- The first of several blocks may have another header: the other tracks stay the same. -/
theorem tracksFrom_otherHeader (trackCount : Nat) (header other : Option Line)
    (noteLines : List Line) (rest : List Block) :
    (tracksFrom trackCount ({ header := other, noteLines } :: rest)).length =
        (tracksFrom trackCount ({ header, noteLines } :: rest)).length ∧
      ∀ k, k ≠ 0 → (tracksFrom trackCount ({ header := other, noteLines } :: rest))[k]? =
        (tracksFrom trackCount ({ header, noteLines } :: rest))[k]? := by
  have hmelody : Block.melody { header := other, noteLines } =
      Block.melody { header, noteLines } := rfl
  rw [tracksFrom, tracksFrom, hmelody]
  by_cases h : Block.melody { header, noteLines } = []
  · simp [h]
  · simp only [if_neg h]
    refine ⟨by simp, ?_⟩
    intro k hk
    obtain ⟨k, rfl⟩ := Nat.exists_eq_succ_of_ne_zero hk
    rfl

/-- **Another header** changes its own track alone, and no global setting. -/
theorem ofTokens_otherHeader {tokens other : List LocatedToken} {script : Script}
    (h : ofTokens tokens = .ok script) {above below : List Line} {header header' : Line}
    (hheader : lineKind header = .header) (hheader' : lineKind header' = .header)
    (hlines : lines tokens = above ++ header :: below)
    (hother : lines other = above ++ header' :: below) :
    ∃ script', ofTokens other = .ok script' ∧ script'.globals = script.globals ∧
      script'.tracks.length = script.tracks.length ∧
      ∀ k, k ≠ (ofLines above).tracks.length → script'.tracks[k]? = script.tracks[k]? := by
  obtain ⟨hfree, hscript⟩ := free_of_ofTokens h
  rw [hlines] at hfree hscript
  obtain ⟨habove, hbelow⟩ := (firstFault?_append_header hheader above below).mp hfree
  have hbelow' := (firstFault?_otherHeader hheader hheader' below).mpr hbelow
  have hfree' : firstFault? (lines other) = none := by
    rw [hother]
    exact (firstFault?_append_header hheader' above below).mpr ⟨habove, hbelow'⟩
  obtain ⟨noteLines, rest, hblocks⟩ := exists_blocksFrom [] below
  obtain ⟨hlength, htracks⟩ := tracksFrom_otherHeader (ofLines above).tracks.length
    (some header) (some header') noteLines rest
  rw [← hblocks, ← hblocks] at hlength htracks
  refine ⟨_, ofTokens_of_free hfree', ?_⟩
  rw [hother, ← hscript, ofLines_append_header hheader hbelow,
    ofLines_append_header hheader' hbelow']
  refine ⟨rfl, by simp [hlength], ?_⟩
  intro k hk
  by_cases hlt : k < (ofLines above).tracks.length
  · simp only [List.getElem?_append_left hlt]
  · simp only [List.getElem?_append_right (Nat.le_of_not_lt hlt)]
    exact htracks _ (by omega)

/-- Tokens that make a script make it at any positions. -/
theorem ofTokens_of_map_token {tokens other : List LocatedToken} {script : Script}
    (h : ofTokens tokens = .ok script)
    (htokens : other.map LocatedToken.token = tokens.map LocatedToken.token) :
    ofTokens other = .ok script := by
  let start : Position → Position := fun _ => ⟨1, 1⟩
  have hrelocate : ∀ l : List LocatedToken, l.map (LocatedToken.relocate start) =
      (l.map LocatedToken.token).map fun token => ⟨token, ⟨1, 1⟩⟩ := by
    intro l
    rw [List.map_map]
    rfl
  have hsame : (ofTokens other).mapError (CompileError.relocate start) = .ok script := by
    rw [← ofTokens_relocate, hrelocate, htokens, ← hrelocate, ofTokens_relocate, h]
    rfl
  cases hscript : ofTokens other with
  | error e =>
    rw [hscript] at hsame
    cases hsame
  | ok found => rwa [hscript] at hsame

/-- **The last accepted setting holds.**  Each global setting is the last accepted one of the
directives, and each setting of a track, and its delay, the last accepted one of the triples
of its own header.  So a script stays the same where settings with different keys change
places and where a rejected one is left out, wherever its tokens stand, and another header
changes its own track alone. -/
theorem ofTokens_lastAccepted {tokens : List LocatedToken} {script : Script}
    (h : ofTokens tokens = .ok script) :
    script.globals.IsLast ((lines tokens).filterMap directivePair?) ∧
    List.Forall₂ OwnSettings ((blocks (lines tokens)).filter fun block => block.melody ≠ [])
      script.tracks ∧
    (∀ other, Rearranged (lines tokens) (lines other) → ofTokens other = .ok script) ∧
    (∀ other : List LocatedToken,
      other.map LocatedToken.token = tokens.map LocatedToken.token →
      ofTokens other = .ok script) ∧
    ∀ other above header header' below,
      lineKind header = .header → lineKind header' = .header →
      lines tokens = above ++ header :: below → lines other = above ++ header' :: below →
      ∃ script', ofTokens other = .ok script' ∧ script'.globals = script.globals ∧
        script'.tracks.length = script.tracks.length ∧
        ∀ k, k ≠ (ofLines above).tracks.length → script'.tracks[k]? = script.tracks[k]? := by
  have hscript := (free_of_ofTokens h).2
  refine ⟨?_, ?_, fun _ => ofTokens_rearranged h, fun _ => ofTokens_of_map_token h,
    fun _ _ _ _ _ => ofTokens_otherHeader h⟩
  · rw [← hscript]
    exact globals_isLast (lines tokens)
  · rw [← hscript]
    exact forall₂_ownSettings 0 (blocks (lines tokens))

/-- A tempo in capitals, a tempo that is rejected, a volume that is too high, and a header that
starts with a key and has an equal sign too many. -/
def settingTokens (second : List Token) : List LocatedToken :=
  let rest : List Token := [.identifier "Volume", .equal, .number 2, .newline,
    .track, .identifier "tempo", .equal, .note "C", .equal, .identifier "delay", .equal,
    .number 1, .newline, .note "R", .number 4]
  (.identifier "TEMPO" :: .equal :: .number 90 :: .newline :: (second ++ rest)).map
    fun token => ⟨token, ⟨1, 1⟩⟩

/-- The first tempo holds, with the second one or without it. -/
theorem ofTokens_lastAccepted_mixed :
    ∃ script, ofTokens (settingTokens [.identifier "tempo", .equal, .number 0, .newline]) =
        .ok script ∧
      script.globals.IsLast
        [("tempo", .number 90), ("tempo", .number 0), ("volume", .number 2)] ∧
      script.globals = { tempo := some 90, volume := some 1 } ∧
      script.tracks = [{ name := "unnamed_0", delayBeats := 1, tokens := [⟨.rest, 4⟩] }] ∧
      ofTokens (settingTokens []) = .ok script := by
  let script : Script :=
    { globals := { tempo := some 90, volume := some 1 }
      tracks := [{ name := "unnamed_0", delayBeats := 1, tokens := [⟨.rest, 4⟩] }] }
  have hread : ofTokens (settingTokens [.identifier "tempo", .equal, .number 0, .newline]) =
      .ok script := by
    decide +kernel
  have hpairs :
      (lines (settingTokens [.identifier "tempo", .equal, .number 0, .newline])).filterMap
        directivePair? =
      [("tempo", .number 90), ("tempo", .number 0), ("volume", .number 2)] := by
    decide +kernel
  obtain ⟨hglobals, -, hrearranged, -⟩ := ofTokens_lastAccepted hread
  rw [hpairs] at hglobals
  have hleftOut : Rearranged
      (lines (settingTokens [.identifier "tempo", .equal, .number 0, .newline]))
      (lines (settingTokens [])) := by
    have hline : directivePair? ([.identifier "tempo", .equal, .number 0].map
        fun token => ⟨token, ⟨1, 1⟩⟩) = some ("tempo", .number 0) := by
      decide +kernel
    refine @Rearranged.rejectedDirective [_] [_, _, _] _ rfl ?_
    intro p hp
    obtain rfl := Option.some.inj (hline.symm.trans hp)
    exact ⟨by decide +kernel, by decide +kernel, by decide +kernel⟩
  exact ⟨script, hread, hglobals, rfl, rfl, hrearranged _ hleftOut⟩

end BuzzerScript.Script

import BuzzerScript.Proofs.Token.Reading

/-!
# Byte offsets

A cursor keeps the rest of the text and counts the bytes in front of it.  Both stay in step: at
every character that a lexer comes past, the offset is a place between two characters of the
text, and what stands behind that place is the rest.  The lengths that are measured in front of
a cursor are places between two characters of the rest, and never zero.

## Main definitions

* `SlicesAt`: a byte offset at which a text can be sliced, with the two slices.
* `Cursor.Measures`: the lengths that are measured in front of a cursor.
* `Cursor.Visits`: the cursors that a lexer comes past.

## Main statements

* `Cursor.Measures.exists_front`: a length that is measured is that of some text in
  front of the cursor.
* `Cursor.Visits.inStep`: the offset of a cursor belongs to its rest.
* `Cursor.visits_inStep`: what holds at every point of any number of readings.
-/

namespace BuzzerScript

/-! ## Slices of a text -/

/-- A text can be sliced at a byte offset: it is a place in the text and between two
characters.  The slices are the text in front of it and the text behind it. -/
def SlicesAt (text : String) (offset : Nat) (front back : String) : Prop :=
  ∃ place : text.Pos, place.offset.byteIdx = offset ∧ (text.sliceTo place).copy = front ∧
    (text.sliceFrom place).copy = back

theorem utf8Length_eq_utf8ByteSize (text : List Char) :
    utf8Length text = (String.ofList text).utf8ByteSize := by
  induction text with
  | nil => rfl
  | cons c text ih =>
    rw [utf8Length_cons, ih, String.ofList_cons, String.utf8ByteSize_append,
      String.utf8ByteSize_singleton]

/-- A text can be sliced at the length of a text that it starts with. -/
theorem slicesAt_append (front back : List Char) :
    SlicesAt (String.ofList (front ++ back)) (utf8Length front) (String.ofList front)
      (String.ofList back) := by
  have htext : String.ofList (front ++ back) = String.ofList front ++ String.ofList back :=
    String.ofList_append
  have hvalid : (String.ofList front).rawEndPos.IsValid (String.ofList (front ++ back)) :=
    String.Pos.Raw.isValid_iff_exists_append.mpr ⟨_, _, htext, rfl⟩
  have hsplits : String.Pos.Splits ⟨_, hvalid⟩ (String.ofList front) (String.ofList back) :=
    ⟨htext, rfl⟩
  exact ⟨⟨_, hvalid⟩, (utf8Length_eq_utf8ByteSize front).symm, hsplits.copy_sliceTo_eq,
    hsplits.copy_sliceFrom_eq⟩

namespace Cursor

variable {cursor next : Cursor} {n : Nat}

/-! ## Lengths -/

/-- The byte lengths that are measured in front of a cursor, each where its first character
asks for it.  By these the text is sliced, and stepped over. -/
inductive Measures (cursor : Cursor) : Nat → Prop
  | blank {c : Char} {tail : List Char} (rest : cursor.rest = c :: tail)
      (blank : isBlank c = true) :
      Measures cursor c.utf8Size
  | comment {tail : List Char} (rest : cursor.rest = '#' :: tail) :
      Measures cursor (commentLength cursor.rest)
  | sign {c : Char} {tail : List Char} (rest : cursor.rest = c :: tail)
      (sign : c = '\n' ∨ c = '=') :
      Measures cursor 1
  | bar {tail : List Char} (rest : cursor.rest = '|' :: tail) :
      Measures cursor (barLength cursor.rest)
  | track (word : trackWord <+: cursor.rest) : Measures cursor trackWord.length
  | numeral {c : Char} {tail : List Char} (rest : cursor.rest = c :: tail)
      (digit : c.isDigit = true) :
      Measures cursor (numeralLength cursor.rest)
  | identifier {c : Char} {tail : List Char} (rest : cursor.rest = c :: tail)
      (word : isIdentifierStart c = true) : Measures cursor (identifierLength cursor.rest)
  | note {symbol : NoteSymbol} {length : Nat}
      (scanned : NoteSymbol.scan? cursor.rest = some (symbol, length)) : Measures cursor length

/-- A lexeme in front of a cursor is as long in bytes as in characters, and not empty. -/
theorem exists_front_of_spells {kind : LexemeClass} {lexeme text : List Char}
    (h : kind.Spells lexeme) (hstarts : lexeme <+: text) :
    ∃ front back, text = front ++ back ∧ front ≠ [] ∧ utf8Length front = lexeme.length := by
  obtain ⟨back, rfl⟩ := hstarts
  exact ⟨lexeme, back, rfl, LexemeClass.ne_nil_of_spells h,
    utf8Length_eq_length (LexemeClass.toNat_lt_of_spells h)⟩

/-- What is measured is the length of a text in front of the cursor that is not empty. -/
theorem Measures.exists_front (h : cursor.Measures n) :
    ∃ front back, cursor.rest = front ++ back ∧ front ≠ [] ∧ utf8Length front = n := by
  cases h with
  | @blank c tail hrest => exact ⟨[c], tail, hrest, by simp, by simp⟩
  | @comment tail hrest =>
    refine ⟨cursor.rest.takeWhile (· != '\n'), cursor.rest.dropWhile (· != '\n'),
      List.takeWhile_append_dropWhile.symm, ?_, rfl⟩
    simp [hrest]
  | @sign c tail hrest hsign =>
    have hstarts : [c] <+: cursor.rest := ⟨tail, hrest.symm⟩
    rcases hsign with rfl | rfl
    · have hspells : LexemeClass.newline.Spells ['\n'] := rfl
      exact exists_front_of_spells hspells hstarts
    · have hspells : LexemeClass.equal.Spells ['='] := rfl
      exact exists_front_of_spells hspells hstarts
  | @bar tail hrest =>
    rw [hrest]
    exact exists_front_of_spells (isLongest_bar tail).spells (List.takeWhile_prefix _)
  | track hword =>
    have hspells : LexemeClass.track.Spells trackWord := rfl
    exact exists_front_of_spells hspells hword
  | @numeral c tail hrest hdigit =>
    obtain ⟨rest, hnumeral, hlexeme⟩ := isLexeme_numeralText hdigit tail
    rw [hrest, ← length_numeralText]
    exact exists_front_of_spells hlexeme.spells ⟨rest, hnumeral.symm⟩
  | @identifier c tail hrest hword =>
    rw [hrest, length_identifier hword]
    refine exists_front_of_spells (isLongest_identifier hword tail).spells ?_
    exact List.cons_prefix_cons.mpr ⟨rfl, List.takeWhile_prefix _⟩
  | @note symbol length hscan =>
    obtain ⟨hstarts, rfl⟩ := NoteSymbol.scan?_prefix hscan
    have hspells : LexemeClass.note.Spells symbol.chars := ⟨symbol, rfl⟩
    exact exists_front_of_spells hspells hstarts

/-- The rest can be sliced at a length that is measured, and the cursor steps over just as many
bytes to the second slice. -/
theorem Measures.slicesAt (h : cursor.Measures n) :
    0 < n ∧ (cursor.advanceBytes n).offset = cursor.offset + n ∧
      SlicesAt (String.ofList cursor.rest) n (String.ofList (takeBytes n cursor.rest))
        (String.ofList (cursor.advanceBytes n).rest) := by
  obtain ⟨front, back, hrest, hne, rfl⟩ := h.exists_front
  obtain ⟨offset, position, rest⟩ := cursor
  subst hrest
  have hpos : 0 < utf8Length front := by
    obtain ⟨c, front, rfl⟩ := List.exists_cons_of_ne_nil hne
    have := c.utf8Size_pos
    rw [utf8Length_cons]
    omega
  rw [advanceBytes_append, takeBytes_append]
  exact ⟨hpos, rfl, slicesAt_append front back⟩

/-! ## Steps -/

theorem advanceBytes_utf8Size {c : Char} {tail : List Char} (h : cursor.rest = c :: tail) :
    cursor.advanceBytes c.utf8Size = cursor.advance := by
  have hpos := c.utf8Size_pos
  rw [advanceBytes, dif_neg (by omega)]
  simp only [h, Nat.sub_self, advanceBytes_zero]

theorem measures_of_readWord {c : Char} {tail : List Char} (hrest : cursor.rest = c :: tail)
    (hword : isIdentifierStart c = true) : cursor.Measures (readWord cursor.rest).2 := by
  have hidentifier := Measures.identifier hrest hword
  simp only [readWord]
  split
  · next symbol length hscan =>
    split
    · exact .note hscan
    · exact hidentifier
  · exact hidentifier

/-- The length of a lexeme is one that is measured. -/
theorem measures_of_readLexeme {c : Char} {tail : List Char} {token : Token}
    (hrest : cursor.rest = c :: tail) (h : readLexeme c tail = .ok (token, n)) :
    cursor.Measures n := by
  simp only [readLexeme, ← hrest] at h
  split at h
  · next hc =>
    obtain ⟨-, rfl⟩ : .newline = token ∧ 1 = n := by simpa using h
    exact .sign hrest (.inl hc)
  split at h
  · next hc =>
    obtain ⟨-, rfl⟩ : .equal = token ∧ 1 = n := by simpa using h
    exact .sign hrest (.inr hc)
  split at h
  · next hc =>
    obtain ⟨-, rfl⟩ : .bar = token ∧ barLength cursor.rest = n := by simpa using h
    subst hc
    exact .bar hrest
  split at h
  · split at h
    · next hstarts =>
      obtain ⟨-, rfl⟩ : .track = token ∧ trackWord.length = n := by simpa using h
      exact .track (List.isPrefixOf_iff_prefix.mp hstarts)
    · simp at h
  split at h
  · next hdigit =>
    split at h
    · obtain ⟨-, rfl⟩ : _ = token ∧ numeralLength cursor.rest = n := by simpa using h
      exact .numeral hrest hdigit
    · simp at h
  split at h
  · next hword =>
    have hlength : (readWord cursor.rest).2 = n := by
      rw [Except.ok.inj h]
    exact hlength ▸ measures_of_readWord hrest hword
  · simp at h

/-- What a step passes is stepped over by a length that is measured. -/
theorem exists_measures_of_step
    (h : cursor.step = .skip next ∨ ∃ located, cursor.step = .token located next) :
    ∃ n, cursor.Measures n ∧ next = cursor.advanceBytes n := by
  unfold step at h
  split at h
  · simp at h
  · next c tail hrest =>
    split at h
    · next hblank =>
      obtain rfl : cursor.advance = next := by simpa using h
      exact ⟨_, .blank hrest hblank, (advanceBytes_utf8Size hrest).symm⟩
    split at h
    · next hc =>
      obtain rfl : cursor.advanceBytes (commentLength cursor.rest) = next := by simpa using h
      subst hc
      exact ⟨_, .comment hrest, rfl⟩
    split at h
    · next token n hread =>
      obtain rfl : cursor.advanceBytes n = next := by simpa using h
      exact ⟨n, measures_of_readLexeme hrest hread, rfl⟩
    · simp at h

/-- A step that passes something leaves less of the text. -/
theorem length_lt_of_step
    (h : cursor.step = .skip next ∨ ∃ located, cursor.step = .token located next) :
    next.rest.length < cursor.rest.length := by
  rcases h with hskip | ⟨located, htoken⟩
  · exact length_lt_of_step_skip hskip
  · exact length_lt_of_step_token htoken

/-! ## Offsets -/

/-- A cursor is in step with a text if its offset is the length of what stands in front of its
rest. -/
def InStep (source : List Char) (cursor : Cursor) : Prop :=
  ∃ read, source = read ++ cursor.rest ∧ cursor.offset = utf8Length read

variable {source : List Char}

theorem inStep_start (source : List Char) : (start source).InStep source := ⟨[], rfl, rfl⟩

theorem InStep.advance (h : cursor.InStep source) : cursor.advance.InStep source := by
  obtain ⟨read, hsource, hoffset⟩ := h
  unfold Cursor.advance
  split
  · exact ⟨read, hsource, hoffset⟩
  · next c tail hrest =>
    refine ⟨read ++ [c], by simp [hsource, hrest], ?_⟩
    rw [hoffset, utf8Length_append, utf8Length_cons, utf8Length_nil, Nat.add_zero]

/-- Stepping over bytes goes character by character. -/
theorem InStep.advanceBytes (h : cursor.InStep source) (n : Nat) :
    (cursor.advanceBytes n).InStep source := by
  fun_induction Cursor.advanceBytes n cursor with
  | case1 => exact h
  | case2 => exact h
  | case3 n cursor hn c tail hrest ih => exact ih h.advance

theorem InStep.tokens (h : cursor.InStep source) : cursor.tokens.2.InStep source := by
  obtain ⟨read, hsource, hoffset⟩ := h
  obtain ⟨offset, position, text⟩ := cursor
  obtain ⟨used, rest, tokens, rfl, -, hend⟩ := exists_reads offset position text
  have hbehind : source = read ++ used ++ rest ∧
      offset + utf8Length used = utf8Length (read ++ used) := by
    rw [utf8Length_append]
    exact ⟨by simpa using hsource, by rw [← hoffset]⟩
  rcases hend with ⟨rfl, htokens⟩ | ⟨fault, -, htokens⟩
  · rw [htokens]
    exact ⟨read ++ used, hbehind⟩
  · rw [htokens]
    exact ⟨read ++ used, hbehind⟩

/-- The cursors that a lexer comes past, character by character, in any number of readings.  A
reading starts where the one before it has stopped. -/
inductive Visits : Cursor → Cursor → Prop
  | here (cursor : Cursor) : Visits cursor cursor
  | inside {cursor : Cursor} {n k : Nat} (measures : cursor.Measures n) (le : k ≤ n) :
      Visits cursor (cursor.advanceBytes k)
  | skip {cursor next later : Cursor} (step : cursor.step = .skip next)
      (visits : Visits next later) :
      Visits cursor later
  | token {cursor next later : Cursor} {located : LocatedToken}
      (step : cursor.step = .token located next) (visits : Visits next later) :
      Visits cursor later
  | again {cursor later : Cursor} (visits : Visits cursor.tokens.2 later) : Visits cursor later

/-- The offset of a cursor belongs to its rest at every character that a lexer comes past. -/
theorem Visits.inStep {later : Cursor} (h : cursor.Visits later)
    (hstart : cursor.InStep source) : later.InStep source := by
  induction h with
  | here => exact hstart
  | inside => exact hstart.advanceBytes _
  | skip hstep _ ih =>
    obtain ⟨n, -, rfl⟩ := exists_measures_of_step (.inl hstep)
    exact ih (hstart.advanceBytes n)
  | token hstep _ ih =>
    obtain ⟨n, -, rfl⟩ := exists_measures_of_step (.inr ⟨_, hstep⟩)
    exact ih (hstart.advanceBytes n)
  | again _ ih => exact ih hstart.tokens

theorem visits_afterCalls (cursor : Cursor) (calls : Nat) :
    cursor.Visits (cursor.afterCalls calls) := by
  induction calls generalizing cursor with
  | zero => exact .here cursor
  | succ calls ih => exact .again (ih cursor.tokens.2)

/-- **Offsets stay in step with characters**, at every character that a lexer comes past in
any number of readings of a text.  The offset is the length in bytes of what is read, a
place between two characters, and what stands behind it is the rest.  A length that is
measured is a place between two characters of the rest, it is not zero, and the cursor steps
over just as many bytes.  A step that passes something steps over such a length, and leaves
less of the text. -/
theorem visits_inStep (source : String) :
    (∀ calls, (start source.toList).Visits ((start source.toList).afterCalls calls)) ∧
    ∀ cursor, (start source.toList).Visits cursor →
      (∃ read : String, cursor.offset = read.utf8ByteSize ∧
        SlicesAt source cursor.offset read (String.ofList cursor.rest)) ∧
      (∀ n, cursor.Measures n →
        0 < n ∧ (cursor.advanceBytes n).offset = cursor.offset + n ∧
        SlicesAt (String.ofList cursor.rest) n (String.ofList (takeBytes n cursor.rest))
          (String.ofList (cursor.advanceBytes n).rest)) ∧
      ∀ next, (cursor.step = .skip next ∨ ∃ located, cursor.step = .token located next) →
        next.rest.length < cursor.rest.length ∧
        ∃ n, cursor.Measures n ∧ next = cursor.advanceBytes n := by
  refine ⟨visits_afterCalls _, ?_⟩
  intro cursor hvisits
  refine ⟨?_, fun n hmeasures => hmeasures.slicesAt, ?_⟩
  · obtain ⟨read, hsource, hoffset⟩ := hvisits.inStep (inStep_start source.toList)
    have hslices := slicesAt_append read cursor.rest
    rw [← hsource, String.ofList_toList, ← hoffset] at hslices
    exact ⟨String.ofList read, hoffset.trans (utf8Length_eq_utf8ByteSize read), hslices⟩
  · intro next hstep
    exact ⟨length_lt_of_step hstep, exists_measures_of_step hstep⟩

/-- Behind a comment with a character of two bytes and a line end, the offset is four, and a
note of two bytes is measured there. -/
theorem visits_inStep_comment :
    ∃ cursor next : Cursor, (start "#é\nC4".toList).Visits cursor ∧ cursor.Measures 2 ∧
      (∃ located, cursor.step = .token located next) ∧
      (∃ read : String, 4 = read.utf8ByteSize ∧ SlicesAt "#é\nC4" 4 read "C4") ∧
      SlicesAt "C4" 2 "C4" "" ∧ next.rest.length < 2 := by
  let behind : Cursor := ⟨3, ⟨1, 3⟩, ['\n', 'C', '4']⟩
  let cursor : Cursor := ⟨4, ⟨2, 1⟩, ['C', '4']⟩
  have htext : "#é\nC4".toList = ['#', 'é', '\n', 'C', '4'] := by decide +kernel
  have hcomment : (start "#é\nC4".toList).step = .skip behind := by
    have hline : ∀ c ∈ ['é'], c ≠ '\n' := by simp
    rw [htext]
    exact step_comment hline (.inr rfl) 0 ⟨1, 1⟩
  have hnewline : behind.step = .token ⟨.newline, ⟨1, 3⟩⟩ cursor :=
    congrArg (Step.token ⟨.newline, ⟨1, 3⟩⟩) (advanceBytes_append ['\n'] ['C', '4'] 3 ⟨1, 3⟩)
  have hscan : NoteSymbol.scan? cursor.rest = some (.note .c none (some 4), 2) := by decide
  have hstep : ∃ located, cursor.step = .token located (cursor.advanceBytes 2) := ⟨_, rfl⟩
  have hvisits : (start "#é\nC4".toList).Visits cursor :=
    .skip hcomment (.token hnewline (.here cursor))
  obtain ⟨-, hcursors⟩ := visits_inStep "#é\nC4"
  obtain ⟨hread, hslices, hsteps⟩ := hcursors cursor hvisits
  obtain ⟨-, -, hslice⟩ := hslices 2 (.note hscan)
  obtain ⟨hless, -⟩ := hsteps _ (.inr hstep)
  have hadvance : cursor.advanceBytes 2 = ⟨6, ⟨2, 3⟩, []⟩ :=
    advanceBytes_append ['C', '4'] [] 4 ⟨2, 1⟩
  rw [hadvance] at hslice
  exact ⟨cursor, cursor.advanceBytes 2, hvisits, .note hscan, hstep, hread, hslice, hless⟩

end Cursor

end BuzzerScript

import BuzzerScript.Proofs.Yaml.PlainWord

/-!
# Cutting a flat mapping into tokens

Each line of a flat mapping is cut into three tokens, and a fourth one is put in front
of them when the colon is seen.  The first line opens the mapping as well, and the end
of the text closes it.

A key that is longer than 1024 bytes is given up before its colon is reached.  The colon then
stands where no value can be, and the stream is malformed.

## Main definitions

* `Yaml.FlatTokens`: the tokens of the lines of a flat mapping.
* `Yaml.Scanner.atLine`, `Yaml.Scanner.atColon`, `Yaml.Scanner.inMapping`: the scanner at the
  places of a line where a token starts.
* `Yaml.Scanner.Steps`: cutting a token off.

## Main statements

* `Yaml.Scanner.run_lines`: the lines of a flat mapping are cut into their tokens.
* `Yaml.tokensOf_flatText`, `Yaml.tokensOf_flatText_long`, `Yaml.tokensOf_nil`: the
  tokens of a flat mapping.
-/

namespace BuzzerScript.Yaml

/-- The most bytes of a key. -/
def maxKeyLength : Nat := 1024

/-- The tokens of the lines of a flat mapping after those that open it.  They end in front of
the first key that is too long. -/
inductive FlatTokens : List FlatLine → List MarkedToken → Prop
  | close (stop : Mark) : FlatTokens [] [⟨.blockEnd, stop⟩, ⟨.streamEnd, stop⟩]
  | long {line : FlatLine} (lines : List FlatLine) (key : maxKeyLength < line.key.length) :
      FlatTokens (line :: lines) []
  | cons {line : FlatLine} {lines : List FlatLine} {tokens : List MarkedToken}
      (key : line.key.length ≤ maxKeyLength) (keyMark valueSign valueMark : Mark)
      (rest : FlatTokens lines tokens) :
      FlatTokens (line :: lines)
        (⟨.key, keyMark⟩ :: ⟨.scalar line.key .plain, keyMark⟩ :: ⟨.value, valueSign⟩ ::
          ⟨.scalar line.value .plain, valueMark⟩ :: tokens)

namespace Scanner

/-! ## The scanner within a flat mapping -/

/-- The scanner where a line starts. -/
def atLine (isOpen : Bool) (newest : List MarkedToken) (count : Nat) (input : Input) :
    Scanner where
  input
  newest
  count
  settled := count
  indent := if isOpen then some 0 else none
  outerIndents := if isOpen then [none] else []

/-- The scanner at the colon after a key that starts at `mark`. -/
def atColon (isOpen : Bool) (newest : List MarkedToken) (count : Nat) (key : List Char)
    (mark : Mark) (input : Input) : Scanner :=
  { atLine isOpen (⟨.scalar key .plain, mark⟩ :: newest) (count + 1) input with
    settled := count
    keyAllowed := false
    possibleKey := some ⟨count, mark, isOpen⟩ }

/-- The scanner between two tokens of the mapping, with no key in sight. -/
def inMapping (keyAllowed : Bool) (newest : List MarkedToken) (count : Nat) (input : Input) :
    Scanner :=
  { atLine true newest count input with keyAllowed }

/-- The next token is cut off, and what can be settled is. -/
def Steps (s settled : Scanner) : Prop :=
  ∃ next, s.fetch = some next ∧ next.settle = some settled

/-! ## Cutting a token off -/

section Fetch

variable {s next : Scanner} {c : Char} {rest : List Char}

theorem unwind_of_not {closes : Nat → Bool} {indent : Option Nat}
    (h : indent.any closes = false) (outer : List (Option Nat)) :
    unwind closes indent outer = (indent, outer, 0) := by
  cases outer with
  | nil => rfl
  | cons => rw [unwind, if_neg (by simp [h])]

/-- No block collection ends at a column that it reaches up to. -/
theorem closeBlocks_of_not {closes : Nat → Bool} (h : s.indent.any closes = false) :
    s.closeBlocks closes = s := by
  rw [closeBlocks, unwind_of_not h]
  split <;> rfl

/-- The next token, when nothing is skipped or closed in front of it. -/
theorem fetch_eq (ready : Scanner) (hready : s.skipToToken.dropStaleKeys = some ready)
    (hcut : ready.isCut = false) (hrest : ready.input.rest = c :: rest)
    (hblocks : ready.indent.any (ready.input.mark.column < ·) = false) :
    s.fetch = (ready.fetchAt c rest).bind fun next =>
      if next.isCut ∧ next.input.rest = [] then none else some next := by
  rw [fetch, hready]
  simp [hcut, hrest, closeBlocks_of_not hblocks]

theorem fetch_cons (ready : Scanner) (hready : s.skipToToken.dropStaleKeys = some ready)
    (hcut : ready.isCut = false) (hrest : ready.input.rest = c :: rest)
    (hblocks : ready.indent.any (ready.input.mark.column < ·) = false)
    (hnext : ready.fetchAt c rest = some next) (hnextCut : next.isCut = false) :
    s.fetch = some next := by
  rw [fetch_eq ready hready hcut hrest hblocks, hnext]
  simp [hnextCut]

theorem startsDocumentMarker_eq_false (hhyphen : c ≠ '-') (hpoint : c ≠ '.') :
    startsDocumentMarker (c :: rest) = false := by
  unfold startsDocumentMarker
  split
  · next a _ _ _ hcons =>
    obtain rfl : c = a := (List.cons.inj hcons).1
    simp [hhyphen, hpoint]
  · rfl

/-- A word is cut off as a plain scalar. -/
theorem fetchAt_word (h : c.isAlphanum = true) (s : Scanner) (rest : List Char) :
    s.fetchAt c rest = s.fetchPlain := by
  have hne : ∀ d : Char, d.isAlphanum = false → c ≠ d := by
    rintro d hd rfl
    rw [h] at hd
    cases hd
  have hword := isWordChar_of_isAlphanum h
  have hmarker : startsDocumentMarker (c :: rest) = false :=
    startsDocumentMarker_eq_false (hne '-' rfl) (hne '.' rfl)
  have hindicator : isIndicator c = false := by
    simp (disch := decide) [isIndicator, hne]
  have hplain : startsPlain s.inFlow c rest = true := by
    simp [startsPlain, hindicator, not_isBlank_of_isWordChar hword,
      not_isBreak_of_isWordChar hword]
  simp (disch := decide) [fetchAt, hmarker, hplain, hne]

theorem fetchAt_colon (s : Scanner) (rest : List Char) :
    s.fetchAt ':' (' ' :: rest) = s.fetchValue := by
  have hmarker : startsDocumentMarker (':' :: ' ' :: rest) = false :=
    startsDocumentMarker_eq_false (by decide) (by decide)
  simp [fetchAt, hmarker, startsBlank, isBlank]

theorem fetchPlain_of_read {saved : Scanner} {content : List Char} {isBroken : Bool}
    {after : Input} (hsave : s.saveKey = some saved)
    (hread : readPlain saved.inFlow ((saved.indent.map (· + 1)).getD 0) [] {} saved.input.mark
      saved.input.rest = some (content, isBroken, after)) :
    s.fetchPlain =
      some { saved.push (.scalar content .plain) after with keyAllowed := isBroken } := by
  rw [fetchPlain, hsave]
  simp [hread]

end Fetch

/-! ## A line -/

section Line

variable {isOpen : Bool} {newest : List MarkedToken} {count : Nat} {mark : Mark}

/-- A key is cut off. -/
theorem fetch_key (hcolumn : mark.column = 0) (line : FlatLine) (tail : List Char) :
    (atLine isOpen newest count ⟨mark, line.text ++ tail⟩).fetch =
      some (atColon isOpen newest count line.key mark
        ⟨line.key.foldl Mark.after mark, ':' :: ' ' :: (line.value ++ tail)⟩) := by
  obtain ⟨first, rest, hkey, hfirst⟩ := line.isPlainWord_key.head
  have hcons : line.text ++ tail = first :: (rest ++ ':' :: ' ' :: (line.value ++ tail)) := by
    rw [FlatLine.text_append, hkey, List.cons_append]
  have hskip : (atLine isOpen newest count ⟨mark, line.text ++ tail⟩).skipToToken =
      atLine isOpen newest count ⟨mark, line.text ++ tail⟩ := by
    simp [skipToToken, atLine, inFlow, hcons,
      skipBlanks_word (.inl (isWordChar_of_isAlphanum hfirst))]
  have hsave : (atLine isOpen newest count ⟨mark, line.text ++ tail⟩).saveKey =
      some { atLine isOpen newest count ⟨mark, line.text ++ tail⟩ with
        possibleKey := some ⟨count, mark, isOpen⟩ } := by
    cases isOpen <;> simp [saveKey, removeKey, dropKey, atLine, inFlow, hcolumn]
  refine fetch_cons (atLine isOpen newest count ⟨mark, line.text ++ tail⟩) (by rw [hskip]; rfl)
    rfl
    hcons ?_ ?_ rfl
  · cases isOpen <;> simp [atLine]
  · rw [fetchAt_word hfirst]
    refine fetchPlain_of_read hsave ?_
    rw [FlatLine.text_append]
    exact readPlain_colon line.isPlainWord_key.all

/-- A key that is short enough may still be one at its colon. -/
theorem isStale_key {word : List Char} (h : ∀ c ∈ word, isWordChar c = true)
    (key : PossibleKey) :
    isStale (word.foldl Mark.after key.mark) key = decide (maxKeyLength < word.length) := by
  rw [foldl_after_word h, isStale, maxKeyLength]
  simp

section Keys

variable {s : Scanner}

theorem dropStaleKeys_of_none (hkey : s.possibleKey = none) (houter : s.outerKeys = []) :
    s.dropStaleKeys = some s := by
  cases s
  cases hkey
  cases houter
  rfl

theorem dropStaleKeys_of_not_isStale {key : PossibleKey} (hkey : s.possibleKey = some key)
    (houter : s.outerKeys = []) (hstale : isStale s.input.mark key = false) :
    s.dropStaleKeys = some s := by
  cases s
  cases hkey
  cases houter
  simp [dropStaleKeys, hstale]

/-- Everything is settled if there is no possible key. -/
theorem settle_of_none (hkey : s.possibleKey = none) (houter : s.outerKeys = [])
    (hsettled : s.settled < s.count) : s.settle = some { s with settled := s.count } := by
  rw [settle, if_pos hsettled, dropStaleKeys_of_none hkey houter]
  simp [hkey, houter]
  omega

end Keys

section Colon

variable {line : FlatLine} {rest : List Char}

/-- The place of the colon after a key. -/
def colonMark (mark : Mark) (line : FlatLine) : Mark := line.key.foldl Mark.after mark

/-- The place of the value after a key. -/
def valueMark (mark : Mark) (line : FlatLine) : Mark :=
  ((colonMark mark line).after ':').after ' '

theorem settle_atColon (h : line.key.length ≤ maxKeyLength) :
    (atColon isOpen newest count line.key mark ⟨colonMark mark line, rest⟩).settle =
      some (atColon isOpen newest count line.key mark ⟨colonMark mark line, rest⟩) := by
  have hstale := isStale_key line.isPlainWord_key.all ⟨count, mark, isOpen⟩
  rw [decide_eq_false (Nat.not_lt.mpr h)] at hstale
  rw [settle, dropStaleKeys_of_not_isStale rfl rfl hstale]
  simp [atColon, atLine]

/-- The tokens up to a key that opens the mapping, or is one of its further keys. -/
def opened (isOpen : Bool) (newest : List MarkedToken) (mark : Mark) : List MarkedToken :=
  if isOpen then newest else ⟨.blockMappingStart, mark⟩ :: newest

theorem fetch_colon (hcolumn : mark.column = 0) (h : line.key.length ≤ maxKeyLength) :
    (atColon isOpen newest count line.key mark
      ⟨colonMark mark line, ':' :: ' ' :: rest⟩).fetch =
      some { inMapping false
        (⟨.value, colonMark mark line⟩ :: ⟨.scalar line.key .plain, mark⟩ :: ⟨.key, mark⟩ ::
          opened isOpen newest mark) (if isOpen then count + 3 else count + 4)
        ⟨(colonMark mark line).after ':', ' ' :: rest⟩ with settled := count } := by
  have hstale := isStale_key line.isPlainWord_key.all ⟨count, mark, isOpen⟩
  rw [decide_eq_false (Nat.not_lt.mpr h)] at hstale
  have hskip (rest : List Char) :
      (atColon isOpen newest count line.key mark
        ⟨colonMark mark line, ':' :: rest⟩).skipToToken =
        atColon isOpen newest count line.key mark ⟨colonMark mark line, ':' :: rest⟩ := by
    simp [skipToToken, atColon, atLine, inFlow, skipBlanks_word]
  refine fetch_cons
    (atColon isOpen newest count line.key mark ⟨colonMark mark line, ':' :: ' ' :: rest⟩) ?_
    rfl rfl ?_ ?_ rfl
  · rw [hskip]
    exact dropStaleKeys_of_not_isStale rfl rfl hstale
  · cases isOpen <;> simp [atColon, atLine]
  · rw [fetchAt_colon]
    have hkey : count + 1 - count = 1 := by omega
    have hstart : count + 1 + 1 - count = 2 := by omega
    cases isOpen <;>
      simp [fetchValue, atColon, inMapping, atLine, insert, openBlock, inFlow, deeper, hcolumn,
        hkey, hstart, pushSign, push, Input.drop, opened]

end Colon

/-- A value is cut off, and a key may follow if its line ends. -/
theorem fetch_value {line : FlatLine} {tail : List Char} {isBroken : Bool} {after : Input}
    (hread : readPlain false 1 [] {} (mark.after ' ') (line.value ++ tail) =
      some (line.value, isBroken, after)) :
    (inMapping false newest count ⟨mark, ' ' :: (line.value ++ tail)⟩).fetch =
      some { inMapping isBroken
          (⟨.scalar line.value .plain, mark.after ' '⟩ :: newest) (count + 1) after with
        settled := count } := by
  obtain ⟨first, rest, hvalue, hfirst⟩ := line.isPlainWord_value.head
  have hcons : line.value ++ tail = first :: (rest ++ tail) := by rw [hvalue, List.cons_append]
  have hskip : (inMapping false newest count ⟨mark, ' ' :: (line.value ++ tail)⟩).skipToToken =
      inMapping false newest count ⟨mark.after ' ', line.value ++ tail⟩ := by
    simp [skipToToken, inMapping, atLine, inFlow, hcons,
      skipBlanks_space (isWordChar_of_isAlphanum hfirst)]
  refine fetch_cons (inMapping false newest count ⟨mark.after ' ', line.value ++ tail⟩)
    (by rw [hskip]; rfl) rfl hcons (by simp [inMapping, atLine]) ?_ rfl
  have hsave : (inMapping false newest count ⟨mark.after ' ', line.value ++ tail⟩).saveKey =
      some (inMapping false newest count ⟨mark.after ' ', line.value ++ tail⟩) := rfl
  rw [fetchAt_word hfirst]
  exact fetchPlain_of_read hsave hread

/-- The place of the end of a stream, which is the start of a line. -/
def endMark (mark : Mark) : Mark :=
  if mark.column = 0 then mark else ⟨mark.index, mark.line + 1, 0⟩

/-- The end of the text closes the mapping. -/
theorem fetch_end :
    (inMapping false newest count ⟨mark, []⟩).fetch =
      some { inMapping false
          (⟨.streamEnd, endMark mark⟩ :: ⟨.blockEnd, endMark mark⟩ :: newest)
          (count + 2) ⟨endMark mark, []⟩ with
        settled := count
        indent := none
        outerIndents := [] } := by
  have hready : (inMapping false newest count ⟨mark, []⟩).skipToToken.dropStaleKeys =
      some (inMapping false newest count ⟨mark, []⟩) := rfl
  rw [fetch, hready]
  simp [fetchEnd, closeBlocks, unwind, closeInnermost, removeKey, dropKey, inFlow, push,
    inMapping, atLine, endMark]

end Line

/-! ## Steps -/

section Steps

variable {isOpen : Bool} {newest : List MarkedToken} {count : Nat} {mark : Mark}
  {line : FlatLine}

theorem steps_key (hcolumn : mark.column = 0) (hkey : line.key.length ≤ maxKeyLength)
    (tail : List Char) :
    Steps (atLine isOpen newest count ⟨mark, line.text ++ tail⟩)
      (atColon isOpen newest count line.key mark
        ⟨colonMark mark line, ':' :: ' ' :: (line.value ++ tail)⟩) :=
  ⟨_, fetch_key hcolumn line tail, settle_atColon hkey⟩

theorem steps_colon (hcolumn : mark.column = 0) (hkey : line.key.length ≤ maxKeyLength)
    (rest : List Char) :
    Steps (atColon isOpen newest count line.key mark ⟨colonMark mark line, ':' :: ' ' :: rest⟩)
      (inMapping false (⟨.value, colonMark mark line⟩ :: ⟨.scalar line.key .plain, mark⟩ ::
          ⟨.key, mark⟩ :: opened isOpen newest mark) (if isOpen then count + 3 else count + 4)
        ⟨(colonMark mark line).after ':', ' ' :: rest⟩) := by
  refine ⟨_, fetch_colon hcolumn hkey, ?_⟩
  rw [settle_of_none rfl rfl (by cases isOpen <;> simp [inMapping, atLine])]
  rfl

theorem steps_value {tail : List Char} {isBroken : Bool} {after : Input}
    (hread : readPlain false 1 [] {} (mark.after ' ') (line.value ++ tail) =
      some (line.value, isBroken, after)) :
    Steps (inMapping false newest count ⟨mark, ' ' :: (line.value ++ tail)⟩)
      (inMapping isBroken (⟨.scalar line.value .plain, mark.after ' '⟩ :: newest) (count + 1)
        after) := by
  refine ⟨_, fetch_value hread, ?_⟩
  rw [settle_of_none rfl rfl (Nat.lt_succ_self count)]
  rfl

theorem steps_end :
    Steps (inMapping false newest count ⟨mark, []⟩)
      { inMapping false (⟨.streamEnd, endMark mark⟩ :: ⟨.blockEnd, endMark mark⟩ :: newest)
          (count + 2) ⟨endMark mark, []⟩ with
        indent := none
        outerIndents := [] } := by
  refine ⟨_, fetch_end, ?_⟩
  rw [settle_of_none rfl rfl (Nat.lt_add_of_pos_right (by decide))]
  rfl

end Steps

/-! ## Running -/

section Run

variable {s settled : Scanner}

theorem run_of_steps (h : Steps s settled) (hdone : settled.isDone = false)
    (hless : settled.input.rest.length < s.input.rest.length) : s.run = settled.run := by
  obtain ⟨next, hfetch, hsettle⟩ := h
  rw [run, hfetch]
  simp [hsettle, hdone, hless]

theorem run_of_done (h : Steps s settled) (hdone : settled.isDone = true) :
    s.run = settled.newest.reverse := by
  obtain ⟨next, hfetch, hsettle⟩ := h
  rw [run, hfetch]
  simp [hsettle, hdone]

variable {isOpen isBroken : Bool} {newest : List MarkedToken} {count : Nat} {mark : Mark}
  {line : FlatLine} {tail : List Char} {after : Input}

theorem length_colon_lt (line : FlatLine) (tail : List Char) :
    (':' :: ' ' :: (line.value ++ tail)).length < (line.text ++ tail).length := by
  obtain ⟨first, rest, hword, -⟩ := line.isPlainWord_key.head
  rw [FlatLine.text_append, hword]
  simp only [List.length_append, List.length_cons]
  omega

/-- The tokens of a line, the last one first, on top of those in front of it. -/
def pushLine (isOpen : Bool) (newest : List MarkedToken) (mark : Mark) (line : FlatLine) :
    List MarkedToken :=
  ⟨.scalar line.value .plain, valueMark mark line⟩ :: ⟨.value, colonMark mark line⟩ ::
    ⟨.scalar line.key .plain, mark⟩ :: ⟨.key, mark⟩ :: opened isOpen newest mark

theorem reverse_pushLine (tokens : List MarkedToken) :
    (pushLine isOpen newest mark line).reverse ++ tokens =
      (opened isOpen newest mark).reverse ++
        (⟨.key, mark⟩ :: ⟨.scalar line.key .plain, mark⟩ :: ⟨.value, colonMark mark line⟩ ::
          ⟨.scalar line.value .plain, valueMark mark line⟩ :: tokens) := by
  simp [pushLine]

/-- A line is cut into its four tokens. -/
theorem run_line (hcolumn : mark.column = 0) (hkey : line.key.length ≤ maxKeyLength)
    (hread : readPlain false 1 [] {} (valueMark mark line) (line.value ++ tail) =
      some (line.value, isBroken, after)) (hless : after.rest.length ≤ tail.length) :
    (atLine isOpen newest count ⟨mark, line.text ++ tail⟩).run =
      (inMapping isBroken (pushLine isOpen newest mark line)
        ((if isOpen then count + 3 else count + 4) + 1) after).run := by
  have hvalue : after.rest.length < (' ' :: (line.value ++ tail)).length := by
    rw [List.length_cons, List.length_append]
    omega
  rw [run_of_steps (steps_key hcolumn hkey tail) rfl (length_colon_lt line tail),
    run_of_steps (steps_colon hcolumn hkey (line.value ++ tail)) rfl (Nat.lt_succ_self _),
    run_of_steps (steps_value hread) rfl hvalue]
  rfl

/-- The end of the text closes the mapping. -/
theorem run_end : (inMapping false newest count ⟨mark, []⟩).run =
    newest.reverse ++ [⟨.blockEnd, endMark mark⟩, ⟨.streamEnd, endMark mark⟩] := by
  rw [run_of_done steps_end rfl]
  simp [inMapping, atLine]

theorem settle_long_open (hkey : maxKeyLength < line.key.length) {rest : List Char} :
    (atColon true newest count line.key mark ⟨colonMark mark line, rest⟩).settle = none := by
  have hstale := isStale_key line.isPlainWord_key.all ⟨count, mark, true⟩
  rw [decide_eq_true hkey] at hstale
  simp [settle, dropStaleKeys, atColon, atLine, colonMark, hstale]

/-- If the mapping is open, a key that is too long ends the run at once. -/
theorem run_long_open (hcolumn : mark.column = 0) (hkey : maxKeyLength < line.key.length) :
    (atLine true newest count ⟨mark, line.text ++ tail⟩).run = newest.reverse := by
  have hcount : count + 1 - count = 1 := by omega
  rw [run, fetch_key hcolumn line tail]
  dsimp only
  rw [← colonMark, settle_long_open hkey]
  simp [settledTokens, atColon, atLine, hcount]

/-- The scanner at the colon after a first key that was given up. -/
def atStrayColon (newest : List MarkedToken) (count : Nat) (input : Input) : Scanner :=
  { atLine false newest count input with keyAllowed := false }

theorem steps_long_first (hcolumn : mark.column = 0) (hkey : maxKeyLength < line.key.length)
    (tail : List Char) :
    Steps (atLine false newest count ⟨mark, line.text ++ tail⟩)
      (atStrayColon (⟨.scalar line.key .plain, mark⟩ :: newest) (count + 1)
        ⟨colonMark mark line, ':' :: ' ' :: (line.value ++ tail)⟩) := by
  have hstale := isStale_key line.isPlainWord_key.all ⟨count, mark, false⟩
  rw [decide_eq_true hkey] at hstale
  refine ⟨_, fetch_key hcolumn line tail, ?_⟩
  simp [settle, dropStaleKeys, atColon, atStrayColon, atLine, colonMark, hstale]

theorem fetch_stray_colon (rest : List Char) :
    (atStrayColon newest count ⟨mark, ':' :: ' ' :: rest⟩).fetch = none := by
  have hready :
      (atStrayColon newest count ⟨mark, ':' :: ' ' :: rest⟩).skipToToken.dropStaleKeys =
        some (atStrayColon newest count ⟨mark, ':' :: ' ' :: rest⟩) := by
    simp [skipToToken, dropStaleKeys, atStrayColon, atLine, inFlow, skipBlanks_word]
  rw [fetch_eq (atStrayColon newest count ⟨mark, ':' :: ' ' :: rest⟩) hready rfl rfl rfl,
    fetchAt_colon]
  rfl

/-- The first key is left as a scalar if it is too long, and its colon is out of place. -/
theorem run_long_first (hcolumn : mark.column = 0) (hkey : maxKeyLength < line.key.length) :
    (atLine false newest count ⟨mark, line.text ++ tail⟩).run =
      newest.reverse ++ [⟨.scalar line.key .plain, mark⟩] := by
  rw [run_of_steps (steps_long_first hcolumn hkey tail) rfl (length_colon_lt line tail), run,
    fetch_stray_colon]
  simp [settledTokens, atStrayColon, atLine]

/-- The last value ends with the text. -/
theorem readPlain_last_value (line : FlatLine) (mark : Mark) :
    readPlain false 1 [] {} mark (line.value ++ moreText []) =
      some (line.value, false, ⟨line.value.foldl Mark.after mark, []⟩) := by
  rw [moreText_nil, List.append_nil]
  exact readPlain_nil line.isPlainWord_value.all

/-- A value ends with its line if another line follows. -/
theorem readPlain_value (line next : FlatLine) (lines : List FlatLine) (mark : Mark) :
    readPlain false 1 [] {} mark (line.value ++ moreText (next :: lines)) =
      some (line.value, true,
        ⟨(line.value.foldl Mark.after mark).after '\n', flatText (next :: lines)⟩) := by
  obtain ⟨first, rest, hword, hfirst⟩ := next.isPlainWord_key.head
  rw [moreText_cons, flatText, FlatLine.text_append, hword, List.cons_append]
  exact readPlain_newline line.isPlainWord_value.all (isWordChar_of_isAlphanum hfirst)
    Nat.one_pos

/-- The lines of a mapping, the first of which may open it. -/
theorem run_lines (isOpen : Bool) (newest : List MarkedToken) (count : Nat)
    (hcolumn : mark.column = 0) (hkey : line.key.length ≤ maxKeyLength)
    (lines : List FlatLine) :
    ∃ tokens, FlatTokens (line :: lines) tokens ∧
      (atLine isOpen newest count ⟨mark, flatText (line :: lines)⟩).run =
        (opened isOpen newest mark).reverse ++ tokens := by
  -- the tokens so far are arbitrary, and the mapping is open from the second line on
  induction lines generalizing isOpen line newest count mark with
  | nil =>
    refine ⟨_, .cons hkey mark (colonMark mark line) (valueMark mark line) (.close (endMark
      (line.value.foldl Mark.after (valueMark mark line)))), ?_⟩
    rw [flatText, run_line hcolumn hkey (readPlain_last_value line _) (Nat.le_refl 0), run_end,
      reverse_pushLine]
  | cons next lines ih =>
    rw [flatText, run_line hcolumn hkey (readPlain_value line next lines _) (Nat.le_succ _)]
    rcases Nat.lt_or_ge maxKeyLength next.key.length with hlong | hshort
    · refine ⟨_, .cons hkey mark (colonMark mark line) (valueMark mark line)
        (.long lines hlong), ?_⟩
      rw [← reverse_pushLine, List.append_nil]
      exact run_long_open rfl hlong
    · have hnext :
        ((line.value.foldl Mark.after (valueMark mark line)).after '\n').column = 0 := rfl
      obtain ⟨tokens, htokens, hrun⟩ := ih true (pushLine isOpen newest mark line)
        ((if isOpen then count + 3 else count + 4) + 1) hnext hshort
      refine ⟨_, .cons hkey mark (colonMark mark line) (valueMark mark line) htokens, ?_⟩
      rw [← reverse_pushLine]
      exact hrun

end Run

end Scanner

theorem tokensOf_eq_run (lines : List FlatLine) :
    tokensOf (flatText lines) = (Scanner.atLine false [] 0 ⟨{}, flatText lines⟩).run := by
  rw [tokensOf, readablePart_flatText]
  simp [normalize_flatText, Scanner.atLine]

/-- The tokens of a flat mapping with a key that is short enough. -/
theorem tokensOf_flatText {line : FlatLine} (hkey : line.key.length ≤ maxKeyLength)
    (lines : List FlatLine) :
    ∃ tokens, FlatTokens (line :: lines) tokens ∧
      tokensOf (flatText (line :: lines)) = ⟨.blockMappingStart, {}⟩ :: tokens := by
  rw [tokensOf_eq_run]
  exact Scanner.run_lines false [] 0 rfl hkey lines

/-- The only token if the first key is too long. -/
theorem tokensOf_flatText_long {line : FlatLine} (hkey : maxKeyLength < line.key.length)
    (lines : List FlatLine) :
    tokensOf (flatText (line :: lines)) = [⟨.scalar line.key .plain, {}⟩] := by
  rw [tokensOf_eq_run]
  exact Scanner.run_long_first rfl hkey

/-- The only token of a text without lines. -/
theorem tokensOf_nil : tokensOf (flatText []) = [⟨.streamEnd, {}⟩] := by
  have hfetch : (Scanner.atLine false [] 0 ⟨{}, []⟩).fetch =
      some { Scanner.atLine false [⟨.streamEnd, {}⟩] 1 ⟨{}, []⟩ with
        settled := 0
        keyAllowed := false } := rfl
  rw [tokensOf_eq_run, flatText,
    Scanner.run_of_done ⟨_, hfetch, Scanner.settle_of_none rfl rfl Nat.one_pos⟩ rfl]
  rfl

end BuzzerScript.Yaml

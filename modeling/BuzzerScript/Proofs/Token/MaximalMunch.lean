import BuzzerScript.Proofs.Token.Bytes
import BuzzerScript.Proofs.Token.LongestMatch

/-!
# Maximal munch

`readLexeme` finds the lexeme at the start of a text whenever there is one: the longest text of
any class, a note before an identifier of the same length.

## Main definitions

* `ReadsAs`: a token, and the length of the lexeme at the start of a text that it is read from.

## Main statements

* `IsLexeme.unique`: a text starts with one lexeme at most.
* `readLexeme_eq_ok_iff`: what is read is the lexeme at the start of the text.
-/

namespace BuzzerScript

/-! ## One lexeme at most -/

theorem IsLexeme.length_le {kind other : LexemeClass} {text rest text' rest' : List Char}
    (h : IsLexeme kind text rest) (h' : IsLexeme other text' rest')
    (heq : text' ++ rest' = text ++ rest) : text'.length ≤ text.length := by
  refine h.longest other text' h'.spells ?_
  rw [← heq]
  exact List.prefix_append text' rest'

/-- A text starts with one lexeme at most. -/
theorem IsLexeme.unique {kind other : LexemeClass} {text rest text' rest' : List Char}
    (h : IsLexeme kind text rest) (h' : IsLexeme other text' rest')
    (heq : text' ++ rest' = text ++ rest) : other = kind ∧ text' = text ∧ rest' = rest := by
  have hlength : text'.length = text.length :=
    Nat.le_antisymm (h.length_le h' heq) (h'.length_le h heq.symm)
  obtain ⟨rfl, rfl⟩ := List.append_inj heq hlength
  refine ⟨?_, rfl, rfl⟩
  cases text' with
  | nil => exact absurd rfl (LexemeClass.ne_nil_of_spells h.spells)
  | cons c tail =>
    have hkind := LexemeClass.startsWith_of_spells h.spells
    have hother := LexemeClass.startsWith_of_spells h'.spells
    cases hword : isIdentifierStart c with
    | false => exact LexemeClass.eq_of_startsWith hother hkind hword
    | true =>
      -- Both are words, and a word that is a note symbol is no identifier.
      rcases LexemeClass.isWord_of_startsWith hkind hword with rfl | rfl
      · rcases LexemeClass.isWord_of_startsWith hother hword with rfl | rfl
        · rfl
        · exact absurd h.spells (h'.note_first rfl)
      · rcases LexemeClass.isWord_of_startsWith hother hword with rfl | rfl
        · exact absurd h'.spells (h.note_first rfl)
        · rfl

/-- A text of a class denotes one token at most. -/
theorem LexemeClass.Denotes.unique {kind : LexemeClass} {text : List Char}
    {token other : Token} (h : kind.Denotes text token) (h' : kind.Denotes text other) :
    other = token := by
  cases h with
  | number text d value hread hrounded hfinite =>
    cases h' with
    | number text d' value' hread' hrounded' hfinite' =>
      rw [hread, Option.some.injEq] at hread'
      rw [← hrounded, ← hrounded', hread']
  | _ =>
    cases h'
    rfl

/-! ## What is read -/

/-- The token of the lexeme at the start of a text, with the length of the lexeme. -/
def ReadsAs (text : List Char) (token : Token) (n : Nat) : Prop :=
  ∃ (kind : LexemeClass) (lexeme rest : List Char), text = lexeme ++ rest ∧
    IsLexeme kind lexeme rest ∧ kind.Denotes lexeme token ∧ n = lexeme.length

theorem ReadsAs.unique {text : List Char} {token other : Token} {n m : Nat}
    (h : ReadsAs text token n) (h' : ReadsAs text other m) : other = token ∧ m = n := by
  obtain ⟨kind, lexeme, rest, rfl, hlexeme, hdenotes, rfl⟩ := h
  obtain ⟨kind', lexeme', rest', heq, hlexeme', hdenotes', rfl⟩ := h'
  obtain ⟨rfl, rfl, rfl⟩ := hlexeme.unique hlexeme' heq.symm
  exact ⟨hdenotes.unique hdenotes', rfl⟩

/-- Where no word can start, the longest text of the only class is the lexeme. -/
theorem IsLongest.isLexeme {kind : LexemeClass} {c : Char} {tail text rest : List Char}
    (h : IsLongest kind text rest) (htext : c :: tail = text ++ rest)
    (hkind : kind.startsWith c = true) (hword : isIdentifierStart c = false) :
    IsLexeme kind text rest := by
  refine ⟨h.spells, ?_, ?_⟩
  · intro other candidate hspells hstarts
    have hother : other.startsWith c = true :=
      LexemeClass.startsWith_of_starts hspells (htext ▸ hstarts)
    obtain rfl := LexemeClass.eq_of_startsWith hother hkind hword
    exact h.longest candidate hspells hstarts
  · rintro rfl
    rw [LexemeClass.startsWith, hword] at hkind
    exact absurd hkind (by simp)

theorem takeBytes_lexeme {kind : LexemeClass} {lexeme : List Char} (h : kind.Spells lexeme)
    (rest : List Char) : takeBytes lexeme.length (lexeme ++ rest) = lexeme := by
  rw [← utf8Length_eq_length (LexemeClass.toNat_lt_of_spells h)]
  exact takeBytes_append lexeme rest

/-! ## Words -/

theorem length_identifier {c : Char} (hword : isIdentifierStart c = true) (tail : List Char) :
    identifierLength (c :: tail) = (c :: tail.takeWhile isIdentifierPart).length := by
  simp only [identifierLength, hword, if_true, List.length_cons]
  omega

/-- Where a word can start, the lexeme is a word that is as long as any note symbol and any
identifier there, and no identifier if it is a note symbol. -/
theorem isLexeme_of_word {kind : LexemeClass} {c : Char} {tail text rest : List Char}
    (hword : isIdentifierStart c = true) (htext : c :: tail = text ++ rest)
    (hspells : kind.Spells text)
    (hnote : ∀ symbol : NoteSymbol, symbol.chars <+: c :: tail →
      symbol.chars.length ≤ text.length)
    (hidentifier : identifierLength (c :: tail) ≤ text.length)
    (hfirst : kind = .identifier → ¬ LexemeClass.note.Spells text) :
    IsLexeme kind text rest := by
  refine ⟨hspells, ?_, hfirst⟩
  intro other candidate hcandidate hstarts
  rw [← htext] at hstarts
  have hstart := LexemeClass.startsWith_of_starts hcandidate hstarts
  rcases LexemeClass.isWord_of_startsWith hstart hword with rfl | rfl
  · obtain ⟨symbol, hsymbol⟩ := hcandidate
    rw [hsymbol] at hstarts ⊢
    exact hnote symbol hstarts
  · have hlongest := (isLongest_identifier hword tail).longest candidate hcandidate
    rw [List.cons_append, List.takeWhile_append_dropWhile] at hlongest
    have hle := hlongest hstarts
    rw [← length_identifier hword] at hle
    exact hle.trans hidentifier

/-- The identifier at the start of a text, where no note symbol is as long. -/
theorem readsAs_identifier {c : Char} {tail : List Char} (hword : isIdentifierStart c = true)
    (hnote : ∀ symbol : NoteSymbol, symbol.chars <+: c :: tail →
      symbol.chars.length < identifierLength (c :: tail)) :
    ReadsAs (c :: tail)
      (.identifier (String.ofList (takeBytes (identifierLength (c :: tail)) (c :: tail))))
      (identifierLength (c :: tail)) := by
  have htext : c :: tail =
      (c :: tail.takeWhile isIdentifierPart) ++ tail.dropWhile isIdentifierPart := by
    rw [List.cons_append, List.takeWhile_append_dropWhile]
  have hlength := length_identifier hword tail
  have hspells := (isLongest_identifier hword tail).spells
  rw [hlength] at hnote ⊢
  have hlexeme : IsLexeme .identifier (c :: tail.takeWhile isIdentifierPart)
      (tail.dropWhile isIdentifierPart) := by
    refine isLexeme_of_word hword htext hspells ?_ hlength.le ?_
    · intro symbol hstarts
      exact (hnote symbol hstarts).le
    · rintro - ⟨symbol, hsymbol⟩
      have hlt := hnote symbol (by rw [← hsymbol, htext]; exact List.prefix_append _ _)
      rw [hsymbol] at hlt
      omega
  have htake := takeBytes_lexeme hspells (tail.dropWhile isIdentifierPart)
  rw [← htext] at htake
  rw [htake]
  exact ⟨.identifier, _, _, htext, hlexeme, .identifier _, rfl⟩

/-- The note symbol at the start of a text, where no identifier is longer. -/
theorem readsAs_note {c : Char} {tail : List Char} {symbol : NoteSymbol} {n : Nat}
    (hword : isIdentifierStart c = true)
    (hscan : NoteSymbol.scan? (c :: tail) = some (symbol, n))
    (hidentifier : identifierLength (c :: tail) ≤ n) :
    ReadsAs (c :: tail) (.note (String.ofList (takeBytes n (c :: tail)))) n := by
  obtain ⟨⟨rest, htext⟩, rfl⟩ := NoteSymbol.scan?_prefix hscan
  have hspells : LexemeClass.note.Spells symbol.chars := ⟨symbol, rfl⟩
  have hlexeme : IsLexeme .note symbol.chars rest := by
    refine isLexeme_of_word hword htext.symm hspells ?_ hidentifier (by simp)
    intro other hstarts
    obtain ⟨found, m, hfound, hle⟩ := NoteSymbol.scan?_longest hstarts
    rw [hscan, Option.some.injEq, Prod.mk.injEq] at hfound
    rw [hfound.2]
    exact hle
  have htake := takeBytes_lexeme hspells rest
  rw [htext] at htake
  rw [htake]
  exact ⟨.note, _, rest, htext.symm, hlexeme, .note _, rfl⟩

theorem readsAs_readWord {c : Char} (hword : isIdentifierStart c = true) (tail : List Char) :
    ReadsAs (c :: tail) (readWord (c :: tail)).1 (readWord (c :: tail)).2 := by
  unfold readWord
  split
  · next symbol n hscan =>
    by_cases hle : identifierLength (c :: tail) ≤ n
    · simp only [if_pos hle]
      exact readsAs_note hword hscan hle
    · simp only [if_neg hle]
      refine readsAs_identifier hword ?_
      intro other hstarts
      obtain ⟨found, m, hfound, hother⟩ := NoteSymbol.scan?_longest hstarts
      rw [hscan, Option.some.injEq, Prod.mk.injEq] at hfound
      omega
  · next hscan =>
    refine readsAs_identifier hword ?_
    intro other hstarts
    obtain ⟨found, m, hfound, -⟩ := NoteSymbol.scan?_longest hstarts
    rw [hscan] at hfound
    exact absurd hfound (by simp)

/-! ## Lexemes -/

theorem IsLongest.readsAs {kind : LexemeClass} {c : Char} {tail text rest : List Char}
    {token : Token} (h : IsLongest kind text rest) (htext : c :: tail = text ++ rest)
    (hkind : kind.startsWith c = true) (hword : isIdentifierStart c = false)
    (hdenotes : kind.Denotes text token) : ReadsAs (c :: tail) token text.length :=
  ⟨kind, text, rest, htext, h.isLexeme htext hkind hword, hdenotes, rfl⟩

theorem readsAs_numeral {c : Char} {tail : List Char} (hc : c.isDigit = true)
    (hfinite : (numeralValue (c :: tail)).isFinite = true) :
    ReadsAs (c :: tail) (.number (numeralValue (c :: tail))) (numeralLength (c :: tail)) := by
  obtain ⟨rest, htext⟩ := numeralText_prefix (c :: tail)
  obtain ⟨d, hread, hrounded⟩ := ofChars?_numeralText hc tail
  rw [← length_numeralText]
  exact (isLongest_numeral hc htext.symm).readsAs htext.symm hc
    (isIdentifierStart_of_isDigit hc)
    (.number _ d _ hread hrounded hfinite)

/-- What is read is the lexeme at the start of the text. -/
theorem readsAs_of_readLexeme {c : Char} {tail : List Char} {token : Token} {n : Nat}
    (h : readLexeme c tail = .ok (token, n)) : ReadsAs (c :: tail) token n := by
  simp only [readLexeme] at h
  split at h
  · next hc =>
    obtain ⟨rfl, rfl⟩ : .newline = token ∧ 1 = n := by simpa using h
    subst hc
    exact (isLongest_sign .newline fun _ => Iff.rfl).readsAs rfl rfl (by decide) (.newline _)
  split at h
  · next hc =>
    obtain ⟨rfl, rfl⟩ : .equal = token ∧ 1 = n := by simpa using h
    subst hc
    exact (isLongest_sign .equal fun _ => Iff.rfl).readsAs rfl rfl (by decide) (.equal _)
  split at h
  · next hc =>
    obtain ⟨rfl, rfl⟩ : .bar = token ∧ barLength (c :: tail) = n := by simpa using h
    subst hc
    exact (isLongest_bar tail).readsAs List.takeWhile_append_dropWhile.symm rfl (by decide)
      (.bar _)
  split at h
  · next hc =>
    split at h
    · next hstarts =>
      obtain ⟨rfl, rfl⟩ : .track = token ∧ trackWord.length = n := by simpa using h
      obtain ⟨rest, htext⟩ := List.isPrefixOf_iff_prefix.mp hstarts
      subst hc
      exact (isLongest_sign .track fun _ => Iff.rfl).readsAs htext.symm rfl (by decide)
        (.track _)
    · simp at h
  split at h
  · next hc =>
    split at h
    · next hfinite =>
      obtain ⟨rfl, rfl⟩ :
          .number (numeralValue (c :: tail)) = token ∧ numeralLength (c :: tail) = n := by
        simpa using h
      exact readsAs_numeral hc hfinite
    · simp at h
  split at h
  · next hword =>
    have hread : readWord (c :: tail) = (token, n) := by simpa using h
    have hreads := readsAs_readWord hword tail
    rw [hread] at hreads
    exact hreads
  · simp at h

theorem ReadsAs.exists_startsWith {c : Char} {tail : List Char} {token : Token} {n : Nat}
    (h : ReadsAs (c :: tail) token n) :
    ∃ kind lexeme rest, c :: tail = lexeme ++ rest ∧ kind.startsWith c = true ∧
      IsLexeme kind lexeme rest ∧ kind.Denotes lexeme token := by
  obtain ⟨kind, lexeme, rest, htext, hlexeme, hdenotes, -⟩ := h
  have hstarts : lexeme <+: c :: tail := by
    rw [htext]
    exact List.prefix_append lexeme rest
  exact ⟨kind, lexeme, rest, htext, LexemeClass.startsWith_of_starts hlexeme.spells hstarts,
    hlexeme, hdenotes⟩

/-- A sign that is no track word starts no lexeme. -/
theorem isPrefixOf_of_readsAs {tail : List Char} {token : Token} {n : Nat}
    (h : ReadsAs ('@' :: tail) token n) : trackWord.isPrefixOf ('@' :: tail) = true := by
  obtain ⟨kind, lexeme, rest, htext, hkind, hlexeme, -⟩ := h.exists_startsWith
  obtain rfl : kind = .track := LexemeClass.eq_of_startsWith hkind rfl (by decide)
  rw [htext, hlexeme.spells, List.isPrefixOf_iff_prefix]
  exact List.prefix_append trackWord rest

/-- A numeral beyond the range of doubles denotes no token. -/
theorem isFinite_of_readsAs {c : Char} {tail : List Char} {token : Token} {n : Nat}
    (h : ReadsAs (c :: tail) token n) (hc : c.isDigit = true) :
    (numeralValue (c :: tail)).isFinite = true := by
  have hword := isIdentifierStart_of_isDigit hc
  obtain ⟨kind, lexeme, rest, htext, hkind, hlexeme, hdenotes⟩ := h.exists_startsWith
  obtain rfl : kind = .number := LexemeClass.eq_of_startsWith hkind hc hword
  obtain ⟨rest', htext'⟩ := numeralText_prefix (c :: tail)
  have hnumeral := (isLongest_numeral hc htext'.symm).isLexeme htext'.symm hc hword
  obtain ⟨-, rfl, -⟩ := hnumeral.unique hlexeme (by rw [← htext, htext'])
  obtain ⟨d, hread, hrounded⟩ := ofChars?_numeralText hc tail
  cases hdenotes with
  | number _ d' value hread' hrounded' hfinite =>
    rw [hread, Option.some.injEq] at hread'
    rw [← hrounded, hread', hrounded']
    exact hfinite

/-- Where nothing is read, there is no lexeme, or only a number beyond the range of doubles. -/
theorem not_readsAs_of_readLexeme {c : Char} {tail : List Char} {fault : LexicalFault}
    {token : Token} {n : Nat} (h : readLexeme c tail = .error fault) :
    ¬ ReadsAs (c :: tail) token n := by
  intro hreads
  simp only [readLexeme] at h
  split at h
  · simp at h
  split at h
  · simp at h
  split at h
  · simp at h
  next hnewline hequal hbar =>
  split at h
  · next hat =>
    subst hat
    rw [if_pos (isPrefixOf_of_readsAs hreads)] at h
    simp at h
  next hat =>
  split at h
  · next hdigit =>
    rw [if_pos (isFinite_of_readsAs hreads hdigit)] at h
    simp at h
  next hdigit =>
  split at h
  · simp at h
  next hword =>
  obtain ⟨kind, -, -, -, hkind, -⟩ := hreads.exists_startsWith
  cases kind <;> simp_all [LexemeClass.startsWith]

/-- **Maximal munch.**  What is read is the lexeme at the start of the text. -/
theorem readLexeme_eq_ok_iff {c : Char} {tail : List Char} {token : Token} {n : Nat} :
    readLexeme c tail = .ok (token, n) ↔ ReadsAs (c :: tail) token n := by
  constructor
  · exact readsAs_of_readLexeme
  · intro hreads
    cases h : readLexeme c tail with
    | error fault => exact absurd hreads (not_readsAs_of_readLexeme h)
    | ok found =>
      obtain ⟨rfl, rfl⟩ := hreads.unique (readsAs_of_readLexeme h)
      rfl

end BuzzerScript

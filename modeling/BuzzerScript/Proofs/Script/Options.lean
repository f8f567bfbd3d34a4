import BuzzerScript.Proofs.Script.Header

/-!
# The options of a header

The options of a header are the triples of a key, an equal sign and a value behind its name.
They are read from left to right and do not overlap: what begins no triple is skipped, and what
a triple has used up begins no other one.
-/

namespace BuzzerScript.Script

/-- The tokens of a triple. -/
def triple (key : String) (value : Token) : List Token := [.identifier key, .equal, value]

/-- A triple at the start of tokens. -/
def Begins (tokens : List Token) : Prop :=
  ∃ key value rest, tokens = triple key value ++ rest ∧ (settingValue? value).isSome = true

/-- The triples among tokens that `after` follows, from left to right and without overlap.  A
token is skipped only if no triple begins there. -/
inductive Scans (after : List Token) : List Token → List (String × SettingValue) → Prop
  | done : Scans after [] []
  | read {key : String} {value : Token} {found : SettingValue} {rest : List Token}
      {more : List (String × SettingValue)} (usable : settingValue? value = some found)
      (scans : Scans after rest more) :
      Scans after (triple key value ++ rest) ((Text.lowerCase key, found) :: more)
  | skip {token : Token} {rest : List Token} {found : List (String × SettingValue)}
      (stays : ¬ Begins (token :: (rest ++ after))) (scans : Scans after rest found) :
      Scans after (token :: rest) found

theorem pairs_triple {key : String} {value : Token} {found : SettingValue}
    (h : settingValue? value = some found) (rest : List Token) :
    pairs (triple key value ++ rest) = (Text.lowerCase key, found) :: pairs rest := by
  simp [triple, pairs, h]

theorem pairs_skip {token : Token} {rest : List Token} (h : ¬ Begins (token :: rest)) :
    pairs (token :: rest) = pairs rest := by
  generalize htokens : token :: rest = tokens at h ⊢
  fun_cases pairs tokens with
  | case1 key value more found hvalue => simp [Begins, triple, hvalue] at h
  | case2 key value more hvalue =>
    obtain ⟨-, rfl⟩ := List.cons.inj htokens
    rfl
  | case3 other more hkey =>
    obtain ⟨-, rfl⟩ := List.cons.inj htokens
    rfl
  | case4 => cases htokens

/-- What is found among tokens, and then among those that follow. -/
theorem Scans.pairs_append {after tokens : List Token} {found : List (String × SettingValue)}
    (h : Scans after tokens found) : pairs (tokens ++ after) = found ++ pairs after := by
  induction h with
  | done => rfl
  | read usable _ ih => rw [List.append_assoc, pairs_triple usable, ih, List.cons_append]
  | skip stays _ ih => rw [List.cons_append, pairs_skip stays, ih]

/-- The first three tokens decide whether a triple begins. -/
theorem begins_cons_iff (token second third : Token) (rest : List Token) :
    Begins (token :: second :: third :: rest) ↔
      (∃ key, token = .identifier key) ∧ second = .equal ∧
        (settingValue? third).isSome = true := by
  constructor
  · rintro ⟨key, value, after, htokens, hvalue⟩
    cases htokens
    exact ⟨⟨key, rfl⟩, rfl, hvalue⟩
  · rintro ⟨⟨key, rfl⟩, rfl, hvalue⟩
    exact ⟨key, third, rest, rfl, hvalue⟩

/-- Whether a triple begins does not depend on the words of a triple further on. -/
theorem begins_triple_iff (token : Token) (rest : List Token) (key other : String)
    (value value' : Token) (after after' : List Token) :
    Begins (token :: (rest ++ (triple key value ++ after))) ↔
      Begins (token :: (rest ++ (triple other value' ++ after'))) := by
  match rest with
  | [] => simp [triple, begins_cons_iff]
  | [second] => simp [triple, begins_cons_iff, settingValue?]
  | second :: third :: more => simp [begins_cons_iff]

/-- What is found in front of a triple does not depend on the triple. -/
theorem Scans.replace {key : String} {value : Token} {after tokens : List Token}
    {found : List (String × SettingValue)} (h : Scans (triple key value ++ after) tokens found)
    (other : String) (value' : Token) (after' : List Token) :
    Scans (triple other value' ++ after') tokens found := by
  induction h with
  | done => exact .done
  | read usable _ ih => exact .read usable ih
  | skip stays _ ih =>
    exact .skip (fun h => stays ((begins_triple_iff _ _ _ _ _ _ _ _).mpr h)) ih

/-- Among all tokens something is found. -/
theorem exists_scans (tokens : List Token) : ∃ found, Scans [] tokens found := by
  fun_induction pairs tokens with
  | case1 key value rest found usable ih =>
    obtain ⟨more, hmore⟩ := ih
    exact ⟨_, .read usable hmore⟩
  | case2 key value rest unusable ih =>
    obtain ⟨more, hmore⟩ := ih
    have hequal : Scans [] (.equal :: value :: rest) more :=
      .skip (by simp [Begins, triple]) hmore
    exact ⟨more, .skip (by simp [Begins, triple, unusable]) hequal⟩
  | case3 token rest hkey ih =>
    obtain ⟨more, hmore⟩ := ih
    refine ⟨more, .skip ?_ hmore⟩
    rw [List.append_nil]
    rintro ⟨key, value, after, htokens, -⟩
    obtain ⟨rfl, rfl⟩ := List.cons.inj htokens
    exact hkey key value after rfl rfl
  | case4 => exact ⟨[], .done⟩

/-- The keys and values that are found are those of the triples. -/
theorem scans_iff (tokens : List Token) (found : List (String × SettingValue)) :
    Scans [] tokens found ↔ pairs tokens = found := by
  have heq : ∀ {more}, Scans [] tokens more → pairs tokens = more := by
    intro more h
    simpa [pairs] using h.pairs_append
  constructor
  · exact heq
  · rintro rfl
    obtain ⟨more, h⟩ := exists_scans tokens
    rw [heq h]
    exact h

/-! ## Exchange -/

/-- Two triples with different keys that have changed places.  The reading from left to right
gets to the first of them, and finds nothing between both. -/
inductive Exchanged : List Token → List Token → Prop
  | triples {front between back : List Token} {key other : String} {value value' : Token}
      {found : List (String × SettingValue)} (usable : (settingValue? value).isSome = true)
      (usable' : (settingValue? value').isSome = true)
      (keys : Text.lowerCase key ≠ Text.lowerCase other)
      (reached : Scans
        (triple key value ++ (between ++ (triple other value' ++ back))) front found)
      (skipped : Scans (triple other value' ++ back) between []) :
      Exchanged (front ++ (triple key value ++ (between ++ (triple other value' ++ back))))
        (front ++ (triple other value' ++ (between ++ (triple key value ++ back))))

theorem Exchanged.ne_nil {tokens tokens' : List Token} (h : Exchanged tokens tokens') :
    tokens ≠ [] := by
  cases h
  simp [triple]

/-- Two keys and values that are found one after the other have changed places. -/
theorem Exchanged.pairs {tokens tokens' : List Token} (h : Exchanged tokens tokens') :
    ∃ front p q back, p.1 ≠ q.1 ∧ pairs tokens = front ++ p :: q :: back ∧
      Script.pairs tokens' = front ++ q :: p :: back := by
  cases h with
  | @triples front between back key other value value' found usable usable' keys
      reached skipped =>
    obtain ⟨v, hv⟩ := Option.isSome_iff_exists.mp usable
    obtain ⟨v', hv'⟩ := Option.isSome_iff_exists.mp usable'
    have hskipped := skipped.replace key value back
    have hreached := reached.replace other value' (between ++ (triple key value ++ back))
    refine ⟨found, (Text.lowerCase key, v), (Text.lowerCase other, v'), Script.pairs back,
      keys, ?_, ?_⟩
    · rw [reached.pairs_append, pairs_triple hv, skipped.pairs_append, pairs_triple hv',
        List.nil_append]
    · rw [hreached.pairs_append, pairs_triple hv', hskipped.pairs_append, pairs_triple hv,
        List.nil_append]

/-! ## Headers -/

/-- The tokens of a header up to its name, or the track sign alone if there is no name. -/
def upToName (header : Line) : List Token :=
  (header.map LocatedToken.token).take (if (headerName? header).isSome then 2 else 1)

/-- The tokens of a header behind its name. -/
def afterName (header : Line) : List Token :=
  (header.map LocatedToken.token).drop (if (headerName? header).isSome then 2 else 1)

theorem headerPairs_eq (header : Line) : headerPairs header = pairs (afterName header) := rfl

/-- Up to the name a header has one or two tokens, if anything is behind the name. -/
theorem length_upToName {header : Line} (h : afterName header ≠ []) :
    (upToName header).length = if (headerName? header).isSome then 2 else 1 := by
  rw [upToName, List.length_take, Nat.min_eq_left]
  by_contra hshort
  exact h (List.drop_eq_nil_of_le (by omega))

/-- The name of a header does not depend on the words of a triple. -/
theorem headerName?_replace {line line' : Line} {front : List Token} (hfront : front ≠ [])
    {key other : String} {value value' : Token} {after after' : List Token}
    (h : line.map LocatedToken.token = front ++ (triple key value ++ after))
    (h' : line'.map LocatedToken.token = front ++ (triple other value' ++ after')) :
    headerName? line' = headerName? line := by
  rw [headerName?, headerName?, h, h']
  rcases front with _ | ⟨opening, _ | ⟨name, _ | ⟨second, more⟩⟩⟩
  · exact absurd rfl hfront
  · rfl
  · cases name <;> rfl
  · cases name <;> cases second <;> rfl

/-- The track of a header is made of its name and of the last of its options. -/
theorem headerTrack_congr {header other : Line} (name : headerName? other = headerName? header)
    (settings : Settings.lastAccepted (headerPairs other) =
      Settings.lastAccepted (headerPairs header))
    (delay : (headerPairs other).filterMap Track.acceptedDelay? =
      (headerPairs header).filterMap Track.acceptedDelay?) (trackCount : Nat) :
    headerTrack trackCount other = headerTrack trackCount header := by
  simp [headerTrack, Block.track, Block.name, Block.options, Block.melody, name, settings,
    delay]

/-- Headers that differ in two neighbouring triples with different keys, which have changed
places. -/
structure OptionsExchanged (header other : Line) : Prop where
  start : other.head? = header.head?
  exchanged : ∃ options, Exchanged (afterName header) options ∧
    other.map LocatedToken.token = upToName header ++ options

namespace OptionsExchanged

variable {header other : Line}

/-- The name of the header stays the same. -/
theorem headerName?_eq (h : OptionsExchanged header other) :
    headerName? other = headerName? header := by
  obtain ⟨hstart, options, hexchanged, hother⟩ := h
  have hheader : header.map LocatedToken.token = upToName header ++ afterName header :=
    (List.take_append_drop _ _).symm
  have hopening : upToName header ≠ [] := by
    have hlength := length_upToName hexchanged.ne_nil
    intro hnil
    rw [hnil] at hlength
    split at hlength <;> cases hlength
  generalize afterName header = tokens at hexchanged hheader
  cases hexchanged with
  | triples =>
    rw [← List.append_assoc] at hheader hother
    exact headerName?_replace (by simp [hopening]) hheader hother

/-- The same keys and values are found, but for the exchange of two of them. -/
theorem exists_pairs (h : OptionsExchanged header other) :
    ∃ front p q back, p.1 ≠ q.1 ∧ headerPairs header = front ++ p :: q :: back ∧
      headerPairs other = front ++ q :: p :: back := by
  have hname := h.headerName?_eq
  obtain ⟨hstart, options, hexchanged, hother⟩ := h
  obtain ⟨front, p, q, back, hkeys, hpairs, hpairs'⟩ := hexchanged.pairs
  refine ⟨front, p, q, back, hkeys, hpairs, ?_⟩
  have hlength := length_upToName hexchanged.ne_nil
  rw [headerPairs, hname, hother, ← hlength, List.drop_left]
  exact hpairs'

/-- **Exchanged options**: the track of the header stays the same. -/
theorem headerTrack_eq (h : OptionsExchanged header other) (trackCount : Nat) :
    headerTrack trackCount other = headerTrack trackCount header := by
  obtain ⟨front, p, q, back, hkeys, hpairs, hpairs'⟩ := h.exists_pairs
  refine headerTrack_congr h.headerName?_eq ?_ ?_ trackCount
  · rw [hpairs, hpairs', Settings.lastAccepted_exchange hkeys]
  · rw [hpairs, hpairs',
      filterMap_exchange (rejected_of_key_ne Track.acceptedDelay?_of_key_ne hkeys)]

end OptionsExchanged

end BuzzerScript.Script

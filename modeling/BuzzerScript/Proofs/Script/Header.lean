import BuzzerScript.Proofs.Script.FirstLine
import BuzzerScript.Proofs.Settings

/-!
# Reading a header

The name and the options of a track come from the line of its header and from nothing else.
-/

namespace BuzzerScript.Script

/-! ## Options -/

theorem firstLine_key (key : String) (p q : Position) (rest : List LocatedToken) :
    firstLine (⟨.identifier key, p⟩ :: ⟨.equal, q⟩ :: rest) =
      ⟨.identifier key, p⟩ :: ⟨.equal, q⟩ :: firstLine rest := by
  rw [firstLine_cons (by simp), firstLine_cons (by simp)]

theorem skipLine_key (key : String) (p q : Position) (rest : List LocatedToken) :
    skipLine (⟨.identifier key, p⟩ :: ⟨.equal, q⟩ :: rest) = skipLine rest := by
  rw [skipLine_cons (by simp), skipLine_cons (by simp)]

theorem token_ne_newline_of_settingValue? {t : LocatedToken} {value : SettingValue}
    (h : settingValue? t.token = some value) : t.token ≠ .newline := by
  intro ht
  simp [ht, settingValue?] at h

/-- Reading options stops in front of the line end. -/
theorem skipLine_readTrackOptions (track : Track) (tokens : List LocatedToken) :
    skipLine (readTrackOptions track tokens).2 = skipLine tokens := by
  fun_induction readTrackOptions track tokens with
  | case1 => rfl
  | case2 => rfl
  | case3 track key p q v rest value hvalue ih =>
    rw [ih, skipLine_key, skipLine_cons (token_ne_newline_of_settingValue? hvalue)]
  | case4 track key p q v rest hvalue ih => rw [ih, skipLine_key]
  | case5 track t rest hnewline hkey ih =>
    have ht : t.token ≠ .newline := by
      intro ht
      exact hnewline t.position (by rw [← ht])
    rw [ih, skipLine_cons ht]

/-- What is no key of a value within a token list is none within its first line. -/
theorem not_key_firstLine {t : LocatedToken} {rest : List LocatedToken}
    (h : ∀ key p q v after, t = ⟨.identifier key, p⟩ →
      rest = ⟨.equal, q⟩ :: v :: after → False)
    (key : String) (value : Token) (more : List Token) (ht : t.token = .identifier key) :
    (firstLine rest).map LocatedToken.token ≠ .equal :: value :: more := by
  intro hline
  obtain ⟨e, line, hfirst, he, hvalue⟩ := List.map_eq_cons_iff.mp hline
  obtain ⟨v, after, hline', hv, -⟩ := List.map_eq_cons_iff.mp hvalue
  obtain ⟨tail, rfl⟩ : e :: v :: after <+: rest := by
    rw [← hline', ← hfirst]
    exact List.takeWhile_prefix _
  exact h key t.position e.position v (after ++ tail) (by rw [← ht]) (by simp [← he])

/-- The options of a header are the keys and values of its line, taken over from left to
right. -/
theorem fst_readTrackOptions (track : Track) (tokens : List LocatedToken) :
    (readTrackOptions track tokens).1 =
      (pairs ((firstLine tokens).map LocatedToken.token)).foldl
        (fun track pair => track.apply pair.1 pair.2) track := by
  fun_induction readTrackOptions track tokens with
  | case1 => rfl
  | case2 => rfl
  | case3 track key p q v rest value hvalue ih =>
    rw [ih, firstLine_key, firstLine_cons (token_ne_newline_of_settingValue? hvalue)]
    simp [pairs, hvalue]
  | case4 track key p q v rest hvalue ih =>
    rw [ih, firstLine_key]
    by_cases hv : v.token = .newline
    · rw [firstLine_newline hv]; rfl
    · rw [firstLine_cons hv]
      simp [pairs, hvalue]
  | case5 track t rest hnewline hkey ih =>
    have ht : t.token ≠ .newline := by
      intro ht
      exact hnewline t.position (by rw [← ht])
    rw [ih, firstLine_cons ht, List.map_cons, pairs]
    intro key value more htoken hrest
    exact not_key_firstLine hkey key value more htoken hrest

/-! ## The name -/

/-- The word that a token holds, if it can be a name. -/
def nameOf? : Token → Option String
  | .identifier name => some name
  | .note name => some name
  | _ => none

theorem headerName?_cons (opening t : LocatedToken) (line : Line) :
    headerName? (opening :: t :: line) =
      if line.head?.map LocatedToken.token = some .equal then none else nameOf? t.token := by
  cases line with
  | nil => cases ht : t.token <;> simp [headerName?, nameOf?, ht]
  | cons e line =>
    cases he : e.token <;> cases ht : t.token <;> simp [headerName?, nameOf?, he, ht]

theorem readTrackName_cons (trackCount : Nat) (t : LocatedToken) (rest : List LocatedToken) :
    readTrackName trackCount (t :: rest) =
      match if rest.head?.map LocatedToken.token = some .equal then none
        else nameOf? t.token with
      | some name => (name, rest)
      | none => ("unnamed_" ++ toString trackCount, t :: rest) := by
  by_cases h : rest.head?.map LocatedToken.token = some .equal
  · simp [readTrackName, h]
  · cases ht : t.token <;> simp [readTrackName, h, nameOf?, ht]

/-- An equal sign stands at the start of what follows if it stands at the start of its first
line. -/
theorem head?_firstLine (tokens : List LocatedToken) :
    (firstLine tokens).head?.map LocatedToken.token = some .equal ↔
      tokens.head?.map LocatedToken.token = some .equal := by
  cases tokens with
  | nil => rfl
  | cons t rest =>
    by_cases h : t.token = .newline
    · simp [firstLine_newline h, h]
    · simp [firstLine_cons h]

/-- The name of a header is read from its line, and what is left of the line
holds the options. -/
theorem exists_readTrackName (trackCount : Nat) (opening : LocatedToken)
    (tokens : List LocatedToken) :
    ∃ rest, readTrackName trackCount tokens =
        (Block.name { header := some (opening :: firstLine tokens) } trackCount, rest) ∧
      skipLine rest = skipLine tokens ∧
      pairs ((firstLine rest).map LocatedToken.token) =
        headerPairs (opening :: firstLine tokens) := by
  cases tokens with
  | nil => exact ⟨[], rfl, rfl, rfl⟩
  | cons t rest =>
    rw [readTrackName_cons]
    by_cases ht : t.token = .newline
    · refine ⟨t :: rest, ?_, rfl, ?_⟩
      · simp [ht, nameOf?, firstLine_newline ht, Block.name, headerName?]
      · simp [firstLine_newline ht, headerPairs, headerName?]
    · have hname := headerName?_cons opening t (firstLine rest)
      simp only [head?_firstLine] at hname
      rw [firstLine_cons ht]
      simp only [← hname, Block.name, headerPairs]
      cases headerName? (opening :: t :: firstLine rest) with
      | none => exact ⟨t :: rest, rfl, rfl, by simp [firstLine_cons ht]⟩
      | some name => exact ⟨rest, rfl, (skipLine_cons ht rest).symm, by simp⟩

/-! ## Headers -/

/-- The track that a header line opens, where `trackCount` tracks come before it. -/
def headerTrack (trackCount : Nat) (line : Line) : Track :=
  Block.track { header := some line } trackCount

/-- A header is read from the first line alone. -/
theorem readHeader_eq (trackCount : Nat) (opening : LocatedToken)
    (tokens : List LocatedToken) :
    readHeader trackCount tokens =
      (headerTrack trackCount (opening :: firstLine tokens), skipLine tokens) := by
  obtain ⟨rest, hname, hskip, hpairs⟩ := exists_readTrackName trackCount opening tokens
  simp only [readHeader, hname, skipLine_readTrackOptions, hskip, fst_readTrackOptions, hpairs,
    Track.foldl_apply, Settings.orElse_empty]
  rfl

end BuzzerScript.Script

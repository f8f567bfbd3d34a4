import BuzzerScript.Proofs.Script.Header
import BuzzerScript.Proofs.Script.NoteLine

/-!
# Reading line by line

`Draft.read` walks over tokens, and each of its parts finds the end of its line by itself.
Here the same is said of whole lines: `Draft.readLine` takes over a line, and reading tokens is
reading their lines one after the other.

## Main definitions

* `Draft.readLine`: a draft after one more line.
* `Draft.finish`: the script of a draft at the end of the tokens.

## Main statements

* `Draft.read_eq_foldlM`: no reader crosses a line end, so that tokens are read line by line.
-/

namespace BuzzerScript.Script

namespace Draft

/-- Take over the key and value of a directive, if there is a value. -/
def setGlobal (draft : Draft) : Option (String × SettingValue) → Draft
  | some (key, value) =>
    { draft with script := { draft.script with
        globals := draft.script.globals.apply key value } }
  | none => draft

/-- The draft after one more line. -/
def readLine (draft : Draft) (line : Line) : Except CompileError Draft :=
  match lineKind line with
  | .header =>
    draft.close.map fun closed =>
      closed.openTrack (linePosition line) (headerTrack closed.script.tracks.length line)
  | .directive =>
    if draft.contentStarted then .error (.grammar (linePosition line) .directiveAfterContent)
    else .ok (draft.setGlobal (directivePair? line))
  | .noteLine =>
    match malformedNote? line with
    | some e => .error e
    | none => .ok (draft.addMelody (lineMelody line))
  | .ignored => .ok draft

/-- The script of a draft when no line follows. -/
def finish (draft : Draft) : Except CompileError Script := draft.close.map Draft.script

end Draft

/-! ## The kind of the first line -/

theorem lineKind_track (position : Position) (line : Line) :
    lineKind (⟨.track, position⟩ :: line) = .header := rfl

theorem lineKind_key (key : String) (p q : Position) (line : Line) :
    lineKind (⟨.identifier key, p⟩ :: ⟨.equal, q⟩ :: line) = .directive := rfl

/-- A line that starts neither like a header nor like a directive. -/
theorem lineKind_other {t : LocatedToken} {line : Line} (htrack : t.token ≠ .track)
    (hkey : ∀ key, t.token = .identifier key →
      line.head?.map LocatedToken.token ≠ some .equal) :
    lineKind (t :: line) = if (t :: line).any isNote then .noteLine else .ignored := by
  obtain ⟨token, position⟩ := t
  cases token with
  | track => exact absurd rfl htrack
  | identifier key =>
    cases line with
    | nil => rfl
    | cons e line =>
      have he : e.token ≠ .equal := fun he => hkey key rfl (by simp [he])
      obtain ⟨token, position⟩ := e
      cases token with
      | equal => exact absurd rfl he
      | _ => rfl
  | _ => rfl

/-- A directive is read from the first line alone. -/
theorem directive_eq (draft : Draft) (key : String) (p q : Position)
    (rest : List LocatedToken) :
    draft.directive key rest =
      draft.setGlobal
        (directivePair? (⟨.identifier key, p⟩ :: ⟨.equal, q⟩ :: firstLine rest)) := by
  cases rest with
  | nil => rfl
  | cons t rest =>
    by_cases ht : t.token = .newline
    · rw [firstLine_newline ht]
      simp [Draft.directive, directivePair?, Draft.setGlobal, ht, settingValue?]
    · rw [firstLine_cons ht]
      cases hv : settingValue? t.token <;>
        simp [Draft.directive, directivePair?, Draft.setGlobal, hv]

/-! ## Tokens as lines -/

namespace Draft

theorem read_nil (draft : Draft) : draft.read [] = draft.finish := by
  rw [read, finish]

theorem read_newline (draft : Draft) (position : Position) (rest : List LocatedToken) :
    draft.read (⟨.newline, position⟩ :: rest) = draft.read rest := by
  rw [read]

/-- Take over the first line and go on behind its line end. -/
def readFirst (draft : Draft) (tokens : List LocatedToken) : Except CompileError Script :=
  (draft.readLine (firstLine tokens)).bind fun next => next.read (skipLine tokens)

theorem read_track (draft : Draft) (position : Position) (rest : List LocatedToken) :
    draft.read (⟨.track, position⟩ :: rest) =
      draft.readFirst (⟨.track, position⟩ :: rest) := by
  rw [read, readFirst, firstLine_cons (by simp), skipLine_cons (by simp), readLine,
    lineKind_track]
  cases draft.close with
  | error e => rfl
  | ok closed =>
    simp only [readHeader_eq _ ⟨.track, position⟩ rest]
    rfl

theorem read_key (draft : Draft) (key : String) (p q : Position) (rest : List LocatedToken) :
    draft.read (⟨.identifier key, p⟩ :: ⟨.equal, q⟩ :: rest) =
      draft.readFirst (⟨.identifier key, p⟩ :: ⟨.equal, q⟩ :: rest) := by
  rw [read, readFirst, firstLine_key, skipLine_key, readLine, lineKind_key,
    directive_eq draft key p q]
  cases draft.contentStarted <;> rfl

theorem read_other (draft : Draft) {t : LocatedToken} (hnewline : t.token ≠ .newline)
    (htrack : t.token ≠ .track) (rest : List LocatedToken)
    (hkey : ∀ key, t.token = .identifier key →
      rest.head?.map LocatedToken.token ≠ some .equal) :
    draft.read (t :: rest) = draft.readFirst (t :: rest) := by
  have hkind : lineKind (firstLine (t :: rest)) =
      if (firstLine (t :: rest)).any isNote then .noteLine else .ignored := by
    rw [firstLine_cons hnewline]
    refine lineKind_other htrack ?_
    intro key hk hequal
    exact hkey key hk (head?_firstLine rest |>.mp hequal)
  rw [readFirst, readLine, hkind, ← lineHasNote_eq, read]
  · cases lineHasNote (t :: rest) with
    | false => rfl
    | true =>
      simp only [if_true]
      have hmelody := readMelody_eq (t :: rest)
      cases hm : malformedNote? (firstLine (t :: rest)) with
      | some e =>
        rw [hm] at hmelody
        split
        · rename_i e' he
          rw [he] at hmelody
          obtain rfl : e' = e := by simpa using hmelody
          rfl
        · rename_i melody after he
          rw [he] at hmelody
          exact absurd hmelody (by simp)
      | none =>
        rw [hm] at hmelody
        split
        · rename_i e' he
          rw [he] at hmelody
          exact absurd hmelody (by simp)
        · rename_i melody after he
          rw [he] at hmelody
          obtain ⟨rfl, rfl⟩ : melody = _ ∧ after = _ := by simpa using hmelody
          rfl
  · intro position ht
    exact hnewline (by rw [ht])
  · intro position ht
    exact htrack (by rw [ht])
  · intro key p q after ht hrest
    exact hkey key (by rw [ht]) (by rw [hrest]; rfl)

/-- A line that is not empty is taken over as a whole. -/
theorem read_cons (draft : Draft) {t : LocatedToken} (ht : t.token ≠ .newline)
    (rest : List LocatedToken) : draft.read (t :: rest) = draft.readFirst (t :: rest) := by
  obtain ⟨token, position⟩ := t
  cases token with
  | newline => exact absurd rfl ht
  | track => exact draft.read_track position rest
  | identifier key =>
    by_cases hequal : rest.head?.map LocatedToken.token = some .equal
    · obtain ⟨e, he, htoken⟩ := Option.map_eq_some_iff.mp hequal
      obtain ⟨after, rfl⟩ := List.head?_eq_some_iff.mp he
      obtain ⟨token, q⟩ := e
      obtain rfl : token = .equal := htoken
      exact draft.read_key key position q after
    · exact draft.read_other (by simp) (by simp) rest fun _ _ => hequal
  | _ => exact draft.read_other (by simp) (by simp) rest (by simp)

/-- Tokens are read line by line: no reader crosses a line end. -/
theorem read_eq_foldlM (draft : Draft) (tokens : List LocatedToken) :
    draft.read tokens = ((lines tokens).foldlM readLine draft).bind finish := by
  generalize hn : tokens.length = n
  induction n using Nat.strong_induction_on generalizing draft tokens with
  | _ n ih =>
    cases tokens with
    | nil => exact draft.read_nil
    | cons t rest =>
      by_cases ht : t.token = .newline
      · obtain ⟨token, position⟩ := t
        obtain rfl : token = .newline := ht
        rw [read_newline, lines_newline rfl]
        exact ih rest.length (by rw [← hn]; simp) draft rest rfl
      · have hshorter : (skipLine (t :: rest)).length < n := by
          rw [← hn]
          exact skipLine_length_lt (by simp)
        rw [read_cons draft ht, readFirst, lines_cons ht, List.foldlM_cons]
        cases draft.readLine (firstLine (t :: rest)) with
        | error e => rfl
        | ok next => exact ih _ hshorter next _ rfl

end Draft

end BuzzerScript.Script

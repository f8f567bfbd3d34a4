import BuzzerScript.Proofs.Compile
import BuzzerScript.Proofs.Script.Relocation
import BuzzerScript.Proofs.Token.Spacing

/-!
# Spacing does not matter

Blanks between tokens are for the reader alone.  With more of them in front of any
tokens a text makes the same script and the same events, and an error moves along with
the token it is reported at.
-/

namespace BuzzerScript

variable {gap : Position → List Char} {source : String} {tokens : List LocatedToken}

/-- **Spacing does not matter.**  With blanks in front of any of its tokens a text that can
be tokenized has the same tokens, each as far to the right as there are more blanks in front
of it on its line.  It makes the same script and the same events, or has the same error as
far to the right. -/
theorem tokenize_spaced (htokens : tokenize source = .ok tokens)
    (hblank : ∀ p, ∀ c ∈ gap p, isBlank c = true)
    (hgap : ∀ p, gap p ≠ [] → ∃ t ∈ tokens, t.position = p) :
    let longer := String.ofList (spaced gap ⟨1, 1⟩ source.toList)
    let moved := CompileError.relocate (Position.shifted gap)
    tokenize longer = .ok (tokens.map (LocatedToken.relocate (Position.shifted gap))) ∧
    Script.ofString longer = (Script.ofString source).mapError moved ∧
    ∀ options, compileWith options longer = (compileWith options source).mapError moved := by
  intro longer moved
  have hlonger : tokenize longer =
      .ok (tokens.map (LocatedToken.relocate (Position.shifted gap))) :=
    tokenize_withGaps hblank htokens hgap
  have hscript : Script.ofString longer = (Script.ofString source).mapError moved := by
    rw [Script.ofString, Script.ofString, hlonger, htokens]
    exact Script.ofTokens_relocate (Position.shifted gap) tokens
  refine ⟨hlonger, hscript, ?_⟩
  intro options
  cases hoptions : options.validated with
  | error fault =>
    rw [compileWith_of_refused hoptions, compileWith_of_refused hoptions]
    rfl
  | ok validated =>
    rw [compileWith_of_validated hoptions, compileWith_of_validated hoptions, hscript]
    cases Script.ofString source <;> rfl

/-- Blanks in front of a header, and between the track sign and the name that touches it. -/
def headerGap (p : Position) : List Char :=
  if p = ⟨2, 1⟩ then [' ', '\t'] else if p = ⟨2, 7⟩ then ['\r'] else []

/-- The header is silent, and is found to be so where the blanks have moved it. -/
theorem tokenize_spaced_header :
    String.ofList (spaced headerGap ⟨1, 1⟩ "C4 4\n@tracklead".toList) =
      "C4 4\n \t@track\rlead" ∧
    Script.ofString "C4 4\n@tracklead" = .error (.grammar ⟨2, 1⟩ (.silentTrack "lead")) ∧
    Script.ofString "C4 4\n \t@track\rlead" =
      .error (.grammar ⟨2, 3⟩ (.silentTrack "lead")) := by
  have hlonger : String.ofList (spaced headerGap ⟨1, 1⟩ "C4 4\n@tracklead".toList) =
      "C4 4\n \t@track\rlead" := by
    decide +kernel
  have htokens : tokenize "C4 4\n@tracklead" = .ok
      [⟨.note "C4", ⟨1, 1⟩⟩, ⟨.number 4, ⟨1, 4⟩⟩, ⟨.newline, ⟨1, 5⟩⟩, ⟨.track, ⟨2, 1⟩⟩,
        ⟨.identifier "lead", ⟨2, 7⟩⟩] := by
    decide +kernel
  have hfails : Script.ofString "C4 4\n@tracklead" =
      .error (.grammar ⟨2, 1⟩ (.silentTrack "lead")) := by
    decide +kernel
  have hblank : ∀ p, ∀ c ∈ headerGap p, isBlank c = true := by
    intro p c hc
    rw [headerGap] at hc
    split at hc
    · have hc : c = ' ' ∨ c = '\t' := by simpa using hc
      rcases hc with rfl | rfl <;> rfl
    · split at hc
      · obtain rfl : c = '\r' := by simpa using hc
        rfl
      · simp at hc
  have hgap : ∀ p, headerGap p ≠ [] → p = ⟨2, 1⟩ ∨ p = ⟨2, 7⟩ := by
    intro p hp
    by_contra hother
    rw [not_or] at hother
    exact hp (by simp [headerGap, hother])
  obtain ⟨-, hscript, -⟩ := tokenize_spaced htokens hblank fun p hp => by
    rcases hgap p hp with rfl | rfl <;> simp
  rw [hlonger, hfails] at hscript
  exact ⟨hlonger, hfails, hscript⟩

end BuzzerScript

import BuzzerScript.Compile

/-!
# Compiling

Compiling is checking the options, reading the script and laying out its
timeline, in this order.
-/

namespace BuzzerScript

variable {options validated : PlayerOptions} {source : String} {events : List SoundEvent}

/-- With options that pass the check a text is compiled if it is a script. -/
theorem compileWith_of_validated (h : options.validated = .ok validated) (source : String) :
    compileWith options source =
      (Script.ofString source).map fun script => script.timeline validated := by
  rw [compileWith, h]
  cases Script.ofString source <;> rfl

/-- With options that are refused nothing is compiled. -/
theorem compileWith_of_refused {fault : OptionsFault} (h : options.validated = .error fault)
    (source : String) : compileWith options source = .error (.options fault) := by
  rw [compileWith, h]
  rfl

/-- A text is compiled if its options hold and it is a script. -/
theorem compileWith_eq_ok_iff :
    compileWith options source = .ok events ↔
      ∃ validated script, options.validated = .ok validated ∧
        Script.ofString source = .ok script ∧ script.timeline validated = events := by
  cases hoptions : options.validated with
  | error fault => simp [compileWith_of_refused hoptions]
  | ok validated =>
    rw [compileWith_of_validated hoptions]
    cases hscript : Script.ofString source <;> simp [Except.map]

/-- Compiling fails because of the options, or because the text is no script. -/
theorem compileWith_eq_error {e : CompileError} (h : compileWith options source = .error e) :
    (∃ fault, e = .options fault) ∨ Script.ofString source = .error e := by
  cases hoptions : options.validated with
  | error fault =>
    rw [compileWith_of_refused hoptions] at h
    exact .inl ⟨fault, (Except.error.inj h).symm⟩
  | ok validated =>
    rw [compileWith_of_validated hoptions] at h
    cases hscript : Script.ofString source with
    | error found =>
      rw [hscript] at h
      exact .inr (congrArg Except.error (Except.error.inj h))
    | ok script =>
      rw [hscript] at h
      cases h

/-- What is compiled without rests is the audible part of what is compiled. -/
theorem compileAudible_eq_ok_iff :
    compileAudible options source = .ok events ↔
      ∃ all, compileWith options source = .ok all ∧ audible all = events := by
  rw [compileAudible]
  cases compileWith options source <;> simp [Except.map]

end BuzzerScript

import BuzzerScript.Proofs.Compile

/-!
# Messages

What is said about an error, spelled out in full.  The errors of a script name the line and the
column; those of options are a remark on the value that cannot be used.
-/

namespace BuzzerScript

/-! ## Scripts -/

/-- What is said about a text that starts no token. -/
inductive LexicalFault.HasMessage : LexicalFault → String → Prop
  | unexpectedCharacter (c : Char) :
      HasMessage (.unexpectedCharacter c)
        ("Unexpected character: '" ++ String.singleton c ++ "'")
  | strayAtSign : HasMessage .strayAtSign "Unexpected '@'. Did you mean '@track'?"
  | numberOutOfRange (numeral : String) :
      HasMessage (.numberOutOfRange numeral) ("Number out of range: '" ++ numeral ++ "'")

/-- What is said about tokens that make no script. -/
inductive GrammarFault.HasMessage : GrammarFault → String → Prop
  | directiveAfterContent :
      HasMessage .directiveAfterContent "directives must precede melody content"
  | silentTrack (name : String) :
      HasMessage (.silentTrack name) ("track '" ++ name ++ "' has no note lines")
  | malformedNote (text : String) :
      HasMessage (.malformedNote text)
        ("'" ++ text ++
          "' is not a note symbol (expected R or A-G, optional #/b, optional octave 0-9)")

/-- What is said about an error of a script. -/
inductive CompileError.HasMessage : CompileError → String → Prop
  | lexical {line column : Nat} {fault : LexicalFault} {text : String}
      (h : fault.HasMessage text) :
      HasMessage (.lexical ⟨line, column⟩ fault)
        ("Lex error at line " ++ toString line ++ ", column " ++
          toString column ++ ": " ++ text)
  | grammar {line column : Nat} {fault : GrammarFault} {text : String}
      (h : fault.HasMessage text) :
      HasMessage (.grammar ⟨line, column⟩ fault)
        ("Parse error at line " ++ toString line ++ ", column " ++
          toString column ++ ": " ++ text)

theorem LexicalFault.hasMessage_message (fault : LexicalFault) :
    fault.HasMessage fault.message := by
  cases fault with
  | unexpectedCharacter c => exact .unexpectedCharacter c
  | strayAtSign => exact .strayAtSign
  | numberOutOfRange numeral => exact .numberOutOfRange numeral

theorem GrammarFault.hasMessage_message (fault : GrammarFault) :
    fault.HasMessage fault.message := by
  cases fault with
  | directiveAfterContent => exact .directiveAfterContent
  | silentTrack name => exact .silentTrack name
  | malformedNote text => exact .malformedNote text

theorem Position.append_inWords (label text : String) (line column : Nat) :
    label ++ inWords ⟨line, column⟩ ++ text =
      label ++ "line " ++ toString line ++ ", column " ++ toString column ++ ": " ++ text := by
  simp only [inWords, String.append_assoc]

theorem CompileError.message_lexical (line column : Nat) (fault : LexicalFault) :
    message (.lexical ⟨line, column⟩ fault) =
      "Lex error at line " ++ toString line ++ ", column " ++ toString column ++ ": " ++
        fault.message := by
  have hlabel : "Lex error at " ++ "line " = "Lex error at line " := by decide +kernel
  refine (Position.append_inWords "Lex error at " fault.message line column).trans ?_
  rw [hlabel]

theorem CompileError.message_grammar (line column : Nat) (fault : GrammarFault) :
    message (.grammar ⟨line, column⟩ fault) =
      "Parse error at line " ++ toString line ++ ", column " ++ toString column ++ ": " ++
        fault.message := by
  have hlabel : "Parse error at " ++ "line " = "Parse error at line " := by decide +kernel
  refine (Position.append_inWords "Parse error at " fault.message line column).trans ?_
  rw [hlabel]

/-- Every error of a script has its message. -/
theorem CompileError.hasMessage_message {e : CompileError} (h : ∀ fault, e ≠ .options fault) :
    e.HasMessage e.message := by
  cases e with
  | lexical position fault =>
    rw [message_lexical]
    exact .lexical fault.hasMessage_message
  | grammar position fault =>
    rw [message_grammar]
    exact .grammar fault.hasMessage_message
  | options fault => exact absurd rfl (h fault)

/-! ## Options -/

theorem CompileError.message_unknownWaveform (name : String) :
    message (.options (.unknownWaveform name)) =
      "Invalid options: Unknown waveform '" ++ name ++
        "'. Expected: sine, square, sawtooth, or triangle" := by
  have hmessage : message (.options (.unknownWaveform name)) =
      "Invalid options: " ++ ("Unknown waveform '" ++ name ++
        "'. Expected: sine, square, sawtooth, or triangle") := rfl
  have hprefix : "Invalid options: Unknown waveform '" =
      "Invalid options: " ++ "Unknown waveform '" := by decide +kernel
  rw [hmessage, hprefix, String.append_assoc, String.append_assoc, String.append_assoc]

/-- Options that are refused, and what is said about them. -/
inductive PlayerOptions.OutOfRange (options : PlayerOptions) : String → Prop
  | tempo (h : Settings.isTempo options.tempo = false) :
      options.OutOfRange
        ("tempo must be greater than 0, got " ++
          OptionsFault.numberFormat.render options.tempo)
  | volume (tempo : Settings.isTempo options.tempo = true)
      (h : options.volume.isFinite = false) :
      options.OutOfRange
        ("volume must be a number between 0 and 1, got " ++
          OptionsFault.numberFormat.render options.volume)

theorem PlayerOptions.outOfRange_of_validated {options : PlayerOptions} {fault : OptionsFault}
    (h : options.validated = .error fault) : options.OutOfRange fault.message := by
  rw [validated] at h
  cases htempo : Settings.isTempo options.tempo with
  | false =>
    simp only [htempo, Bool.false_eq_true, not_false_eq_true, if_true] at h
    obtain rfl := Except.error.inj h
    exact .tempo htempo
  | true =>
    cases hvolume : options.volume.isFinite with
    | false =>
      simp only [htempo, hvolume, not_true_eq_false, Bool.false_eq_true, not_false_eq_true,
        if_true, if_false] at h
      obtain rfl := Except.error.inj h
      exact .volume htempo hvolume
    | true => simp [htempo, hvolume] at h

end BuzzerScript

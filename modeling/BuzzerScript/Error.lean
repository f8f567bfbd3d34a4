import BuzzerScript.Decimal.Layout
import BuzzerScript.NoteSymbol
import BuzzerScript.Waveform

/-!
# Errors

Why a script or the options of a player are refused.  An error is a cause; its wording is given
by `CompileError.message`.
-/

namespace BuzzerScript

/-- A place in a text; both counts start at one, and columns count characters. -/
structure Position where
  line : Nat
  column : Nat
  deriving DecidableEq, Repr

/-- A text that starts no token. -/
inductive LexicalFault where
  /-- A character that starts no token. -/
  | unexpectedCharacter (c : Char)
  /-- An at sign that does not start the word `@track`. -/
  | strayAtSign
  /-- A numeral whose value rounds to infinity. -/
  | numberOutOfRange (numeral : String)
  deriving DecidableEq, Repr

/-- Tokens that make no script. -/
inductive GrammarFault where
  /-- A directive after the first track header or note line. -/
  | directiveAfterContent
  /-- A track header that no note line follows. -/
  | silentTrack (name : String)
  /-- A note token whose text is no note symbol. -/
  | malformedNote (text : String)
  deriving DecidableEq, Repr

/-- Options that cannot be used. -/
inductive OptionsFault where
  | tempoNotPositive (tempo : Binary64)
  | volumeNotFinite (volume : Binary64)
  | unknownWaveform (name : String)
  /-- An options file that holds no options, in the words of what reads it. -/
  | unreadable (reason : String)
  deriving DecidableEq

/-- Why compiling fails. -/
inductive CompileError where
  | lexical (position : Position) (fault : LexicalFault)
  | grammar (position : Position) (fault : GrammarFault)
  | options (fault : OptionsFault)
  deriving DecidableEq

/-! ## Wording -/

/-- The wording of a lexical fault. -/
def LexicalFault.message : LexicalFault → String
  | .unexpectedCharacter c => "Unexpected character: '" ++ String.singleton c ++ "'"
  | .strayAtSign => "Unexpected '@'. Did you mean '@track'?"
  | .numberOutOfRange numeral => "Number out of range: '" ++ numeral ++ "'"

/-- The wording of a grammar fault. -/
def GrammarFault.message : GrammarFault → String
  | .directiveAfterContent => "directives must precede melody content"
  | .silentTrack name => "track '" ++ name ++ "' has no note lines"
  | .malformedNote text => NoteSymbol.malformedMessage text

/-- Numbers in messages about ranges: never an exponent, and no point on whole numbers. -/
def OptionsFault.numberFormat : NumberFormat where
  tie := .away
  isPlain := fun _ => true
  pointOnWhole := false
  infinity := "inf"
  notANumber := "NaN"

/-- The wording of a fault of options. -/
def OptionsFault.message : OptionsFault → String
  | .tempoNotPositive tempo =>
    "tempo must be greater than 0, got " ++ numberFormat.render tempo
  | .volumeNotFinite volume =>
    "volume must be a number between 0 and 1, got " ++ numberFormat.render volume
  | .unknownWaveform name => Waveform.unknownMessage name
  | .unreadable reason => reason

/-- The words in front of a message that name its place in the script. -/
def Position.inWords (p : Position) : String :=
  "line " ++ toString p.line ++ ", column " ++ toString p.column ++ ": "

/-- The full text of an error. -/
def CompileError.message : CompileError → String
  | .lexical position fault => "Lex error at " ++ position.inWords ++ fault.message
  | .grammar position fault => "Parse error at " ++ position.inWords ++ fault.message
  | .options fault => "Invalid options: " ++ fault.message

end BuzzerScript

import BuzzerScript.Script.Reader
import BuzzerScript.Timeline

/-!
# Compiling

From the text of a script to its timeline, with given options or the defaults, and with
or without its rests.
-/

namespace BuzzerScript

/-- The timeline of a script text.  The options are looked at first, so that bad options are
reported even for a text that is no script. -/
def compileWith (options : PlayerOptions) (source : String) :
    Except CompileError (List SoundEvent) := do
  let options ← options.validated.mapError CompileError.options
  let script ← Script.ofString source
  return script.timeline options

/-- The timeline of a script text with the default options. -/
def compile (source : String) : Except CompileError (List SoundEvent) := compileWith {} source

/-- The timeline of a script text without its rests. -/
def compileAudible (options : PlayerOptions) (source : String) :
    Except CompileError (List SoundEvent) :=
  (compileWith options source).map audible

end BuzzerScript

import BuzzerScript.Decimal

/-!
# Command line arguments

The command takes the path of a script and options.  An option that has a value takes it from
the same argument, after an equal sign or, for a short name, directly, or else from the next
argument, which then must not look like an option.  Short names can be joined behind one
hyphen.  After `--` everything is a path.

Arguments are read from the left, and what comes first decides: a request for help after a
mistake is not heard, and a mistake after such a request is not seen.
-/

namespace BuzzerScript

/-- The form in which a timeline is printed. -/
inductive OutputFormat where
  | yaml | table
  deriving DecidableEq, Repr

/-- What the command is asked for. -/
structure Arguments where
  /-- The path of the script. -/
  script : String
  /-- The path of an options file. -/
  options : Option String := none
  tempo : Option Binary64 := none
  waveform : Option String := none
  volume : Option Binary64 := none
  format : OutputFormat := .yaml
  /-- Whether rests are left out. -/
  audible : Bool := false

namespace Arguments

/-- Why a list of arguments leads to no run. -/
inductive Stop where
  /-- The help is asked for. -/
  | help
  /-- The arguments make no sense. -/
  | misuse
  deriving DecidableEq, Repr

/-- The options that take a value. -/
inductive Key where
  | options | tempo | waveform | volume | format
  deriving DecidableEq, Repr

/-- The long name of an option. -/
def Key.name : Key → List Char
  | .options => "options".toList
  | .tempo => "tempo".toList
  | .waveform => "waveform".toList
  | .volume => "volume".toList
  | .format => "format".toList

/-- The short name of an option, the first character of its long name. -/
def Key.letter : Key → Char
  | .options => 'o'
  | .tempo => 't'
  | .waveform => 'w'
  | .volume => 'v'
  | .format => 'f'

/-- All options that take a value. -/
def Key.all : List Key := [.options, .tempo, .waveform, .volume, .format]

/-- The long name of the flag that leaves out rests. -/
def audibleName : List Char := "audible".toList

/-- The short name of the flag that leaves out rests. -/
def audibleLetter : Char := 'a'

/-- The long name of the flag that asks for help. -/
def helpName : List Char := "help".toList

/-- The short name of the flag that asks for help. -/
def helpLetter : Char := 'h'

/-- Arguments that are still being read. -/
structure Draft where
  script : Option String := none
  options : Option String := none
  tempo : Option Binary64 := none
  waveform : Option String := none
  volume : Option Binary64 := none
  format : Option OutputFormat := none
  audible : Bool := false

namespace Draft

/-- The value of something that may be given once, if there is one. -/
def once {α : Type} (old new : Option α) : Except Stop α :=
  match old, new with
  | none, some value => .ok value
  | _, _ => .error .misuse

/-- A path, which is not empty. -/
def path? (text : List Char) : Option String :=
  if text = [] then none else some (String.ofList text)

/-- The format with this name. -/
def format? (text : List Char) : Option OutputFormat :=
  if text = "yaml".toList then some .yaml
  else if text = "table".toList then some .table
  else none

/-- Take over a path. -/
def addPath (draft : Draft) (text : List Char) : Except Stop Draft :=
  (once draft.script (path? text)).map fun p => { draft with script := some p }

/-- Take over the value of an option. -/
def add (draft : Draft) (key : Key) (text : List Char) : Except Stop Draft :=
  match key with
  | .options => (once draft.options (path? text)).map fun p => { draft with options := some p }
  | .tempo =>
    (once draft.tempo (Binary64.ofChars? text)).map fun x => { draft with tempo := some x }
  | .waveform =>
    (once draft.waveform (some (String.ofList text))).map fun w =>
      { draft with waveform := some w }
  | .volume =>
    (once draft.volume (Binary64.ofChars? text)).map fun x => { draft with volume := some x }
  | .format => (once draft.format (format? text)).map fun f => { draft with format := some f }

/-- Take over the flag that leaves out rests. -/
def addAudible (draft : Draft) : Except Stop Draft :=
  if draft.audible then .error .misuse else .ok { draft with audible := true }

/-- Whether an argument looks like an option; a hyphen on its own does not. -/
def looksLikeOption : List Char → Bool
  | '-' :: _ :: _ => true
  | _ => false

/-- Short names that are joined in one argument, with the option at their end that
still needs a value. -/
def addShort (draft : Draft) : List Char → Except Stop (Draft × Option Key)
  | [] => .ok (draft, none)
  | c :: rest =>
    if c = helpLetter then .error .help
    else if c = audibleLetter then draft.addAudible.bind fun draft => addShort draft rest
    else
      match Key.all.find? fun key => key.letter = c with
      | none => .error .misuse
      | some key =>
        match rest with
        | [] => .ok (draft, some key)
        | '=' :: value => (draft.add key value).map (·, none)
        | value => (draft.add key value).map (·, none)

/-- A long name with or without a value, and the option if it still needs one. -/
def addLong (draft : Draft) (text : List Char) : Except Stop (Draft × Option Key) :=
  let name := text.takeWhile (· ≠ '=')
  let value? := text.dropWhile (· ≠ '=')
  match Key.all.find? fun key => key.name = name, value? with
  | some key, _ :: value => (draft.add key value).map (·, none)
  | some key, [] => .ok (draft, some key)
  | none, [] =>
    if name = helpName then .error .help
    else if name = audibleName then draft.addAudible.map (·, none)
    else .error .misuse
  | none, _ :: _ => .error .misuse

/-- Take over all arguments.  `waiting` is the option that the next argument is the value
of. -/
def addAll (draft : Draft) (waiting : Option Key) : List (List Char) → Except Stop Draft
  | [] => if waiting.isSome then .error .misuse else .ok draft
  | argument :: rest =>
    match waiting with
    | some key =>
      if looksLikeOption argument then .error .misuse
      else (draft.add key argument).bind fun draft => addAll draft none rest
    | none =>
      if argument = ['-', '-'] then rest.foldlM addPath draft
      else
        match argument with
        | '-' :: '-' :: long =>
          (draft.addLong long).bind fun (draft, waiting) => addAll draft waiting rest
        | '-' :: c :: short =>
          (draft.addShort (c :: short)).bind fun (draft, waiting) => addAll draft waiting rest
        | path => (draft.addPath path).bind fun draft => addAll draft none rest

end Draft

/-- The arguments as given.  There has to be a script; nothing may be given twice. -/
def ofList (arguments : List String) : Except Stop Arguments :=
  (Draft.addAll {} none (arguments.map String.toList)).bind fun draft =>
    match draft.script with
    | none => .error .misuse
    | some script =>
      .ok
        { script
          options := draft.options
          tempo := draft.tempo
          waveform := draft.waveform
          volume := draft.volume
          format := draft.format.getD .yaml
          audible := draft.audible }

end Arguments

end BuzzerScript

import BuzzerScript.Command.Arguments
import BuzzerScript.Command.Folder
import BuzzerScript.Command.LogFilter
import BuzzerScript.Compile
import BuzzerScript.OptionsFile
import BuzzerScript.Timeline.Listing

/-!
# The command

The command prints the timeline of a script.  Options come from its arguments, then from an
options file, and are otherwise the defaults.

How a list of arguments is read, what the text of an options file says and how YAML writes a
number are not the command's own business.  A `Backend` decides on them, and `Command.runWith`
is the command with any of these.
-/

namespace BuzzerScript.Command

/-- What a run leaves behind. -/
structure Outcome where
  exitCode : Nat
  output : String := ""
  errors : String := ""
  deriving DecidableEq, Repr

/-- What the command leaves to others. -/
structure Backend where
  /-- The arguments that a list stands for, or what the command leaves behind
  instead of a run. -/
  arguments : List String → Except Outcome Arguments
  /-- The settings that the text of an options file holds, or what is said if it holds none. -/
  readOptions : String → Except String Settings
  /-- A number in YAML. -/
  printNumber : Binary64 → String

/-- The files that the command can read. -/
abbrev Files := String → Except ReadFailure String

/-- Why the command fails. -/
inductive Failure where
  | unreadableOptions (path : String) (reason : ReadFailure)
  | unreadableScript (path : String) (reason : ReadFailure)
  | compile (error : CompileError)
  deriving DecidableEq

/-- The wording of a failure. -/
def Failure.message : Failure → String
  | .unreadableOptions path reason =>
    "Error reading options '" ++ path ++ "': " ++ reason.message
  | .unreadableScript path reason => "Error reading file '" ++ path ++ "': " ++ reason.message
  | .compile error => error.message

/-! ## Steps -/

section Steps

variable (backend : Backend) (files : Files) (arguments : Arguments)

/-- The options of the options file, or the defaults if there is none. -/
def fileOptions : Except Failure PlayerOptions :=
  match arguments.options with
  | none => .ok {}
  | some path =>
    match files path with
    | .error reason => .error (.unreadableOptions path reason)
    | .ok text =>
      (PlayerOptions.ofText backend.readOptions text).mapError fun fault =>
        .compile (.options fault)

/-- The waveform of the arguments, or the given one. -/
def chooseWaveform (default : Waveform) : Except Failure Waveform :=
  match arguments.waveform with
  | none => .ok default
  | some name =>
    match Waveform.ofName? name with
    | some waveform => .ok waveform
    | none => .error (.compile (.options (.unknownWaveform name)))

/-- The options of the arguments, then of the options file, then the defaults, within range.
The options file has to be in order even where arguments replace what it says. -/
def loadOptions : Except Failure PlayerOptions := do
  let options ← fileOptions backend files arguments
  let waveform ← chooseWaveform arguments options.waveform
  let options : PlayerOptions :=
    { tempo := arguments.tempo.getD options.tempo
      waveform
      volume := arguments.volume.getD options.volume }
  options.validated.mapError fun fault => .compile (.options fault)

/-- The script at the path of the arguments. -/
def loadScript : Except Failure Script :=
  match files arguments.script with
  | .error reason => .error (.unreadableScript arguments.script reason)
  | .ok source => (Script.ofString source).mapError .compile

/-- A timeline in the form that is asked for. -/
def render (format : OutputFormat) (events : List SoundEvent) : String :=
  match format with
  | .yaml => Timeline.yamlWith backend.printNumber events
  | .table => Timeline.table events

/-- The records of a successful run: its tracks, a summary, and its events. -/
def report (script : Script) (events : List SoundEvent) : List LogRecord :=
  script.tracks.map .ofTrack ++ .ofTimeline arguments.script script events ::
    events.map .ofEvent

/-- The records and the output of the command. -/
def execute : Except Failure (List LogRecord × String) := do
  let options ← loadOptions backend files arguments
  let script ← loadScript files arguments
  let timeline := script.timeline options
  let events := if arguments.audible then audible timeline else timeline
  return (report arguments script events, render backend arguments.format events)

end Steps

/-! ## Runs -/

/-- The log lines of the records that a setting shows. -/
def logLines (log : Option String) (records : List LogRecord) : String :=
  String.join ((records.filter (LogFilter.shows (LogFilter.ofSetting log))).map LogRecord.line)

/-- What the steps of a run leave behind.  A failure is logged, and said again in any case. -/
def outcome (log : Option String) : Except Failure (List LogRecord × String) → Outcome
  | .ok (records, output) => { exitCode := 0, output, errors := logLines log records }
  | .error failure =>
    { exitCode := 1
      errors := logLines log [.ofFailure failure.message] ++ failure.message ++ "\n" }

/-- A run of the command. -/
def runWith (backend : Backend) (files : Files) (log : Option String) (list : List String) :
    Outcome :=
  match backend.arguments list with
  | .ok arguments => outcome log (execute backend files arguments)
  | .error instead => instead

/-! ## The backend of the program -/

/-- What is said about the use of the command. -/
def help : String :=
  "Compile a Buzzer Script into a timed list of sound events\n\n" ++
    "Usage: bzs [OPTIONS] <SCRIPT>\n\n" ++
    "Arguments:\n" ++
    "  <SCRIPT>  Script file (.bzs)\n\n" ++
    "Options:\n" ++
    "  -o, --options <OPTIONS>    YAML file with default tempo, waveform, and volume\n" ++
    "  -t, --tempo <TEMPO>        Default tempo in BPM (overrides the options file)\n" ++
    "  -w, --waveform <WAVEFORM>  Default waveform: sine, square, sawtooth, or triangle\n" ++
    "  -v, --volume <VOLUME>      Default volume 0.0-1.0\n" ++
    "  -f, --format <FORMAT>      Output format [default: yaml] " ++
    "[possible values: yaml, table]\n" ++
    "  -a, --audible              Leave out rests\n" ++
    "  -h, --help                 Print help\n"

/-- What is said about arguments that make no sense, whatever is wrong with them. -/
def usage : String :=
  "Usage: bzs [OPTIONS] <SCRIPT>\n\nFor more information, try '--help'.\n"

/-- What is left behind when a list of arguments leads to no run. -/
def Outcome.ofStop : Arguments.Stop → Outcome
  | .help => { exitCode := 0, output := help }
  | .misuse => { exitCode := 2, errors := usage }

/-- Arguments and options files as this library reads them, and numbers with their shortest
digits.  A text that is not well formed is refused without an explanation. -/
def Backend.standard : Backend where
  arguments := fun list => (Arguments.ofList list).mapError Outcome.ofStop
  readOptions := OptionsFile.readUnexplained
  printNumber := Timeline.numberFormat.render

/-- A run of the program. -/
def run : Files → Option String → List String → Outcome := runWith .standard

end BuzzerScript.Command

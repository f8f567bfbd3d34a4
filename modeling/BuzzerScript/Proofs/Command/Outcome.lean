import BuzzerScript.Proofs.Command.Messages
import BuzzerScript.Proofs.Command.Printed
import BuzzerScript.Proofs.Options
import BuzzerScript.Proofs.Script.NoteTokens

/-!
# What a run of the command comes to

A run goes through its steps in a fixed order: the options file, the name of the waveform, the
check of the options, the script file, and the script.  It prints what is compiled with the
options that the arguments, the options file and the defaults make together, or it says why the
first step that fails does so.  What is logged changes neither.

All this holds for any `Backend`: nothing is assumed of how arguments and options files are
read, and of how numbers are written.
-/

namespace BuzzerScript.Command

/-! ## Options of a run -/

section Relations

variable (backend : Backend) (files : Files) (arguments : Arguments)

/-- The options that the options file gives, or the defaults without one. -/
def FileGives (options : PlayerOptions) : Prop :=
  match arguments.options with
  | none => options = {}
  | some path =>
    ∃ text, files path = .ok text ∧ PlayerOptions.ofText backend.readOptions text = .ok options

/-- The waveform that an argument names, or the given one without such an argument. -/
def Names (default waveform : Waveform) : Prop :=
  match arguments.waveform with
  | none => waveform = default
  | some name => Waveform.ofName? name = some waveform

/-- Options that have each value from the arguments, else from the options file, else from the
defaults. -/
structure Combines (base options : PlayerOptions) : Prop where
  file : FileGives backend files arguments base
  tempo : options.tempo = arguments.tempo.getD base.tempo
  waveform : Names arguments base.waveform options.waveform
  volume : options.volume = arguments.volume.getD base.volume

/-- The message of the first step that fails, where the steps before it succeed. -/
inductive FirstFailure : String → Prop
  | unreadableOptions {path : String} {reason : ReadFailure}
      (options : arguments.options = some path) (read : files path = .error reason) :
      FirstFailure ("Error reading options '" ++ path ++ "': " ++ reason.message)
  | noOptions {path text reason : String} (options : arguments.options = some path)
      (read : files path = .ok text) (refused : backend.readOptions text = .error reason) :
      FirstFailure ("Invalid options: " ++ reason)
  | refusedOptions {path text remark : String} {settings : Settings}
      (options : arguments.options = some path) (read : files path = .ok text)
      (holds : backend.readOptions text = .ok settings)
      (refused : (settings.resolve {}).OutOfRange remark) :
      FirstFailure ("Invalid options: " ++ remark)
  | unknownWaveform {base : PlayerOptions} {name : String}
      (file : FileGives backend files arguments base)
      (waveform : arguments.waveform = some name)
      (unknown : Waveform.ofName? name = none) :
      FirstFailure ("Invalid options: Unknown waveform '" ++ name ++
        "'. Expected: sine, square, sawtooth, or triangle")
  | invalid {base options : PlayerOptions} {remark : String}
      (combines : Combines backend files arguments base options)
      (refused : options.OutOfRange remark) : FirstFailure ("Invalid options: " ++ remark)
  | unreadableScript {base options validated : PlayerOptions} {reason : ReadFailure}
      (combines : Combines backend files arguments base options)
      (valid : options.validated = .ok validated)
      (read : files arguments.script = .error reason) :
      FirstFailure ("Error reading file '" ++ arguments.script ++ "': " ++ reason.message)
  | notCompiled {base options validated : PlayerOptions} {source message : String}
      {e : CompileError} (combines : Combines backend files arguments base options)
      (valid : options.validated = .ok validated) (read : files arguments.script = .ok source)
      (fails : compileWith options source = .error e) (wording : e.HasMessage message) :
      FirstFailure message

end Relations

variable {backend : Backend} {files : Files} {arguments : Arguments}

theorem ofText_eq_ok_iff {read : String → Except String Settings} {text : String}
    {options : PlayerOptions} :
    PlayerOptions.ofText read text = .ok options ↔
      ∃ settings, read text = .ok settings ∧
        (settings.resolve {}).validated = .ok options := by
  rw [PlayerOptions.ofText]
  cases read text <;> simp

theorem fileOptions_eq_ok_iff {base : PlayerOptions} :
    fileOptions backend files arguments = .ok base ↔
      FileGives backend files arguments base := by
  rw [fileOptions, FileGives]
  cases arguments.options with
  | none => simp [eq_comm]
  | some path =>
    cases hread : files path with
    | error reason => simp [hread]
    | ok text =>
      cases htext : PlayerOptions.ofText backend.readOptions text <;>
        simp [hread, htext, Except.mapError]

theorem firstFailure_of_fileOptions {failure : Failure}
    (h : fileOptions backend files arguments = .error failure) :
    FirstFailure backend files arguments failure.message := by
  rw [fileOptions] at h
  cases hpath : arguments.options with
  | none => simp [hpath] at h
  | some path =>
    cases hread : files path with
    | error reason =>
      simp only [hpath, hread] at h
      obtain rfl := Except.error.inj h
      exact .unreadableOptions hpath hread
    | ok text =>
      simp only [hpath, hread, PlayerOptions.ofText] at h
      cases hsettings : backend.readOptions text with
      | error reason =>
        rw [hsettings] at h
        obtain rfl := Except.error.inj h
        exact .noOptions hpath hread hsettings
      | ok settings =>
        simp only [hsettings] at h
        cases hvalid : (settings.resolve {}).validated with
        | ok base => simp [hvalid, Except.mapError] at h
        | error fault =>
          rw [hvalid] at h
          obtain rfl := Except.error.inj h
          exact .refusedOptions hpath hread hsettings
            (PlayerOptions.outOfRange_of_validated hvalid)

theorem chooseWaveform_eq_ok_iff {default waveform : Waveform} :
    chooseWaveform arguments default = .ok waveform ↔ Names arguments default waveform := by
  rw [chooseWaveform, Names]
  cases arguments.waveform with
  | none => simp [eq_comm]
  | some name => cases hname : Waveform.ofName? name <;> simp [hname]

theorem Failure.message_compile (e : CompileError) : (Failure.compile e).message = e.message :=
  rfl

theorem firstFailure_of_chooseWaveform {base : PlayerOptions} {failure : Failure}
    (hfile : FileGives backend files arguments base)
    (h : chooseWaveform arguments base.waveform = .error failure) :
    FirstFailure backend files arguments failure.message := by
  rw [chooseWaveform] at h
  cases hname : arguments.waveform with
  | none => simp [hname] at h
  | some name =>
    cases hwaveform : Waveform.ofName? name with
    | some waveform => simp [hname, hwaveform] at h
    | none =>
      simp only [hname, hwaveform] at h
      obtain rfl := Except.error.inj h
      rw [Failure.message_compile, CompileError.message_unknownWaveform]
      exact .unknownWaveform hfile hname hwaveform

/-- The options of a run are checked once they are put together. -/
theorem loadOptions_of_ok {base : PlayerOptions} {waveform : Waveform}
    (hfile : fileOptions backend files arguments = .ok base)
    (hwaveform : chooseWaveform arguments base.waveform = .ok waveform) :
    loadOptions backend files arguments =
      (PlayerOptions.validated
        { tempo := arguments.tempo.getD base.tempo
          waveform
          volume := arguments.volume.getD base.volume }).mapError
        fun fault => .compile (.options fault) := by
  simp only [loadOptions, hfile, hwaveform, bind, Except.bind]

theorem Combines.loadOptions_eq {base options : PlayerOptions}
    (h : Combines backend files arguments base options) :
    loadOptions backend files arguments =
      options.validated.mapError fun fault => .compile (.options fault) := by
  have hfile := fileOptions_eq_ok_iff.mpr h.file
  have hwaveform := chooseWaveform_eq_ok_iff.mpr h.waveform
  rw [loadOptions_of_ok hfile hwaveform, ← h.tempo, ← h.volume]

/-- Either the options of a run can be put together, or that is where it fails. -/
theorem exists_combines (backend : Backend) (files : Files) (arguments : Arguments) :
    (∃ base options, Combines backend files arguments base options) ∨
      ∃ failure, loadOptions backend files arguments = .error failure ∧
        FirstFailure backend files arguments failure.message := by
  cases hfile : fileOptions backend files arguments with
  | error failure =>
    refine .inr ⟨failure, ?_, firstFailure_of_fileOptions hfile⟩
    simp only [loadOptions, hfile, bind, Except.bind]
  | ok base =>
    have hgives := fileOptions_eq_ok_iff.mp hfile
    cases hwaveform : chooseWaveform arguments base.waveform with
    | error failure =>
      refine .inr ⟨failure, ?_, firstFailure_of_chooseWaveform hgives hwaveform⟩
      simp only [loadOptions, hfile, hwaveform, bind, Except.bind]
    | ok waveform =>
      have hnames := chooseWaveform_eq_ok_iff.mp hwaveform
      let options : PlayerOptions :=
        { tempo := arguments.tempo.getD base.tempo
          waveform
          volume := arguments.volume.getD base.volume }
      exact .inl ⟨base, options, ⟨hgives, rfl, hnames, rfl⟩⟩

/-! ## Steps of a run -/

/-- What is printed for a script that is read with options that have passed the check. -/
def printed (backend : Backend) (arguments : Arguments) (script : Script)
    (validated : PlayerOptions) : String :=
  render backend arguments.format
    (if arguments.audible then audible (script.timeline validated)
      else script.timeline validated)

/-- Once the options have passed the check, the script decides. -/
theorem Combines.execute_eq {base options validated : PlayerOptions}
    (h : Combines backend files arguments base options)
    (hvalid : options.validated = .ok validated) :
    (execute backend files arguments).map Prod.snd =
      (loadScript files arguments).map fun script =>
        printed backend arguments script validated := by
  rw [execute, h.loadOptions_eq, hvalid]
  cases loadScript files arguments <;> rfl

theorem error_of_map {ε α β : Type} {f : α → β} {result : Except ε α} {e : ε}
    (h : result.map f = .error e) : result = .error e := by
  cases result with
  | error found => exact congrArg Except.error (Except.error.inj h)
  | ok a => cases h

theorem execute_of_loadOptions {failure : Failure}
    (h : loadOptions backend files arguments = .error failure) :
    execute backend files arguments = .error failure := by
  simp only [execute, h, bind, Except.bind]

/-- Either all steps succeed, or the failure of a run is that of the first step that fails. -/
theorem exists_printed (backend : Backend) (files : Files) (arguments : Arguments) :
    (∃ (base options validated : PlayerOptions) (source : String) (script : Script),
      Combines backend files arguments base options ∧ options.validated = .ok validated ∧
        files arguments.script = .ok source ∧ Script.ofString source = .ok script ∧
        (execute backend files arguments).map Prod.snd =
          .ok (printed backend arguments script validated)) ∨
      ∃ failure, execute backend files arguments = .error failure ∧
        FirstFailure backend files arguments failure.message := by
  obtain ⟨base, options, hcombines⟩ | ⟨failure, hload, hfirst⟩ :=
    exists_combines backend files arguments
  · cases hvalid : options.validated with
    | error fault =>
      have hload := hcombines.loadOptions_eq
      rw [hvalid] at hload
      exact .inr ⟨_, execute_of_loadOptions hload,
        .invalid hcombines (PlayerOptions.outOfRange_of_validated hvalid)⟩
    | ok validated =>
      have hexecute := hcombines.execute_eq hvalid
      cases hread : files arguments.script with
      | error reason =>
        simp only [loadScript, hread] at hexecute
        exact .inr ⟨_, error_of_map hexecute, .unreadableScript hcombines hvalid hread⟩
      | ok source =>
        have hcompile := compileWith_of_validated hvalid source
        simp only [loadScript, hread] at hexecute
        cases hscript : Script.ofString source with
        | error e =>
          have hmessage : e.HasMessage e.message :=
            CompileError.hasMessage_message fun fault he =>
              Script.ofString_ne_options source fault (he ▸ hscript)
          rw [hscript] at hexecute hcompile
          exact .inr ⟨_, error_of_map hexecute,
            .notCompiled hcombines hvalid hread hcompile hmessage⟩
        | ok script =>
          rw [hscript] at hexecute
          exact .inl ⟨base, options, validated, source, script, hcombines, hvalid, rfl,
            hscript, hexecute⟩
  · exact .inr ⟨failure, execute_of_loadOptions hload, hfirst⟩

/-! ## Runs -/

theorem outcome_of_ok {result : Except Failure (List LogRecord × String)} {output : String}
    (h : result.map Prod.snd = .ok output) (log : Option String) :
    (outcome log result).exitCode = 0 ∧ (outcome log result).output = output := by
  cases result with
  | error failure => cases h
  | ok found => exact ⟨rfl, Except.ok.inj h⟩

/-- A failure is said behind whatever is logged. -/
theorem outcome_error (log : Option String) (failure : Failure) :
    (outcome log (.error failure)).exitCode = 1 ∧ (outcome log (.error failure)).output = "" ∧
      ∃ before, (outcome log (.error failure)).errors = before ++ failure.message ++ "\n" :=
  ⟨rfl, rfl, _, rfl⟩

/-- The log setting changes the log and nothing else. -/
theorem outcome_log (log other : Option String)
    (result : Except Failure (List LogRecord × String)) :
    (outcome other result).exitCode = (outcome log result).exitCode ∧
      (outcome other result).output = (outcome log result).output := by
  cases result with
  | ok found => exact ⟨rfl, rfl⟩
  | error failure => exact ⟨rfl, rfl⟩

/-- What is compiled with the options of a run is what the run prints. -/
theorem execute_of_compiled {base options : PlayerOptions} {source : String}
    {events : List SoundEvent} (hcombines : Combines backend files arguments base options)
    (hread : files arguments.script = .ok source)
    (hevents : (if arguments.audible then compileAudible options source
      else compileWith options source) = .ok events) :
    (execute backend files arguments).map Prod.snd =
      .ok (render backend arguments.format events) := by
  obtain ⟨all, hall, rfl⟩ : ∃ all, compileWith options source = .ok all ∧
      events = if arguments.audible then audible all else all := by
    cases haudible : arguments.audible with
    | true =>
      rw [haudible, if_pos rfl] at hevents
      obtain ⟨all, hall, rfl⟩ := compileAudible_eq_ok_iff.mp hevents
      exact ⟨all, hall, rfl⟩
    | false =>
      rw [haudible, if_neg Bool.false_ne_true] at hevents
      exact ⟨events, hevents, rfl⟩
  obtain ⟨validated, script, hvalid, hscript, rfl⟩ := compileWith_eq_ok_iff.mp hall
  rw [hcombines.execute_eq hvalid]
  simp only [loadScript, hread, hscript]
  rfl

/-- A run that compiles succeeds and prints what is compiled. -/
theorem outcome_of_compiled (log : Option String) {base options : PlayerOptions}
    {source : String} {events : List SoundEvent}
    (hcombines : Combines backend files arguments base options)
    (hread : files arguments.script = .ok source)
    (hevents : (if arguments.audible then compileAudible options source
      else compileWith options source) = .ok events) :
    (outcome log (execute backend files arguments)).exitCode = 0 ∧
      IsPrinted backend.printNumber events arguments.format
        (outcome log (execute backend files arguments)).output := by
  obtain ⟨hzero, houtput⟩ := outcome_of_ok (execute_of_compiled hcombines hread hevents) log
  exact ⟨hzero, houtput ▸ isPrinted_render backend arguments.format events⟩

theorem exists_compiled {options : PlayerOptions} {source : String} {all : List SoundEvent}
    (h : compileWith options source = .ok all) (audibleOnly : Bool) :
    ∃ events, (if audibleOnly then compileAudible options source
      else compileWith options source) = .ok events := by
  cases audibleOnly with
  | true =>
    rw [if_pos rfl, compileAudible, h]
    exact ⟨_, rfl⟩
  | false => exact ⟨all, h⟩

/-- **What a run comes to**, with a list that stands for arguments.  It succeeds exactly if
the options file, if there is one, can be read and is accepted, the name of the waveform is
known, the options pass the check, and the script can be read and is compiled.  Then it
prints what is compiled, in the form and with or without rests as it is asked for.  Otherwise
it prints nothing and ends with the message of the first step that fails.  The log setting
has no part in it. -/
theorem run_outcome {list : List String} (h : backend.arguments list = .ok arguments)
    (files : Files) (log : Option String) :
    ((runWith backend files log list).exitCode = 0 ↔
      ∃ base options validated source events,
        Combines backend files arguments base options ∧ options.validated = .ok validated ∧
          files arguments.script = .ok source ∧ compileWith options source = .ok events) ∧
    (∀ base options source events, Combines backend files arguments base options →
      files arguments.script = .ok source →
      (if arguments.audible then compileAudible options source
        else compileWith options source) = .ok events →
      (runWith backend files log list).exitCode = 0 ∧
        IsPrinted backend.printNumber events arguments.format
          (runWith backend files log list).output) ∧
    ((runWith backend files log list).exitCode ≠ 0 →
      (runWith backend files log list).exitCode = 1 ∧
        (runWith backend files log list).output = "" ∧
        ∃ message before, FirstFailure backend files arguments message ∧
          (runWith backend files log list).errors = before ++ message ++ "\n") ∧
    ∀ other,
      (runWith backend files other list).exitCode = (runWith backend files log list).exitCode ∧
        (runWith backend files other list).output =
          (runWith backend files log list).output := by
  have hrun : ∀ log, runWith backend files log list =
      outcome log (execute backend files arguments) := by
    intro log
    rw [runWith, h]
  simp only [hrun]
  refine ⟨⟨?_, ?_⟩, ?_, ?_, fun other => outcome_log log other _⟩
  · intro hzero
    obtain ⟨base, options, validated, source, script, hcombines, hvalid, hread, hscript, -⟩ |
      ⟨failure, hexecute, -⟩ := exists_printed backend files arguments
    · have hevents := compileWith_eq_ok_iff.mpr ⟨_, _, hvalid, hscript, rfl⟩
      exact ⟨base, options, validated, source, _, hcombines, hvalid, hread, hevents⟩
    · rw [hexecute, (outcome_error log failure).1] at hzero
      cases hzero
  · rintro ⟨base, options, -, source, all, hcombines, -, hread, hall⟩
    obtain ⟨events, hevents⟩ := exists_compiled hall arguments.audible
    exact (outcome_of_compiled log hcombines hread hevents).1
  · intro base options source events hcombines hread hevents
    exact outcome_of_compiled log hcombines hread hevents
  · intro hne
    obtain ⟨base, options, validated, source, script, -, -, -, -, hexecute⟩ |
      ⟨failure, hexecute, hfirst⟩ := exists_printed backend files arguments
    · exact absurd (outcome_of_ok hexecute log).1 hne
    · rw [hexecute]
      obtain ⟨hone, hempty, before, herrors⟩ := outcome_error log failure
      exact ⟨hone, hempty, failure.message, before, hfirst, herrors⟩

/-- A single file with a rest in it. -/
def restFile : Files := fun path => if path = "s.bzs" then .ok "R 4" else .error .missing

/-- The rest, half a second long. -/
def restEvent : SoundEvent := ⟨0, 1 / 2, none, .square, ({} : PlayerOptions).volume⟩

theorem isPrinted_restEvent_yaml : IsPrinted Timeline.numberFormat.render [restEvent] .yaml
    ("- startSeconds: 0.0\n  durationSeconds: 0.5\n  frequencyHz: null\n" ++
      "  waveform: square\n  volume: 0.2\n") := by
  have hitems : Timeline.IsYamlItems Timeline.numberFormat.render [restEvent] _ :=
    .cons .rest .square .nil
  convert IsPrinted.yaml (.items (List.cons_ne_nil _ _) hitems) using 1
  decide +kernel

theorem isPrinted_restEvent_table : IsPrinted Timeline.numberFormat.render [restEvent] .table
    ("     start   duration    frequency  waveform  volume\n" ++
      "    0.0000     0.5000         rest    square   0.200\n") := by
  have hplaces := fun places (h : 0 < places) => Binary64.hasPlaces_renderPlaces h
  have hrows : Timeline.IsRows [restEvent] _ :=
    .cons (hplaces 4 (by decide) _) (hplaces 4 (by decide) _) .rest .square
      (hplaces 3 (by decide) _) .nil
  convert IsPrinted.table (.rows hrows) using 1
  decide +kernel

/-- Arguments with an options file that is missing, and a waveform that nobody knows. -/
def lostArguments : Arguments :=
  { script := "s.bzs", options := some "o.yaml", waveform := some "x" }

theorem firstFailure_lostArguments {message : String}
    (h : FirstFailure .standard restFile lostArguments message) :
    message = "Error reading options 'o.yaml': No such file or directory (os error 2)" := by
  have hread : restFile "o.yaml" = .error .missing := rfl
  have hfile : ∀ options, ¬ FileGives .standard restFile lostArguments options := by
    rintro options ⟨text, htext, -⟩
    rw [hread] at htext
    cases htext
  cases h with
  | unreadableOptions options read =>
    obtain rfl := Option.some.inj options
    obtain rfl := Except.error.inj (hread.symm.trans read)
    decide +kernel
  | noOptions options read =>
    obtain rfl := Option.some.inj options
    cases hread.symm.trans read
  | refusedOptions options read =>
    obtain rfl := Option.some.inj options
    cases hread.symm.trans read
  | unknownWaveform file => exact absurd file (hfile _)
  | invalid combines => exact absurd combines.file (hfile _)
  | unreadableScript combines => exact absurd combines.file (hfile _)
  | notCompiled combines => exact absurd combines.file (hfile _)

/-- Without an options file the rest is printed, in either form; with one that is missing, the
reading of it is the first step that fails, whatever the name of the waveform is. -/
theorem run_restFile :
    (run restFile (some "debug") ["s.bzs"]).exitCode = 0 ∧
    (run restFile (some "debug") ["s.bzs"]).output =
      "- startSeconds: 0.0\n  durationSeconds: 0.5\n  frequencyHz: null\n" ++
        "  waveform: square\n  volume: 0.2\n" ∧
    (run restFile none ["--format=table", "s.bzs"]).output =
      "     start   duration    frequency  waveform  volume\n" ++
        "    0.0000     0.5000         rest    square   0.200\n" ∧
    (run restFile none ["s.bzs", "-wx", "-o", "o.yaml"]).exitCode = 1 ∧
    (run restFile none ["s.bzs", "-wx", "-o", "o.yaml"]).output = "" ∧
    ∃ before, (run restFile none ["s.bzs", "-wx", "-o", "o.yaml"]).errors = before ++
      "Error reading options 'o.yaml': No such file or directory (os error 2)" ++ "\n" := by
  have hscript : Script.ofString "R 4" = .ok
      { tracks := [{ name := "main", tokens := [⟨.rest, 4⟩] }] } := by
    decide +kernel
  have htimeline :
      Script.timeline { tracks := [{ name := "main", tokens := [⟨.rest, 4⟩] }] } {} =
        [restEvent] := by
    decide +kernel
  have hvalid : ({} : PlayerOptions).validated = .ok {} :=
    PlayerOptions.validated_of_inRange PlayerOptions.inRange_default
  have hevents := compileWith_eq_ok_iff.mpr ⟨_, _, hvalid, hscript, htimeline⟩
  have hlines : (run restFile (some "debug") ["s.bzs"]).exitCode = 0 ∧
      IsPrinted Timeline.numberFormat.render [restEvent] .yaml
        (run restFile (some "debug") ["s.bzs"]).output := by
    have hlist : Backend.standard.arguments ["s.bzs"] = .ok { script := "s.bzs" } := rfl
    obtain ⟨-, hsucceeds, -⟩ := run_outcome hlist restFile (some "debug")
    exact hsucceeds {} {} "R 4" _ ⟨rfl, rfl, rfl, rfl⟩ rfl hevents
  have htable : IsPrinted Timeline.numberFormat.render [restEvent] .table
      (run restFile none ["--format=table", "s.bzs"]).output := by
    have hlist : Backend.standard.arguments ["--format=table", "s.bzs"] =
        .ok { script := "s.bzs", format := .table } := rfl
    obtain ⟨-, hsucceeds, -⟩ := run_outcome hlist restFile none
    exact (hsucceeds {} {} "R 4" _ ⟨rfl, rfl, rfl, rfl⟩ rfl hevents).2
  have hlost : Backend.standard.arguments ["s.bzs", "-wx", "-o", "o.yaml"] =
      .ok lostArguments := rfl
  obtain ⟨-, -, hfails, -⟩ := run_outcome hlost restFile none
  have hcode : (run restFile none ["s.bzs", "-wx", "-o", "o.yaml"]).exitCode ≠ 0 := by
    decide +kernel
  obtain ⟨hone, hempty, message, before, hfirst, herrors⟩ := hfails hcode
  refine ⟨hlines.1, hlines.2.unique isPrinted_restEvent_yaml,
    htable.unique isPrinted_restEvent_table, hone, hempty, before, ?_⟩
  rw [firstFailure_lostArguments hfirst] at herrors
  exact herrors

end BuzzerScript.Command

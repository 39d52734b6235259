import Handoff.Metrics.Sink
import Handoff.Pipeline.Timeline
import Handoff.Telemetry.Log
/-!
# The command line program

The program copies lines from its standard input to its standard output through the stage that the
environment chooses, and logs to standard error. It ends at the end of its input or after an
interrupt signal. A run that fails is reported in one line, which names what the program was doing
and the cause, and gives exit code 1.
-/
namespace Handoff.CommandLine

/-- Name of the program. -/
def program : String := "pipeline-runtime"

/-- How the program is run. -/
structure Invocation where
  env : Environment
  input : Bytes
  /-- An interrupt signal comes after all input has been handled. The input stays open till then. -/
  interrupted : Bool := false

/-- What the program leaves behind. -/
structure Outcome where
  code : Nat
  output : Bytes
  /-- Reported on standard error apart from the log. -/
  complaint : Option String
  /-- The log, if one was installed. -/
  log : Option Telemetry.Log
  /-- Everything that happened, in order. -/
  events : List Event

/-- Events that the log writes. -/
def Outcome.written (o : Outcome) : List Event :=
  match o.log with
  | some log => o.events.filter log.writes
  | none => []

/-- What the program was doing, and the cause. -/
def complaint (context cause : String) : String := program ++ ": " ++ context ++ ": " ++ cause

/-- The same over several lines, the cause indented. -/
def account (context cause : String) : String :=
  let indent : Char → List Char := fun c =>
    if c = '\n' then ['\n', ' ', ' ', ' ', ' '] else [c]
  context ++ "\n\nCaused by:\n    " ++ String.ofList (cause.toList.flatMap indent)

/-- The counters of a run as a collector reads them. A counter exists once it has counted. -/
def metricsText (report : Pipeline.Report) : String :=
  let count (sink : Metrics.Sink) (name : String) (value : Nat) : Metrics.Sink :=
    if value = 0 then sink else sink.incr name value
  let sink := count { kind := .exported } forwardedCounter report.forwarded
  (count sink abandonedCounter report.abandoned).exposition Metrics.Sink.family

/-- The time at which the interrupt signal comes. -/
def interruptAt : Nat := Duration.nanoseconds (.ofMilliseconds 100)

/-- The run of the pipeline on the input. -/
def pipeline (settings : PipelineSettings) (i : Invocation) : Pipeline.Run :=
  let run := Pipeline.Run.start settings Pipeline.Buffer.defaultRegistry { coming := [i.input] } {}
  let timeline :=
    if i.interrupted then Pipeline.Timeline.of run [0] none (some interruptAt)
    else Pipeline.Timeline.of run [0] (some 0) none
  timeline.play

/-- Runs the pipeline under a log that is installed, after some events. -/
def runLogged (i : Invocation) (log : Telemetry.Log) (before : List Event) : Outcome :=
  let (settings, ignored) := PipelineSettings.ofEnvironment i.env
  let begun := before ++ ignored ++
    [.starting settings.buffer.typeName settings.shutdownTimeout, Pipeline.Buffer.defaults.2]
  match (pipeline settings i).report? 0 with
  | none => { code := 1, output := [], complaint := none, log := some log, events := begun }
  | some report =>
    let outcome (code : Nat) (complaint : Option String) (after : List Event) : Outcome :=
      { code, output := report.output, complaint, log := some log,
        events := begun ++ report.log ++ after }
    match report.result with
    | .ok s =>
      outcome 0 none [.finished s.delivered s.interrupted, .finalMetrics (metricsText report)]
    | .error (.capacity fault) => outcome 101 (some fault.message) []
    | .error e =>
      outcome 1 (some (complaint e.context e.cause)) [.aborted (account e.context e.cause)]

def run (i : Invocation) : Outcome :=
  match Telemetry.Log.install i.env (.forService i.env program) false with
  | .ok (log, before) => runLogged i log before
  | .error e =>
    { code := 1
      output := []
      complaint := some (complaint "Failed to initialize telemetry" e.message)
      log := none
      events := [] }

end Handoff.CommandLine

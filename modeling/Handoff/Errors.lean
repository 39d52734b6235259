import Handoff.Duration
/-!
# Errors

What can go wrong with a stage, its construction and the telemetry around it, each with its text.
-/
namespace Handoff

/-- What a stage reports to its caller. -/
inductive StageError
  | alreadyStarted
  | timedOut (limit : Duration)
deriving DecidableEq, Repr

def StageError.message : StageError → String
  | .alreadyStarted => "stage already started: an inbound source is already attached"
  | .timedOut limit => "timed out after " ++ limit.text ++ " waiting for stage to close"

/-- What a failed shutdown of a stage is reported under. -/
def shutdownContext : String := "Buffer stage failed to shut down"

/-- A fault that a stage reports on its error channel. The pass-through stage has no such
channel. -/
structure StageFault where
  message : String
deriving DecidableEq, Repr

/-- Why a stage could not be built. -/
inductive ConstructionError
  | unknownType (name : String)
  | invalidConfig (reason : String)
deriving DecidableEq, Repr

def ConstructionError.message : ConstructionError → String
  | .unknownType name => "Unknown buffer type: " ++ name
  | .invalidConfig reason => "Invalid buffer configuration: " ++ reason

/-- A reader found its channel at its end. -/
inductive ReceiveError
  | closed
deriving DecidableEq, Repr

def ReceiveError.message : ReceiveError → String
  | .closed => "Transaction channel closed"

/-- Why logging or metrics could not be set up. -/
inductive TelemetryError
  | tracerInit (reason : String)
  | metricsInit (reason : String)
  | config (reason : String)
deriving DecidableEq, Repr

def TelemetryError.message : TelemetryError → String
  | .tracerInit reason => "Failed to initialize tracing subscriber: " ++ reason
  | .metricsInit reason => "Failed to initialize Prometheus metrics: " ++ reason
  | .config reason => "Invalid configuration: " ++ reason

end Handoff

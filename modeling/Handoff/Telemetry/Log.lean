import Handoff.Errors
import Handoff.Settings.Telemetry
import Handoff.Telemetry.Filter
/-!
# The log of a process

A process has one log. Its filter comes from the environment if a usable one is set there, else from
the settings. Once a log is in place no other can be installed.
-/
namespace Handoff.Telemetry

/-- The filter for a log. A filter in the environment that cannot be read counts as not set. -/
def chooseFilter (env : Environment) (settings : TelemetrySettings) :
    Except TelemetryError Filter :=
  match (env.text? "RUST_LOG").bind fun text => (Filter.ofText? text).toOption with
  | some filter => .ok filter
  | none =>
    match Filter.ofText? settings.logLevel with
    | .ok filter => .ok filter
    | .error fault => .error (.config fault.message)

structure Log where
  filter : Filter
  /-- Without a console nothing is written. -/
  console : Bool
  json : Bool
deriving Repr

namespace Log

/-- The log of a process that has none yet, with the event that reports it. -/
def install (env : Environment) (settings : TelemetrySettings) (occupied : Bool) :
    Except TelemetryError (Log × List Event) :=
  match chooseFilter env settings with
  | .error e => .error e
  | .ok filter =>
    if occupied then
      .error (.tracerInit "a global default trace dispatcher has already been set")
    else
      .ok (⟨filter, settings.consoleOutput, settings.jsonLogs⟩,
        if settings.consoleOutput then [.tracingReady settings.serviceName settings.jsonLogs]
        else [])

/-- Whether an event is written. -/
def writes (log : Log) (e : Event) : Bool := log.console && log.filter.allows e.origin e.level

end Log
end Handoff.Telemetry

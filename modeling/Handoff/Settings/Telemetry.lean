import Handoff.Environment
import Handoff.Text.Blank
import Handoff.Text.Lowercase
/-!
# Settings of the log output

Where the log goes, in which form, and what it holds.
-/
namespace Handoff

structure TelemetrySettings where
  serviceName : String := "pipeline"
  /-- Filter directives for the log. -/
  logLevel : String := "info"
  consoleOutput : Bool := true
  jsonLogs : Bool := false
deriving DecidableEq, Repr

namespace TelemetrySettings

def default : TelemetrySettings := {}

/-- One of four words, in any case and with blanks around it. -/
def readFlag (value : String) : Bool :=
  ["true", "1", "yes", "on"].contains
    (String.ofList (Text.lowercase (Text.trim value.toList)))

/-- Inside a container the log is written as JSON unless the environment decides otherwise. -/
def inContainer (env : Environment) : Bool :=
  env.isSet "KUBERNETES_SERVICE_HOST" || env.isSet "DOCKER_CONTAINER"

def ofEnvironment (env : Environment) : TelemetrySettings where
  serviceName := (env.text? "OTEL_SERVICE_NAME").getD default.serviceName
  logLevel :=
    ((env.text? "PIPELINE_LOG_LEVEL").or (env.text? "RUST_LOG")).getD default.logLevel
  consoleOutput := ((env.text? "PIPELINE_CONSOLE_OUTPUT").map readFlag).getD default.consoleOutput
  jsonLogs := ((env.text? "PIPELINE_JSON_LOGS").map readFlag).getD (inContainer env)

/-- The settings of the environment under another service name. -/
def forService (env : Environment) (service : String) : TelemetrySettings :=
  { ofEnvironment env with serviceName := service }

end TelemetrySettings
end Handoff

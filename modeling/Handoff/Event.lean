import Handoff.Duration
/-!
# Log events

Everything the library reports about itself is one of the events below. An event has a level, an
origin by which filters tell events apart, a message and fields.
-/
namespace Handoff

inductive Level
  | trace
  | debug
  | info
  | warn
  | error
deriving DecidableEq, Repr

namespace Level

/-- Higher is more severe. -/
def severity : Level → Nat
  | .trace => 1
  | .debug => 2
  | .info => 3
  | .warn => 4
  | .error => 5

def name : Level → String
  | .trace => "TRACE"
  | .debug => "DEBUG"
  | .info => "INFO"
  | .warn => "WARN"
  | .error => "ERROR"

end Level

/-- Why a forwarding loop stopped forwarding. -/
inductive Exit
  | inboundClosed
  | closeRequested
  | outboundGone
deriving DecidableEq, Repr

def Exit.label : Exit → String
  | .inboundClosed => "inbound_closed"
  | .closeRequested => "close_requested"
  | .outboundGone => "outbound_gone"

/-- The value of a field. -/
inductive FieldValue
  | text (s : String)
  | count (n : Nat)
  | flag (b : Bool)
deriving DecidableEq, Repr

def FieldValue.plain : FieldValue → String
  | .text s => s
  | .count n => toString n
  | .flag b => if b then "true" else "false"

inductive Event
  | closeRequested
  | loopStarted (buffer : String)
  | handedOff (buffer : String)
  | loopClosed (buffer : String) (reason : Exit) (abandoned : Nat)
  | lateAnswered (buffer : String) (late : Nat)
  | alreadyAttached (buffer : String)
  | stoppedBeforeStart (buffer : String)
  | typeRegistered (buffer : String)
  | typeReplaced (buffer : String)
  | constructing (buffer : String)
  | notClosedInTime (error : String)
  | pipelineRunning (buffer : String) (inboundCapacity : Nat)
  | shutdownReceived
  | pipelineClosed (delivered : Nat)
  | writeFailed (error : String)
  | notDelivered (error : String)
  | readFailed (error : String)
  | inboundRefused
  | producerFinished
  | timeoutIgnored (value : String)
  | capacityIgnored (value : String)
  | tracingReady (service : String) (jsonLogs : Bool)
  | starting (buffer : String) (shutdownTimeout : Duration)
  | finished (delivered : Nat) (interrupted : Bool)
  | finalMetrics (text : String)
  | aborted (error : String)
deriving DecidableEq, Repr

namespace Event

def level : Event → Level
  | .handedOff _ => .trace
  | .closeRequested | .loopStarted _ | .loopClosed .. | .lateAnswered .. | .stoppedBeforeStart _
  | .typeRegistered _ | .constructing _ | .inboundRefused | .producerFinished
  | .finalMetrics _ => .debug
  | .pipelineRunning .. | .shutdownReceived | .pipelineClosed _ | .tracingReady .. | .starting ..
  | .finished .. => .info
  | .alreadyAttached _ | .typeReplaced _ | .writeFailed _ | .notDelivered _ | .readFailed _
  | .timeoutIgnored _ | .capacityIgnored _ => .warn
  | .notClosedInTime _ | .aborted _ => .error

def origin : Event → String
  | .closeRequested => "pipeline_buffer::lifecycle"
  | .loopStarted _ | .handedOff _ | .loopClosed .. | .lateAnswered .. => "pipeline_buffer::forward"
  | .alreadyAttached _ | .stoppedBeforeStart _ => "pipeline_buffer::none"
  | .typeRegistered _ | .typeReplaced _ | .constructing _ => "pipeline_buffer::registry"
  | .timeoutIgnored _ | .capacityIgnored _ => "pipeline_runtime::config"
  | .tracingReady .. => "pipeline_telemetry::tracing_setup"
  | _ => "pipeline_runtime"

def message : Event → String
  | .closeRequested => "Close requested"
  | .loopStarted _ => "Forwarding loop started"
  | .handedOff _ => "Transaction handed off"
  | .loopClosed .. => "Forwarding loop closed"
  | .lateAnswered .. => "Answered late transactions"
  | .alreadyAttached _ => "Inbound source already attached"
  | .stoppedBeforeStart _ => "Stop requested before start, loop will close immediately"
  | .typeRegistered _ => "Buffer type registered"
  | .typeReplaced _ => "Buffer type already registered, replacing"
  | .constructing _ => "Constructing buffer"
  | .notClosedInTime _ => "Buffer stage did not close in time"
  | .pipelineRunning .. => "Pipeline running"
  | .shutdownReceived => "Shutdown signal received"
  | .pipelineClosed _ => "Pipeline closed"
  | .writeFailed _ => "Failed to write transaction"
  | .notDelivered _ => "Transaction not delivered"
  | .readFailed _ => "Failed to read input"
  | .inboundRefused => "Inbound closed, producer stopping"
  | .producerFinished => "Producer finished"
  | .timeoutIgnored _ => "Ignoring invalid PIPELINE_SHUTDOWN_TIMEOUT_MS"
  | .capacityIgnored _ => "Ignoring invalid PIPELINE_INBOUND_CAPACITY"
  | .tracingReady .. => "Tracing initialized"
  | .starting .. => "Starting pipeline runtime"
  | .finished .. => "Pipeline runtime finished"
  | .finalMetrics _ => "Final stage metrics"
  | .aborted _ => "Pipeline runtime aborted"

def fields : Event → List (String × FieldValue)
  | .closeRequested | .shutdownReceived | .inboundRefused | .producerFinished => []
  | .loopStarted buffer | .handedOff buffer | .alreadyAttached buffer
  | .stoppedBeforeStart buffer | .typeRegistered buffer | .typeReplaced buffer
  | .constructing buffer => [("buffer", .text buffer)]
  | .loopClosed buffer reason abandoned =>
    [("buffer", .text buffer), ("reason", .text reason.label), ("abandoned", .count abandoned)]
  | .lateAnswered buffer late => [("buffer", .text buffer), ("late", .count late)]
  | .notClosedInTime error | .writeFailed error | .notDelivered error | .readFailed error
  | .aborted error => [("error", .text error)]
  | .pipelineRunning buffer capacity =>
    [("buffer", .text buffer), ("inbound_capacity", .count capacity)]
  | .pipelineClosed delivered => [("delivered", .count delivered)]
  | .timeoutIgnored value | .capacityIgnored value => [("value", .text value)]
  | .tracingReady service jsonLogs => [("service", .text service), ("json_logs", .flag jsonLogs)]
  | .starting buffer timeout =>
    [("buffer", .text buffer), ("shutdown_timeout", .text timeout.text)]
  | .finished delivered interrupted =>
    [("delivered", .count delivered), ("interrupted", .flag interrupted)]
  | .finalMetrics text => [("metrics", .text text)]

end Event
end Handoff

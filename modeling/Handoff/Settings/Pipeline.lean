import Handoff.Event
import Handoff.Settings.Buffer
import Handoff.Text.Digits
/-!
# Settings of a pipeline

Each setting has a default that the environment may override. A value that cannot be used is
reported and leaves the default in place.
-/
namespace Handoff

structure PipelineSettings where
  buffer : BufferSettings := {}
  /-- How long a stage may take to close. -/
  shutdownTimeout : Duration := .ofMilliseconds 5000
  /-- Slots of the channel between the input and the stage. -/
  inboundCapacity : Nat := 64
deriving DecidableEq, Repr

namespace PipelineSettings

def default : PipelineSettings := {}

/-- Overrides a setting from a variable by a reading of its value. -/
def override {α : Type} (env : Environment) (name : String) (read? : String → Option α)
    (complaint : String → Event) (fallback : α) : α × List Event :=
  match env.text? name with
  | none => (fallback, [])
  | some value =>
    match read? value with
    | some x => (x, [])
    | none => (fallback, [complaint value])

def readTimeout? (value : String) : Option Duration :=
  (Text.unsigned? value.toList).map .ofMilliseconds

/-- A channel has at least one slot. -/
def readCapacity? (value : String) : Option Nat :=
  (Text.unsigned? value.toList).filter (0 < ·)

/-- The settings, and the complaints about values that were ignored. -/
def ofEnvironment (env : Environment) : PipelineSettings × List Event :=
  let (shutdownTimeout, aboutTimeout) :=
    override env "PIPELINE_SHUTDOWN_TIMEOUT_MS" readTimeout? .timeoutIgnored default.shutdownTimeout
  let (inboundCapacity, aboutCapacity) :=
    override env "PIPELINE_INBOUND_CAPACITY" readCapacity? .capacityIgnored default.inboundCapacity
  ({ buffer := .ofEnvironment env, shutdownTimeout, inboundCapacity },
    aboutTimeout ++ aboutCapacity)

end PipelineSettings
end Handoff

import Handoff.Registry
import Handoff.Stage
/-!
# Stages in a pipeline

A pipeline runs the pass-through stage, or a stage that only acts as one: it hands out messages
prepared in advance and takes no input, or refuses to start. Such stages let a pipeline be
rehearsed. A counted stage counts the calls made to it.
-/
namespace Handoff.Pipeline

/-- What a stage does. -/
inductive Conduct
  | passThrough
  /-- hands out these messages, closes its outbound channel, and confirms the close or never does -/
  | prepared (messages : List Message) (confirms : Bool)
  | refusing
deriving DecidableEq, Repr

structure Buffer where
  conduct : Conduct
  counted : Bool
deriving DecidableEq, Repr

namespace Buffer

def passThrough : Buffer := ⟨.passThrough, false⟩

/-- The registry that holds the pass-through stage alone, with the event that reports it. -/
def defaults : Registry Buffer × Event :=
  Registry.empty.register Stage.typeName ⟨fun _ => .ok passThrough, Stage.description⟩

def defaultRegistry : Registry Buffer := defaults.1

/-- A registry for rehearsals. -/
def rehearsalRegistry (messages : List Message) : Registry Buffer :=
  let add (r : Registry Buffer) (name : String)
      (build : Except ConstructionError Buffer) : Registry Buffer :=
    (r.register name ⟨fun _ => build, Stage.description⟩).1
  let r := add defaultRegistry "recording" (.ok ⟨.passThrough, true⟩)
  let r := add r "scripted" (.ok ⟨.prepared messages true, true⟩)
  let r := add r "stuck" (.ok ⟨.prepared messages false, true⟩)
  let r := add r "taken" (.ok ⟨.refusing, true⟩)
  add r "broken" (.error (.invalidConfig "always fails"))

end Buffer
end Handoff.Pipeline

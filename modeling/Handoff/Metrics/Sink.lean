import Handoff.Decimal.Shortest
import Handoff.Errors
import Handoff.Named
import Handoff.Text.Digits
/-!
# Metrics

A sink counts events by name. A local sink keeps plain counters; an exported sink keeps counters of
64 bits that wrap around, and shows them as text for a collector; a silent sink keeps nothing.
-/
namespace Handoff.Metrics

inductive Kind
  | localOnly
  | exported
  | silent
deriving DecidableEq, Repr

structure Sink where
  kind : Kind
  counters : Named Nat := {}

namespace Sink

def countOf (s : Sink) (name : String) : Nat := (s.counters.get? name).getD 0

def incr (s : Sink) (name : String) (value : Nat) : Sink :=
  match s.kind with
  | .localOnly => { s with counters := s.counters.put name (s.countOf name + value) }
  | .exported =>
    { s with counters := s.counters.put name ((s.countOf name + value) % Text.wordLimit) }
  | .silent => s

/-- The count under a name. Asking an exported sink creates the counter. -/
def get (s : Sink) (name : String) : Option Nat × Sink :=
  match s.kind with
  | .localOnly => (some (s.countOf name), s)
  | .exported => (some (s.countOf name), s.incr name 0)
  | .silent => (none, s)

/-- The name of the family of counters that an exported sink shows. -/
def family : String := "pipeline_stage_events_total"

/-- The name of the family inside a collection with a name of its own. -/
def familyIn (collection? : Option String) : String :=
  match collection? with
  | some collection => collection ++ "_" ++ family
  | none => family

/-- Backslash, line feed and quote are escaped. -/
def escapeLabel (name : String) : String :=
  String.ofList <| name.toList.flatMap fun c =>
    if c = '\\' then ['\\', '\\']
    else if c = '\n' then ['\\', 'n']
    else if c = '"' then ['\\', '"']
    else [c]

def counterLine (family name : String) (count : Nat) : String :=
  family ++ "\x7bcounter=\"" ++ escapeLabel name ++ "\"\x7d " ++
    toString (Decimal.shortest count) ++ "\n"

/-- What a collector reads: two lines about the family, then a line for every counter, by name. -/
def exposition (s : Sink) (family : String) : String :=
  match s.counters.rows.mergeSort fun a b => a.1 ≤ b.1 with
  | [] => ""
  | rows =>
    "# HELP " ++ family ++ " Pipeline stage events by counter name\n# TYPE " ++ family ++
      " counter\n" ++ String.join (rows.map fun (name, count) => counterLine family name count)

/-- A collection takes one exported sink. -/
def registerAgain : Except TelemetryError Sink :=
  .error (.metricsInit "Duplicate metrics collector registration attempted")

end Sink
end Handoff.Metrics

import Handoff.Event
import Handoff.Text.Alphanumeric
import Handoff.Text.Blank
import Handoff.Text.Digits
/-!
# Log filters

A filter is a list of directives. Each lets events of one target, or of every target, through from
some level on. The most specific directive that fits an event decides: a longer target is more
specific, targets of one length come in descending order, and the directive for every target is
the least specific. A filter has at most one directive for a target.
-/
namespace Handoff.Telemetry

/-- What a directive lets through. -/
inductive Threshold
  | off
  | atLeast (level : Level)
deriving DecidableEq, Repr

namespace Threshold

def name : Threshold → String
  | .off => "off"
  | .atLeast .error => "error"
  | .atLeast .warn => "warn"
  | .atLeast .info => "info"
  | .atLeast .debug => "debug"
  | .atLeast .trace => "trace"

def passes : Threshold → Level → Bool
  | .off, _ => false
  | .atLeast least, level => least.severity ≤ level.severity

/-- From the one that lets nothing through to the one that lets everything through. -/
def all : List Threshold :=
  [.off, .atLeast .error, .atLeast .warn, .atLeast .info, .atLeast .debug, .atLeast .trace]

/-- A threshold by its name, in any ASCII case, or by its place in the list above. -/
def ofText? (text : List Char) : Option Threshold :=
  match (Text.unsigned? text).bind (all[·]?) with
  | some t => some t
  | none => all.find? fun t => t.name.toList = text.map Char.toLower

end Threshold

/-- Why a text is no filter. -/
inductive FilterFault
  | malformed
  | unknownLevel
deriving DecidableEq, Repr

def FilterFault.message : FilterFault → String
  | .malformed => "invalid filter directive"
  | .unknownLevel =>
    "error parsing level filter: expected one of \"off\", \"error\", \"warn\", \"info\", " ++
      "\"debug\", \"trace\", or a number 0-5"

structure Directive where
  /-- Beginning of the origin of the events it is about, or nothing for all events. -/
  target : Option String
  threshold : Threshold
deriving DecidableEq, Repr

namespace Directive

/-- A directive begins, after blanks, with one of these. -/
def mayBegin (c : Char) : Bool := Text.isAlphanumeric c || c = '-' || c = ':' || c = '_'

/-- The threshold after the sign of a target. Without one everything passes. -/
def readThreshold (text : List Char) : Except FilterFault Threshold :=
  if text.isEmpty then .ok (.atLeast .trace)
  else
    match Threshold.ofText? text with
    | some t => .ok t
    | none => .error .unknownLevel

/-- A directive is a target, an equals sign and a threshold; or a threshold; or a target. Blanks in
front of a target that has a threshold are a fault of the threshold. -/
def ofText? (text : List Char) : Except FilterFault Directive :=
  match Text.trimStart text with
  | [] => .error .malformed
  | c :: _ =>
    if !mayBegin c then .error .malformed
    else if text.contains '=' then
      if text.head? ≠ some c then .error .unknownLevel
      else
        (readThreshold ((text.dropWhile (· ≠ '=')).drop 1)).map fun t =>
          ⟨some (String.ofList (text.takeWhile (· ≠ '='))), t⟩
    else
      match Threshold.ofText? text with
      | some t => .ok ⟨none, t⟩
      | none => .ok ⟨some (String.ofList text), .atLeast .trace⟩

def text (d : Directive) : String :=
  match d.target with
  | some target => target ++ "=" ++ d.threshold.name
  | none => d.threshold.name

/-- The first is looked at before the second. -/
def precedes (a b : Directive) : Bool :=
  match a.target, b.target with
  | some x, some y =>
    y.utf8ByteSize < x.utf8ByteSize || (x.utf8ByteSize = y.utf8ByteSize && y < x)
  | some _, none => true
  | none, _ => false

/-- The directive is about events of this origin. -/
def covers (d : Directive) (origin : String) : Bool :=
  match d.target with
  | some target => target.toList.isPrefixOf origin.toList
  | none => true

end Directive

/-- Directives in the order in which they are looked at. -/
structure Filter where
  directives : List Directive := []
deriving DecidableEq, Repr

namespace Filter

/-- Puts a directive in its place. It replaces the one for the same target. -/
def insert (d : Directive) : List Directive → List Directive
  | [] => [d]
  | e :: rest =>
    if e.target = d.target then d :: rest
    else if d.precedes e then d :: e :: rest
    else e :: insert d rest

def add (f : Filter) (d : Directive) : Filter := ⟨insert d f.directives⟩

/-- The items between commas, empty ones left out. -/
def items (text : String) : List (List Char) :=
  ((text.toList.splitOn ',').filter (!·.isEmpty))

/-- Reads directives from the left. The first fault decides. -/
def ofText? (text : String) : Except FilterFault Filter :=
  ((items text).mapM Directive.ofText?).map fun ds => ds.foldl add {}

def text (f : Filter) : String := ",".intercalate (f.directives.map Directive.text)

/-- Whether events of this origin and level pass. Without a directive for them they do not. -/
def allows (f : Filter) (origin : String) (level : Level) : Bool :=
  match f.directives.find? (·.covers origin) with
  | some d => d.threshold.passes level
  | none => false

end Filter
end Handoff.Telemetry

import Handoff.Errors
/-!
# Lifecycle of a stage

The run state moves forward along created, running, stopped. A stop is requested in two steps:
claiming the move to stopped, which one caller wins, and publishing the request, which the winner
does next. A stage that ends on its own settles on stopped without a request. The confirmation
that the stage has closed is given once, and whoever waits for it does so up to a limit.
-/
namespace Handoff

inductive RunState
  | created
  | running
  | stopped
deriving DecidableEq, Repr

namespace RunState

def code : RunState → Nat
  | .created => 0
  | .running => 1
  | .stopped => 2

/-- Every other number reads as stopped. -/
def ofCode : Nat → RunState
  | 0 => .created
  | 1 => .running
  | _ => .stopped

def name : RunState → String
  | .created => "Created"
  | .running => "Running"
  | .stopped => "Stopped"

@[simp] theorem ofCode_code (s : RunState) : ofCode s.code = s := by cases s <;> rfl

end RunState

structure Lifecycle where
  state : RunState := .created
  /-- A caller has won the move to stopped and has yet to publish the request. -/
  claimed : Bool := false
  /-- The close request is published. -/
  closeRequested : Bool := false
  /-- The close confirmation is given. -/
  closed : Bool := false
deriving DecidableEq, Repr

namespace Lifecycle

/-- Starts a created stage. Tells whether this call did. -/
def markRunning (l : Lifecycle) : Bool × Lifecycle :=
  match l.state with
  | .created => (true, { l with state := .running })
  | _ => (false, l)

/-- First step of a close request: the move to stopped. Tells whether this call won it. -/
def claimStop (l : Lifecycle) : Bool × Lifecycle :=
  match l.state with
  | .stopped => (false, l)
  | _ => (true, { l with state := .stopped, claimed := true })

/-- Second step of a close request, for the winner of the first. -/
def publish (l : Lifecycle) : Lifecycle := { l with claimed := false, closeRequested := true }

/-- Both steps of a close request. Tells whether this call won. -/
def requestClose (l : Lifecycle) : Bool × Lifecycle :=
  match l.claimStop with
  | (true, l) => (true, l.publish)
  | (false, l) => (false, l)

/-- The stage ends: the run state is stopped whatever it was. -/
def settle (l : Lifecycle) : Lifecycle := { l with state := .stopped }

/-- Confirms the close. Tells whether this call was the first. -/
def confirm (l : Lifecycle) : Bool × Lifecycle := (!l.closed, { l with closed := true })

/-- What a wait for the confirmation comes to, if it is over. The confirmation counts even where the
limit is reached, too. -/
def await (l : Lifecycle) (limit : Duration) (due : Bool) : Option (Except StageError Unit) :=
  if l.closed then some (.ok ()) else if due then some (.error (.timedOut limit)) else none

end Lifecycle
end Handoff

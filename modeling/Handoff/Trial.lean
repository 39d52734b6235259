import Handoff.Stage
/-!
# Trials of the pass-through stage

In a trial one producer sends numbered transactions through a channel to a stage, one consumer
acknowledges what it takes, several callers wait for the close, and after so many transactions
several callers stop the stage. The findings are what must hold whatever the order of events; a
trial plays one order.
-/
namespace Handoff

structure Trial.Plan where
  capacity : Nat
  count : Nat
  waiters : Nat
  stoppers : Nat
  /-- Transactions taken before the stage is stopped. -/
  stopAfter : Option Nat
deriving DecidableEq, Repr

/-- The payload of the transaction with this number: eight bytes, the most significant first. -/
def Trial.payload (n : Nat) : Message :=
  .ofBytes ((List.range 8).map fun i => UInt8.ofNat (n / Nat.pow 256 (7 - i)))

structure Trial where
  plan : Trial.Plan
  stage : Stage
  /-- Number of the next transaction. -/
  next : Nat := 0
  /-- The producer waits for a slot. -/
  stalled : Option Transaction := none
  /-- The producer has its sender. -/
  sending : Bool := true
  /-- Serial numbers of accepted transactions. -/
  accepted : List Nat := []
  /-- Payloads taken by the consumer, latest first. -/
  received : List Message := []

structure Trial.Findings where
  state : RunState
  /-- The stage has confirmed that it is closed. -/
  closed : Bool
  waitsKept : Nat
  inOrder : Bool
  acknowledgedMatch : Bool
  forwardedMatch : Bool
  abandonedMatch : Bool
  /-- Accepted transactions answered in any other way. -/
  lost : Nat
  ended : Bool
  received : Nat
deriving DecidableEq, Repr

namespace Trial

def inbound? (t : Trial) : Option (Channel Transaction) := t.stage.loop.map (·.inbound)

def setInbound (t : Trial) (c : Channel Transaction) : Trial :=
  { t with stage := { t.stage with loop := t.stage.loop.map fun l => { l with inbound := c } } }

/-- Several callers stop the stage if it is time. -/
def stopIfDue (t : Trial) : Trial :=
  if t.plan.stopAfter = some t.received.length then
    { t with stage := (List.range t.plan.stoppers).foldl (fun s _ => s.requestClose) t.stage }
  else t

/-- A trial in which nothing has moved yet. -/
def start (plan : Plan) : Trial :=
  let stage := (Stage.create.start { capacity := plan.capacity }).2
  stopIfDue { plan, stage }

def loopMove? (t : Trial) : Option Trial := t.stage.advance.map fun stage => { t with stage }

def leave (t : Trial) (c : Channel Transaction) : Trial :=
  { t.setInbound c.leave with sending := false, stalled := none }

def sendMove? (t : Trial) : Option Trial := do
  guard t.sending
  let c ← t.inbound?
  match t.stalled with
  | some x =>
    match c.deliver? with
    | some (_, c) =>
      return { t.setInbound c with stalled := none, accepted := x.serial :: t.accepted }
    | none => if c.awaits (·.serial = x.serial) then none else return t.leave c
  | none =>
    if t.plan.count ≤ t.next then return t.leave c
    else
      let (x, hub) := t.stage.hub.issue (payload t.next)
      let t := { t with stage := { t.stage with hub }, next := t.next + 1 }
      match c.send x with
      | (.accepted, c) => return { t.setInbound c with accepted := x.serial :: t.accepted }
      | (.waits, c) => return { t.setInbound c with stalled := some x }
      | (_, c) => return t.leave c

def receiveMove? (t : Trial) : Option Trial :=
  match t.stage.hub.outlet.read with
  | (.message x, outlet) =>
    let hub := { t.stage.hub with outlet }.answer x .delivered
    some (stopIfDue
      { t with stage := { t.stage with hub }, received := x.payload :: t.received })
  | _ => none

def move? (t : Trial) : Option Trial := t.loopMove? <|> t.sendMove? <|> t.receiveMove?

def playWithin : Nat → Trial → Trial
  | 0, t => t
  | n + 1, t =>
    match t.move? with
    | some next => playWithin n next
    | none => t

/-- Each transaction is sent, forwarded, taken and answered in a bounded number of moves. -/
def play (plan : Plan) : Trial := playWithin (64 + 16 * plan.count) (start plan)

def findings (t : Trial) : Findings :=
  let hub := t.stage.hub
  let answers := t.accepted.map fun serial => (hub.replies.get serial).outcome
  let delivered := answers.count (some .delivered)
  let abandoned := answers.count (some .stageClosed)
  let received := t.received.length
  { state := hub.lifecycle.state
    closed := hub.lifecycle.closed
    waitsKept := if hub.lifecycle.closed then t.plan.waiters else 0
    inOrder := t.received.reverse = (List.range received).map payload
    acknowledgedMatch := delivered = received
    forwardedMatch := hub.forwarded = received
    abandonedMatch := hub.abandoned = abandoned
    lost := answers.length - delivered - abandoned
    ended := hub.outlet.channel.ended
    received }

end Trial
end Handoff

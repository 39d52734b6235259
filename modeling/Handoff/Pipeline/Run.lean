import Handoff.Pipeline.Buffer
import Handoff.Pipeline.Feed
import Handoff.Pipeline.Writer
import Handoff.Settings.Pipeline
/-!
# A run of a pipeline

A run drives one stage from its construction to its confirmed close. A producer reads lines and
sends each as a transaction of one part; a watcher per accepted transaction waits for its answer. A
consumer takes transactions from the stage, writes them and answers them. It stops when the stage
has closed its outbound channel: then it makes the output final, asks for the producer to be
cancelled, stops the stage and waits for it to confirm the close. Before that a shutdown signal
makes it stop the stage once.

To send is to take a slot of the inbound channel and then to put the transaction into it. The loop
may close inbound in between, drain it and confirm the close. What comes after that is still
answered.

A run makes moves, each by one party. A move that its party cannot make now is no move. Any order
of moves is a schedule.
-/
namespace Handoff.Pipeline

/-- What a finished run reports. -/
structure Summary where
  /-- Transactions written and answered as delivered. -/
  delivered : Nat := 0
  /-- The shutdown signal came before the end. -/
  interrupted : Bool := false
deriving DecidableEq, Repr

/-- Why no channel can have a number of slots. -/
inductive CapacityFault
  | none
  | tooMany
deriving DecidableEq, Repr

/-- The most slots a channel can have. -/
def maxSlots : Nat := 2305843009213693951

def CapacityFault.message : CapacityFault → String
  | .none => "mpsc bounded channel requires buffer > 0"
  | .tooMany =>
    "a semaphore may not have more than MAX_PERMITS permits (" ++ toString maxSlots ++ ")"

def capacityFault? (slots : Nat) : Option CapacityFault :=
  if slots = 0 then some .none else if maxSlots < slots then some .tooMany else none

/-- Why a run failed. -/
inductive Failure
  | construction (e : ConstructionError)
  /-- A mistake of the caller, which ends the process. -/
  | capacity (fault : CapacityFault)
  | attachment (e : StageError)
  | flush (text : String)
  | shutdown (e : StageError)
deriving DecidableEq, Repr

namespace Failure

/-- What the run was doing. -/
def context : Failure → String
  | .construction _ => "Failed to construct buffer stage"
  | .capacity _ => "Failed to open the inbound channel"
  | .attachment _ => "Failed to attach inbound source"
  | .flush _ => "Failed to flush output"
  | .shutdown _ => shutdownContext

def cause : Failure → String
  | .construction e => e.message
  | .capacity fault => fault.message
  | .attachment e => e.message
  | .flush text => text
  | .shutdown e => e.message

end Failure

/-- Where the producer is. -/
inductive Producer
  /-- waiting for a line -/
  | reading
  /-- about to send -/
  | offering (t : Transaction)
  /-- in line for a slot -/
  | waiting (t : Transaction)
  /-- has a slot, and has not put the transaction into it yet -/
  | sending (t : Transaction)
  | done
deriving DecidableEq, Repr

/-- Where the consumer is. -/
inductive Consumer
  /-- waiting for a transaction or the shutdown signal -/
  | selecting
  /-- about to write and answer -/
  | writing (t : Transaction)
  /-- the outbound channel has ended -/
  | flushing
  /-- the output is final, the producer is to be cancelled -/
  | cancelling
  /-- about to stop the stage -/
  | stopping
  /-- waiting for the close confirmation -/
  | waiting
  | returned (result : Except Failure Summary)
deriving Repr

/-- Calls made to a counted stage. -/
structure Calls where
  starts : Nat := 0
  stops : Nat := 0
  waits : Nat := 0
deriving DecidableEq, Repr

structure Run where
  /-- Name of the chosen buffer type, for the log. -/
  typeName : String
  buffer : Buffer
  shutdownTimeout : Duration
  hub : Hub
  /-- The loop of the stage, which holds the inbound channel. A stage that takes no input has none
  to run, and its loop is finished. -/
  loop : Loop
  feed : Feed
  writer : Writer
  producer : Producer := .reading
  consumer : Consumer := .selecting
  /-- Accepted transactions whose answer is still to be learned by their watcher. -/
  watched : List Nat := []
  /-- The shutdown signal has come. -/
  signalled : Bool := false
  /-- The producer is asked to go away. -/
  cancelRequested : Bool := false
  summary : Summary := {}
  calls : Calls := {}

/-- One move of a run. -/
inductive Move
  /-- the next piece of input, or its end, arrives -/
  | arrive
  /-- the shutdown signal comes -/
  | signal
  | produce
  /-- a producer that is asked to go away does so -/
  | cancel
  | loop (b : Branch)
  /-- the consumer looks at what it waits for, or at the shutdown signal, or goes on -/
  | consume (b : Branch)
  /-- the time of the wait for the close confirmation is over -/
  | expire
  /-- a watcher looks for the answer -/
  | watch (serial : Nat)
deriving DecidableEq, Repr

namespace Run

def note (r : Run) (e : Event) : Run := { r with hub := r.hub.note e }

def inbound (r : Run) : Channel Transaction := r.loop.inbound

def setInbound (r : Run) (c : Channel Transaction) : Run :=
  { r with loop := { r.loop with inbound := c } }

/-- The producer ends, and its sender goes away. -/
def endProducer (r : Run) : Run :=
  let c := r.inbound.leave
  { r.setInbound c.sweep with
    producer := .done
    hub := r.hub.release c.orphans }

def finishProducer (r : Run) : Run := (r.note .producerFinished).endProducer

/-- The transaction goes into the slot taken for it, also when inbound was closed in between: its
watcher begins, and the producer goes on reading. -/
def push (r : Run) (t : Transaction) : Run :=
  { r.setInbound (r.inbound.spend t) with
    producer := .reading
    watched := r.watched ++ [t.serial] }

/-- The transaction was turned away. -/
def turnedAway (r : Run) (t : Transaction) : Run :=
  ({ r with hub := (r.hub.release [t]).note .inboundRefused }).finishProducer

def produce (r : Run) : Option Run :=
  match r.producer with
  | .reading =>
    match r.feed.next with
    | .line text feed =>
      let (t, hub) := r.hub.issue (.ofBytes text)
      some { r with feed, hub, producer := .offering t }
    | .finished => some r.finishProducer
    | .failed text => some (r.note (.readFailed text)).finishProducer
    | .nothing => none
  | .offering t =>
    match r.inbound.request t with
    | (.accepted, c) => some { r.setInbound c with producer := .sending t }
    | (.waits, c) => some { r.setInbound c with producer := .waiting t }
    | _ => some (r.turnedAway t)
  | .waiting t =>
    match r.inbound.claim? with
    | some (_, c) => some { r.setInbound c with producer := .sending t }
    | none => if r.inbound.awaits (· = t) then none else some (r.turnedAway t)
  | .sending t => some (r.push t)
  | .done => none

/-- The producer goes away where it is. What it was about to send is let go, but from the slot to
the push it cannot be interrupted. -/
def cancel (r : Run) : Option Run :=
  if !r.cancelRequested then none
  else
    match r.producer with
    | .done => none
    | .reading => some r.endProducer
    | .offering t => some { r with hub := r.hub.release [t] }.endProducer
    | .waiting t =>
      some { r.setInbound (r.inbound.withdraw (· = t)) with hub := r.hub.release [t] }.endProducer
    | .sending t => some (r.push t).endProducer

/-- Counts a call made to the stage. -/
def count (r : Run) (f : Calls → Calls) : Run :=
  if r.buffer.counted then { r with calls := f r.calls } else r

/-- Stops the stage. -/
def stop (r : Run) : Run :=
  let r := r.count fun c => { c with stops := c.stops + 1 }
  match r.buffer.conduct with
  | .passThrough => { r with hub := r.hub.requestClose.2 }
  | _ => r

/-- The stage goes away. -/
def leaveStage (r : Run) : Run :=
  let hub :=
    match r.buffer.conduct with
    | .passThrough => r.hub.requestClose.2
    | _ => r.hub
  { r with hub := hub.dropOutboundHandle }

/-- The run returns: its reader goes away, then the stage. -/
def finish (r : Run) (result : Except Failure Summary) : Run :=
  { { r with hub := r.hub.dropOutboundHandle }.leaveStage with consumer := .returned result }

/-- Whether the stage confirms that it has closed. -/
def isClosed (r : Run) : Bool :=
  match r.buffer.conduct with
  | .passThrough => r.hub.lifecycle.closed
  | .prepared _ confirms => confirms
  | .refusing => false

/-- The consumer looks at what it waits for, or goes on. -/
def consume (r : Run) : Option Run :=
  match r.consumer with
  | .selecting =>
    match r.hub.outlet.read with
    | (.message t, outlet) =>
      some { r with hub := { r.hub with outlet }, consumer := .writing t }
    | (.ended, _) => some { r with consumer := .flushing }
    | (.nothing, _) => none
  | .writing t =>
    match r.writer.writeMessage t.payload with
    | (.ok _, writer) =>
      some { r with
        writer
        hub := r.hub.answer t .delivered
        summary := { r.summary with delivered := r.summary.delivered + 1 }
        consumer := .selecting }
    | (.error text, writer) =>
      some { r with
        writer
        hub := (r.hub.note (.writeFailed text)).answer t (.rejected text)
        consumer := .selecting }
  | .flushing =>
    match r.writer.flush with
    | .ok _ => some { r with consumer := .cancelling }
    | .error text => some (r.finish (.error (.flush text)))
  | .cancelling => some { r with cancelRequested := true, consumer := .stopping }
  | .stopping =>
    some { r.stop.count fun c => { c with waits := c.waits + 1 } with consumer := .waiting }
  | .waiting =>
    if r.isClosed then some ((r.note (.pipelineClosed r.summary.delivered)).finish (.ok r.summary))
    else none
  | .returned _ => none

/-- The consumer looks at the shutdown signal, which it does until it has seen it once. -/
def interrupt (r : Run) : Option Run :=
  match r.consumer with
  | .selecting =>
    if r.signalled && !r.summary.interrupted then
      some ({ r.note .shutdownReceived with
        summary := { r.summary with interrupted := true } }).stop
    else none
  | _ => none

/-- The wait for the close confirmation is over without one. -/
def expire (r : Run) : Option Run :=
  match r.consumer with
  | .waiting =>
    if r.isClosed then none
    else
      let e := StageError.timedOut r.shutdownTimeout
      some ((r.note (.notClosedInTime e.message)).finish (.error (.shutdown e)))
  | _ => none

/-- A watcher learns the answer of its transaction and reports a failure. -/
def watch (r : Run) (serial : Nat) : Option Run :=
  if r.watched.contains serial then
    match (r.hub.replies.get serial).outcome with
    | none => none
    | some o =>
      let r := { r with watched := r.watched.filter (· ≠ serial) }
      match o.problem? with
      | none => some r
      | some text => some (r.note (.notDelivered text))
  else none

/-- One move, if its party can make it. -/
def step (m : Move) (r : Run) : Option Run :=
  match m with
  | .arrive => if r.feed.ended then none else some { r with feed := r.feed.arrive }
  | .signal => if r.signalled then none else some { r with signalled := true }
  | .produce => r.produce
  | .cancel => r.cancel
  | .loop b => (r.loop.step b r.hub).map fun (loop, hub) => { r with loop, hub }
  | .consume .channel => r.consume
  | .consume .close => r.interrupt
  | .expire => r.expire
  | .watch serial => r.watch serial

/-- A run that has ended before it began. -/
def failed (r : Run) (e : Failure) : Run :=
  { r with producer := .done, consumer := .returned (.error e) }

/-- The transactions for messages prepared in advance, in a channel that no one can send to. -/
def prepare (hub : Hub) (messages : List Message) : Hub :=
  let (hub, ts) := messages.foldl (fun (hub, ts) m =>
    let (t, hub) := hub.issue m
    (hub, ts ++ [t])) (hub, ([] : List Transaction))
  hub.setOutbound
    { capacity := max 1 messages.length, queue := ts, senders := 0 }

/-- Connects the stage to an inbound channel with so many slots. -/
def attach (r : Run) (slots : Nat) : Run :=
  let inbound : Channel Transaction := { capacity := slots }
  let r := r.count fun c => { c with starts := c.starts + 1 }
  match r.buffer.conduct with
  | .refusing => r.leaveStage.failed (.attachment .alreadyStarted)
  | .prepared messages _ =>
    let (_, _, inbound) := inbound.detach
    { r with
      hub := prepare r.hub messages
      loop := { label := r.typeName, inbound, position := .finished } }
  | .passThrough =>
    match ({ hub := r.hub : Stage }).start inbound with
    | (.ok _, stage) =>
      match stage.loop with
      | some loop => { r with hub := stage.hub, loop }
      | none => r
    | (.error (e, _), _) => r.failed (.attachment e)

/-- A run from its construction on: the stage is constructed, the inbound channel opened and
attached, and the reader of the outbound channel made. -/
def start (settings : PipelineSettings) (registry : Registry Buffer) (feed : Feed)
    (writer : Writer) : Run :=
  let (built, events) := registry.construct settings.buffer
  let blank (buffer : Buffer) : Run :=
    { typeName := settings.buffer.typeName
      buffer
      shutdownTimeout := settings.shutdownTimeout
      hub := events.foldl Hub.note { outlet := { channel := { capacity := 1 } } }
      loop := { label := Stage.typeName, inbound := { capacity := 0 }, position := .finished }
      feed
      writer }
  match built with
  | .error e => (blank .passThrough).failed (.construction e)
  | .ok buffer =>
    match capacityFault? settings.inboundCapacity with
    | some fault => (blank buffer).leaveStage.failed (.capacity fault)
    | none =>
      let r := (blank buffer).attach settings.inboundCapacity
      match r.consumer with
      | .returned _ => r
      | _ =>
        let r := r.note (.pipelineRunning r.typeName settings.inboundCapacity)
        { r with hub := { r.hub with outlet := r.hub.outlet.addHandle } }

/-- What the run has come to, once it has returned. -/
def result? (r : Run) : Option (Except Failure Summary) :=
  match r.consumer with
  | .returned result => some result
  | _ => none

end Run
end Handoff.Pipeline

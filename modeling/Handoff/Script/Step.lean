import Handoff.Errors
import Handoff.Lifecycle
import Handoff.Event
import Handoff.Reply
/-!
# Steps of a script

A script drives transactions, channels, a lifecycle, a forwarding loop or a stage from outside, one
call at a time. A step names the call and the objects it is made on; a result says what it gave.
-/
namespace Handoff.Script

/-- What a script is about, which decides the objects it starts with. -/
inductive Subject
  | transactions
  | receivers
  | lifecycle
  | loop
  | stage
deriving DecidableEq, Repr

inductive Step
  -- channels
  | source (name : String) (capacity : Nat)
  | dropSource (name : String)
  | send (source id : String) (payload : Message)
  | trySend (source id : String) (payload : Message)
  | reserve (source permit : String)
  | permitSend (permit id : String) (payload : Message)
  | permitDrop (permit : String)
  -- readers; without a handle the stage's own outbound side is meant
  | wrap (source handle : String)
  | chan (handle : String)
  | cloneHandle (handle : Option String) (copy : String)
  | dropHandle (handle : String)
  | recv (handle : Option String) (name : String)
  | tryRecv (handle : Option String) (name : String)
  | cancel (key : String)
  -- transactions
  | new (id : String) (payload : Message)
  | payload (id : String)
  | intoPayload (id : String)
  | respond (id : String) (outcome : Outcome)
  | dropTransaction (id : String)
  | abandoned (id : String)
  | dropReply (id : String)
  | tryOutcome (id : String)
  | outcome (id : String)
  -- lifecycles
  | markRunning
  | requestClose
  | settleStopped
  | confirmClosed
  | wait (limit : Duration)
  | waitInBackground (name : String) (limit : Duration)
  | signal (name : String) (origin : Option String)
  | isRequested (signal : String)
  | requested (signal name : String)
  | dropLifecycle
  | advance (milliseconds : Nat)
  -- the loop
  | build (source : String) (outboundCapacity : Nat) (handle : String)
  | spawn
  | dropLoop
  -- the stage
  | start (source : String)
  | stop
  | errorsChan
  | dropStage
  | closeStage (limit : Duration)
  -- calls made back to back, with nothing in between
  | batch (steps : List Step)
  -- a call that could not be read
  | unreadable

/-- What a call gave. -/
inductive Result
  | nothing
  | flag (b : Bool)
  | done
  | sent
  | full
  | closed
  | reserved
  | pending
  | parts (m : Message)
  | payload (m : Message)
  | ended
  | empty
  | receiveFailed (e : ReceiveError)
  | outcome (o : Outcome)
  | noOutcome
  | alreadyTaken
  | requested
  | stageFailed (e : StageError)
  /-- the stage did not shut down in time -/
  | shutdownFailed (e : StageError)
  | refused
  /-- the result of a background call, once it is known -/
  | background (key : String)
  | many (rs : List Result)

/-- All that can be seen after a step. Parts that do not apply are absent. -/
structure Answer where
  result : Result
  /-- Background calls that finished and had been made earlier. -/
  done : List (String × Result)
  /-- Transactions whose senders learned their outcome. -/
  outcomes : Option (List (String × Outcome)) := none
  /-- Free slots of the sources still held. -/
  capacities : Option (List (String × Nat)) := none
  state : Option RunState := none
  attached : Option Bool := none
  closeRequested : Option Bool := none
  closed : Option Bool := none
  taskFinished : Option Bool := none
  /-- Counters: forwarded and abandoned. -/
  counters : Option (Nat × Nat) := none
  log : List Event := []

end Handoff.Script

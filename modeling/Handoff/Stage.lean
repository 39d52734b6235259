import Handoff.Errors
import Handoff.Forwarding
/-!
# The pass-through stage

A stage owns one outbound slot and, until it is started, the only sender for it. Starting it takes
four steps under the lock of the attachment: the loop gets a sender of its own, the lifecycle is
marked running, the loop is spawned, and the attachment is replaced, which drops the stage's sender.
A stage is started at most once. A stop requested before the start makes the loop close at once.
-/
namespace Handoff

/-- How far the inbound side of a stage has come. The stage's own outbound sender exists until the
attachment is `attached`. -/
inductive Attachment
  | detached
  /-- the loop's sender is made -/
  | cloned (inbound : Channel Transaction)
  /-- the lifecycle is marked -/
  | marked (inbound : Channel Transaction)
  /-- the loop is spawned -/
  | spawned
  | attached
deriving Repr

structure Stage where
  hub : Hub
  attachment : Attachment := .detached
  loop : Option Loop := none
deriving Repr

namespace Stage

/-- Name of this buffer type. -/
def typeName : String := "none"

def description : String :=
  "No buffer (default). The lowest latency option: transactions pass straight through without " ++
  "extra work, and back pressure from the output is applied directly down the pipeline."

/-- An unstarted stage with a single outbound slot. -/
def create : Stage := { hub := { outlet := { channel := { capacity := 1 } } } }

def isAttached (s : Stage) : Bool :=
  match s.attachment with
  | .attached => true
  | _ => false

/-- First step of a start: the loop gets a sender of its own. -/
def cloneSender (s : Stage) (inbound : Channel Transaction) : Stage :=
  let c := s.hub.outlet.channel
  { s with
    hub := s.hub.setOutbound { c with senders := c.senders + 1 }
    attachment := .cloned inbound }

/-- Second step of a start. -/
def markRunning (s : Stage) (inbound : Channel Transaction) : Stage :=
  match s.hub.lifecycle.markRunning with
  | (true, l) => { s with hub := { s.hub with lifecycle := l }, attachment := .marked inbound }
  | (false, _) =>
    { s with hub := s.hub.note (.stoppedBeforeStart typeName), attachment := .marked inbound }

/-- Third step of a start. -/
def spawnLoop (s : Stage) (inbound : Channel Transaction) : Stage :=
  { s with attachment := .spawned, loop := some { label := typeName, inbound } }

/-- Last step of a start: the stage's own sender goes away. -/
def attach (s : Stage) : Stage :=
  { s with hub := s.hub.dropOutboundSender, attachment := .attached }

/-- All steps of a start that nothing comes between. A stage that is already started refuses, and
the receiver it was offered goes away with what is queued there. -/
def start (s : Stage) (inbound : Channel Transaction) :
    Except (StageError × Channel Transaction) Unit × Stage :=
  match s.attachment with
  | .detached =>
    (.ok (), ((((s.cloneSender inbound).markRunning inbound).spawnLoop inbound).attach))
  | _ =>
    let (refused, unread, c) := inbound.detach
    let hub := (s.hub.note (.alreadyAttached typeName)).release (refused ++ unread)
    (.error (.alreadyStarted, c), { s with hub })

def requestClose (s : Stage) : Stage := { s with hub := s.hub.requestClose.2 }

/-- One step of the spawned loop, if it can move. -/
def advance (s : Stage) : Option Stage :=
  match s.loop with
  | none => none
  | some l => (l.advance s.hub).map fun (l, hub) => { s with hub, loop := some l }

/-- The stage goes away: a close request, then its own outbound sender if it was never started,
then its outbound handle. -/
def drop (s : Stage) : Stage :=
  let s := s.requestClose
  let hub :=
    match s.attachment with
    | .attached => s.hub
    | _ => s.hub.dropOutboundSender
  { s with hub := hub.dropOutboundHandle }

end Stage
end Handoff

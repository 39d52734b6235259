import Handoff.Event
import Handoff.Lifecycle
import Handoff.Outlet
import Handoff.Reply
/-!
# What a stage and its loop share

The hub holds the outbound side, the lifecycle, the ledger of replies, the two counters of the
stage and the log. A stage, its forwarding loop, its readers and its callers all act on one hub.
-/
namespace Handoff

/-- Name under which transactions placed in the outbound channel are counted. -/
def forwardedCounter : String := "buffer_transactions_forwarded"

/-- Name under which transactions answered by the loop are counted. -/
def abandonedCounter : String := "buffer_transactions_abandoned"

structure Hub where
  outlet : Outlet
  lifecycle : Lifecycle := {}
  replies : Replies := {}
  /-- Transactions counted as placed in the outbound channel. -/
  forwarded : Nat := 0
  /-- Transactions counted as answered by the loop. -/
  abandoned : Nat := 0
  /-- Events, latest first. -/
  log : List Event := []
deriving Repr

namespace Hub

def note (h : Hub) (e : Event) : Hub := { h with log := e :: h.log }

def answer (h : Hub) (t : Transaction) (o : Outcome) : Hub :=
  { h with replies := h.replies.answer t.serial o }

def release (h : Hub) (ts : List Transaction) : Hub :=
  { h with replies := h.replies.releaseAll ts }

/-- Opens the slot of one more transaction with this payload. -/
def issue (h : Hub) (payload : Message) : Transaction × Hub :=
  (⟨h.replies.next, payload⟩, { h with replies := h.replies.issue })

def setOutbound (h : Hub) (c : Channel Transaction) : Hub :=
  { h with outlet := { h.outlet with channel := c } }

/-- A close request, claim and publication at once. Tells whether this call won. -/
def requestClose (h : Hub) : Bool × Hub :=
  match h.lifecycle.requestClose with
  | (true, l) => (true, { h with lifecycle := l }.note .closeRequested)
  | (false, l) => (false, { h with lifecycle := l })

/-- A sender of the outbound channel goes away. Items that nobody can read any more are let go. -/
def dropOutboundSender (h : Hub) : Hub :=
  let c := h.outlet.channel.leave
  (h.setOutbound c.sweep).release c.orphans

/-- A handle of the outbound side goes away, and with the last one all that is still unread. -/
def dropOutboundHandle (h : Hub) : Hub :=
  let (refused, unread, o) := h.outlet.dropHandle
  { h with outlet := o }.release (refused ++ unread)

end Hub
end Handoff

import Handoff.Hub
/-!
# The forwarding loop

The loop moves transactions from its inbound channel to the outbound channel of the hub, one at a
time. It puts a transaction into an outbound slot and reads inbound again only when a slot is free,
which with a single slot means that a reader has taken the transaction. Wherever it waits, it
also waits for the close request.

When it stops forwarding it closes inbound, answers what is queued there, settles the run state,
gives up its outbound sender and confirms the close, in this order. Then it answers what permits
still deliver until no one is left who could send.

Each step below is one move that other parties can see on its own. Where the loop waits for two
things at once, the caller chooses which of the two it looks at.
-/
namespace Handoff

/-- Which of two awaited things a waiting loop looks at. -/
inductive Branch
  /-- the channel it waits for -/
  | channel
  /-- the close request -/
  | close
deriving DecidableEq, Repr

/-- Where a loop is. -/
inductive Position
  /-- wired and not yet run -/
  | wired
  /-- about to look at the close request -/
  | checking
  /-- waiting for the next inbound transaction -/
  | receiving
  /-- holding a transaction, waiting for an outbound slot -/
  | holding (t : Transaction)
  /-- holding a transaction and a slot for it -/
  | placing (t : Transaction)
  /-- the transaction is placed and not yet counted -/
  | counting
  /-- waiting for a free outbound slot before it reads inbound again -/
  | awaitingTake
  /-- about to answer the transaction it gives up on -/
  | abandoning (t : Transaction) (exit : Exit)
  /-- that answer is given and not yet counted -/
  | countingAbandoned (exit : Exit)
  /-- about to close inbound -/
  | closingInbound (exit : Exit)
  /-- answering what is queued inbound, so many answered so far -/
  | draining (exit : Exit) (answered : Nat)
  /-- about to count the answers of the drain -/
  | countingDrained (exit : Exit) (answered : Nat)
  /-- about to settle the run state -/
  | settling (exit : Exit) (answered : Nat)
  /-- about to give up the outbound sender -/
  | releasing (exit : Exit) (answered : Nat)
  /-- about to confirm the close -/
  | confirming (exit : Exit) (answered : Nat)
  /-- the close is confirmed and not yet reported -/
  | reporting (exit : Exit) (answered : Nat)
  /-- waiting for late transactions, so many answered so far -/
  | late (answered : Nat)
  /-- a late transaction is to be counted -/
  | countingLate (t : Transaction) (answered : Nat)
  /-- a late transaction is counted and to be answered -/
  | answeringLate (t : Transaction) (answered : Nat)
  | finished
deriving DecidableEq, Repr

structure Loop where
  /-- Name of the buffer type, for the log. -/
  label : String
  inbound : Channel Transaction
  position : Position := .wired
deriving Repr

namespace Loop

def goto (l : Loop) (p : Position) : Loop := { l with position := p }

/-- The branch of the close request, from a place where the loop waits. -/
def onClose (l : Loop) (h : Hub) (p : Position) : Option (Loop × Hub) :=
  if h.lifecycle.closeRequested then some (l.goto p, h) else none

/-- One step, or nothing where the chosen branch is not ready. -/
def step (b : Branch) (l : Loop) (h : Hub) : Option (Loop × Hub) :=
  match l.position with
  | .wired => some (l.goto .checking, h.note (.loopStarted l.label))
  | .checking =>
    if h.lifecycle.closeRequested then some (l.goto (.closingInbound .closeRequested), h)
    else some (l.goto .receiving, h)
  | .receiving =>
    match b with
    | .close => l.onClose h (.closingInbound .closeRequested)
    | .channel =>
      match l.inbound.take? with
      | some (t, c) => some ({ l with inbound := c, position := .holding t }, h)
      | none =>
        if l.inbound.ended then some (l.goto (.closingInbound .inboundClosed), h) else none
  | .holding t =>
    match b with
    | .close => l.onClose h (.abandoning t .closeRequested)
    | .channel =>
      match h.outlet.channel.reserve with
      | (.accepted, c) => some (l.goto (.placing t), h.setOutbound c)
      | (.closed, _) => some (l.goto (.abandoning t .outboundGone), h)
      | _ => none
  | .placing t => some (l.goto .counting, h.setOutbound (h.outlet.channel.spend t))
  | .counting =>
    some (l.goto .awaitingTake,
      { h with forwarded := h.forwarded + 1 }.note (.handedOff l.label))
  | .awaitingTake =>
    match b with
    | .close => l.onClose h (.closingInbound .closeRequested)
    | .channel =>
      match h.outlet.channel.reserve with
      | (.accepted, _) => some (l.goto .checking, h)
      | (.closed, _) => some (l.goto (.closingInbound .outboundGone), h)
      | _ => none
  | .abandoning t exit => some (l.goto (.countingAbandoned exit), h.answer t .stageClosed)
  | .countingAbandoned exit =>
    some (l.goto (.closingInbound exit), { h with abandoned := h.abandoned + 1 })
  | .closingInbound exit =>
    let (refused, c) := l.inbound.close
    some ({ l with inbound := c, position := .draining exit 0 }, h.release refused)
  | .draining exit n =>
    match l.inbound.take? with
    | some (t, c) =>
      some ({ l with inbound := c, position := .draining exit (n + 1) }, h.answer t .stageClosed)
    | none => some (l.goto (.countingDrained exit n), h)
  | .countingDrained exit n =>
    some (l.goto (.settling exit n), { h with abandoned := h.abandoned + n })
  | .settling exit n =>
    some (l.goto (.releasing exit n), { h with lifecycle := h.lifecycle.settle })
  | .releasing exit n => some (l.goto (.confirming exit n), h.dropOutboundSender)
  | .confirming exit n =>
    some (l.goto (.reporting exit n), { h with lifecycle := h.lifecycle.confirm.2 })
  | .reporting exit n => some (l.goto (.late 0), h.note (.loopClosed l.label exit n))
  | .late n =>
    match l.inbound.take? with
    | some (t, c) => some ({ l with inbound := c, position := .countingLate t n }, h)
    | none =>
      if l.inbound.ended then
        let (refused, unread, c) := l.inbound.detach
        let h := if 0 < n then h.note (.lateAnswered l.label n) else h
        some ({ l with inbound := c, position := .finished }, h.release (refused ++ unread))
      else none
  | .countingLate t n =>
    some (l.goto (.answeringLate t n), { h with abandoned := h.abandoned + 1 })
  | .answeringLate t n => some (l.goto (.late (n + 1)), h.answer t .stageClosed)
  | .finished => none

/-- The step of a loop that looks at its channel first and at the close request second. -/
def advance (l : Loop) (h : Hub) : Option (Loop × Hub) :=
  match l.step .channel h with
  | some next => some next
  | none => l.step .close h

/-- A loop that never ran goes away: its inbound receiver and its outbound sender go with it. -/
def discard (l : Loop) (h : Hub) : Loop × Hub :=
  let (refused, unread, c) := l.inbound.detach
  ({ l with inbound := c, position := .finished },
    (h.release (refused ++ unread)).dropOutboundSender)

end Loop
end Handoff

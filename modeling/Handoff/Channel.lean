/-!
# Bounded channels

A channel has a fixed number of slots. A slot is taken by an item in the queue, by a permit set
aside for later use, or by a waiting sender it has been promised to. Senders that find no slot
wait in order of arrival, and a slot that becomes free goes to the one that has waited longest.

The receiving side may stop accepting: then waiting senders are turned away and later ones too,
but permits keep their slot and still deliver. The receiving side may also be gone altogether;
what a permit still delivers then stays in the queue unread until the last sender has left.
-/
namespace Handoff

structure Channel (α : Type) where
  capacity : Nat
  /-- Accepted and not yet taken, oldest first. -/
  queue : List α := []
  /-- Waiting senders that own a slot and have not used it yet, in the order they got it. -/
  promised : List α := []
  /-- Waiting senders without a slot, in order of arrival. -/
  waiting : List α := []
  /-- Slots set aside by permits. -/
  permits : Nat := 0
  /-- Sending handles. Waiting senders and permits count on their own. -/
  senders : Nat := 1
  /-- False once the receiving side has closed the channel or is gone. -/
  accepting : Bool := true
  /-- The receiving side exists. -/
  receiver : Bool := true
deriving Repr

/-- How a channel meets a sender. -/
inductive Admission
  | accepted
  | waits
  | full
  | closed
deriving DecidableEq, Repr

namespace Channel

variable {α : Type}

/-- Slots that are taken. -/
def used (c : Channel α) : Nat := c.queue.length + c.promised.length + c.permits

/-- Slots that are free. -/
def free (c : Channel α) : Nat := c.capacity - c.used

/-- Free slots go to the senders that have waited longest. -/
def grant (c : Channel α) : Channel α :=
  { c with promised := c.promised ++ c.waiting.take c.free, waiting := c.waiting.drop c.free }

/-- A sender that is ready to wait. -/
def send (c : Channel α) (x : α) : Admission × Channel α :=
  if !c.accepting then (.closed, c)
  else if 0 < c.free then (.accepted, { c with queue := c.queue ++ [x] })
  else (.waits, { c with waiting := c.waiting ++ [x] })

/-- A sender that does not wait. -/
def trySend (c : Channel α) (x : α) : Admission × Channel α :=
  if !c.accepting then (.closed, c)
  else if 0 < c.free then (.accepted, { c with queue := c.queue ++ [x] })
  else (.full, c)

/-- Sets a slot aside. -/
def reserve (c : Channel α) : Admission × Channel α :=
  if !c.accepting then (.closed, c)
  else if 0 < c.free then (.accepted, { c with permits := c.permits + 1 })
  else (.full, c)

/-- A sender that is ready to wait and takes its slot before it sends. -/
def request (c : Channel α) (x : α) : Admission × Channel α :=
  if !c.accepting then (.closed, c)
  else if 0 < c.free then (.accepted, { c with permits := c.permits + 1 })
  else (.waits, { c with waiting := c.waiting ++ [x] })

/-- Uses a slot set aside, whether or not the channel still accepts. -/
def spend (c : Channel α) (x : α) : Channel α :=
  { c with permits := c.permits - 1, queue := c.queue ++ [x] }

/-- Gives up a slot set aside. -/
def forfeit (c : Channel α) : Channel α := grant { c with permits := c.permits - 1 }

/-- The first sender with a promised slot uses it. -/
def deliver? (c : Channel α) : Option (α × Channel α) :=
  match c.promised with
  | [] => none
  | x :: rest => some (x, { c with promised := rest, queue := c.queue ++ [x] })

/-- The first sender with a promised slot takes it, to send later. -/
def claim? (c : Channel α) : Option (α × Channel α) :=
  match c.promised with
  | [] => none
  | x :: rest => some (x, { c with promised := rest, permits := c.permits + 1 })

/-- Waiting senders that match leave without sending. -/
def withdraw (c : Channel α) (leaves : α → Bool) : Channel α :=
  grant { c with
    promised := c.promised.filter (!leaves ·), waiting := c.waiting.filter (!leaves ·) }

/-- The oldest item of the queue, whose slot becomes free. -/
def take? (c : Channel α) : Option (α × Channel α) :=
  match c.queue with
  | [] => none
  | x :: rest => some (x, grant { c with queue := rest })

/-- Stops accepting. Gives the senders that were waiting and are turned away. -/
def close (c : Channel α) : List α × Channel α :=
  (c.promised ++ c.waiting, { c with promised := [], waiting := [], accepting := false })

/-- The receiving side leaves. Gives the senders turned away and the items nobody will read. -/
def detach (c : Channel α) : List α × List α × Channel α :=
  let (refused, closed) := c.close
  (refused, closed.queue, { closed with queue := [], receiver := false })

/-- A sending handle goes away. -/
def leave (c : Channel α) : Channel α := { c with senders := c.senders - 1 }

/-- No one is left who could send. -/
def deserted (c : Channel α) : Bool :=
  c.senders = 0 && c.permits = 0 && c.promised.isEmpty && c.waiting.isEmpty

/-- Nothing is left to read and nothing can come: every sender is gone, or the receiving side has
closed the channel and no slot is taken any more. -/
def ended (c : Channel α) : Bool :=
  c.queue.isEmpty && (c.deserted || (!c.accepting && c.free = c.capacity))

/-- Items delivered after the receiving side had left, once the last sender is gone too. -/
def orphans (c : Channel α) : List α :=
  if !c.receiver && c.deserted then c.queue else []

/-- The channel without its orphans. -/
def sweep (c : Channel α) : Channel α :=
  if !c.receiver && c.deserted then { c with queue := [] } else c

/-- The sender is still waiting, with or without a promised slot. -/
def awaits (c : Channel α) (is : α → Bool) : Bool :=
  c.promised.any is || c.waiting.any is

end Channel
end Handoff

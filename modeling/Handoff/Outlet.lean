import Handoff.Channel
import Handoff.Message
/-!
# Shared readers

Any number of handles read from one channel, one at a time. A reader first lines up for the
channel, then waits for an item as the one who holds it. It leaves the line when it got its item,
when the channel has ended, or when it is cancelled; in the last case it has taken nothing.
-/
namespace Handoff

structure Outlet where
  channel : Channel Transaction
  /-- Handles that keep the receiving side of the channel alive, those of readers in line too. -/
  handles : Nat := 1
  /-- The reader that holds the channel. -/
  holder : Option Nat := none
  /-- Readers in line behind it. -/
  line : List Nat := []
deriving Repr

/-- What a reader finds. -/
inductive Reading
  | message (t : Transaction)
  | nothing
  | ended
deriving DecidableEq, Repr

namespace Outlet

/-- A reader lines up. -/
def join (o : Outlet) (reader : Nat) : Outlet :=
  match o.holder with
  | none => { o with holder := some reader }
  | some _ => { o with line := o.line ++ [reader] }

/-- A reader leaves. If it held the channel, the next in line holds it now. -/
def depart (o : Outlet) (reader : Nat) : Outlet :=
  if o.holder = some reader then { o with holder := o.line.head?, line := o.line.tail }
  else { o with line := o.line.filter (· ≠ reader) }

/-- What the channel holds for the one who may read. -/
def read (o : Outlet) : Reading × Outlet :=
  match o.channel.take? with
  | some (t, c) => (.message t, { o with channel := c })
  | none => (if o.channel.ended then .ended else .nothing, o)

/-- A reader that does not line up. It gets nothing while another one holds the channel. -/
def tryRead (o : Outlet) : Reading × Outlet :=
  match o.holder with
  | some _ => (.nothing, o)
  | none => o.read

def addHandle (o : Outlet) : Outlet := { o with handles := o.handles + 1 }

/-- A handle goes away, and with the last one the receiving side. Gives the senders turned away
and the items nobody will read. -/
def dropHandle (o : Outlet) : List Transaction × List Transaction × Outlet :=
  if o.handles ≤ 1 then
    let (refused, unread, c) := o.channel.detach
    (refused, unread, { o with handles := 0, channel := c })
  else ([], [], { o with handles := o.handles - 1 })

end Outlet
end Handoff

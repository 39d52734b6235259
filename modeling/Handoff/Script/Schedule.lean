import Handoff.Script.World
/-!
# Letting everything run

Between two steps of a script everything runs that can: the loop, senders that got their slot,
readers that got the channel, and waits whose condition holds. `ready?` is one move of one of these;
`settle` makes moves until none is left. Time moves only in `sleepUntil`, from one deadline to the
next.
-/
namespace Handoff.Script.World

/-- The first result that a function gives on the members of a list. -/
def firstOf {α β : Type} (f : α → Option β) (xs : List α) : Option β := xs.findSome? f

def loopMove? (w : World) : Option World :=
  match w.care with
  | .spawned => w.stage.advance.map fun s => { w with stage := s }
  | _ => none

def sendKey (w : World) (t : Transaction) : String := "send:" ++ w.titles.getD t.serial ""

/-- A waiting sender uses the slot it was promised. -/
def deliverMove? (w : World) : Option World :=
  firstOf (fun source => do
    let c ← w.channel? source
    let (t, c) ← c.deliver?
    return (w.setChannel source c).finishCall (w.sendKey t) .sent) w.sources.names

/-- A background call is looked at for the first time. -/
def begin (w : World) (call : Call) : World :=
  let begun := { w with
    calls := w.calls.map fun c => if c.key = call.key then { c with begun := true } else c }
  match call.work with
  | .send source t =>
    match w.channel? source with
    | none => begun
    | some c =>
      let (admission, c) := c.send t
      let c := c.leave
      match admission with
      | .accepted => (begun.setChannel source c).finishCall call.key .sent
      | .closed =>
        ((begun.setChannel source c).onHub (·.release [t])).finishCall call.key .closed
      | _ => begun.setChannel source c
  | .read ref reader _ => begun.onOutlet ref (·.join reader)
  | _ => begun

def beginMove? (w : World) : Option World :=
  (w.calls.find? (!·.begun)).map w.begin

/-- A reader that holds the channel gets what is there. -/
def serve? (w : World) (call : Call) : Option World :=
  match call.work with
  | .read ref reader name => do
    let o ← w.outlet? ref
    guard (o.holder = some reader)
    match o.read with
    | (.message t, o) =>
      let w := (w.setOutlet ref (o.depart reader)).closeHandle ref
      return { w with held := w.held.put name t }.finishCall call.key (.parts t.payload)
    | (.ended, o) =>
      return ((w.setOutlet ref (o.depart reader)).closeHandle ref).finishCall call.key .ended
    | (.nothing, _) => none
  | _ => none

/-- A background call whose condition holds ends. -/
def conclude? (w : World) (call : Call) : Option World :=
  if !call.begun then none
  else match call.work with
  | .send source t =>
    match w.channel? source with
    | some c =>
      if c.awaits (·.serial = t.serial) then none else some (w.finishCall call.key .closed)
    | none => some (w.finishCall call.key .closed)
  | .outcome serial =>
    let stop := fun (h : Hub) =>
      { h with replies := h.replies.modify serial Reply.stopListening }
    match (w.hub.replies.get serial).await with
    | .pending => none
    | .settled o => some ((w.onHub stop).finishCall call.key (.outcome o))
    | .alreadyTaken => some ((w.onHub stop).finishCall call.key .alreadyTaken)
  | .requested =>
    if w.hub.lifecycle.closeRequested || !w.lifecycleAlive then
      some (w.finishCall call.key .requested)
    else none
  | .wait limit deadline =>
    match w.hub.lifecycle.await limit (deadline ≤ w.clock) with
    | some (.ok _) => some (w.finishCall call.key .done)
    | some (.error e) => some (w.finishCall call.key (.stageFailed e))
    | none => none
  | .read .. => none

/-- A stage that nobody holds any more goes away. -/
def retireMove? (w : World) : Option World :=
  if w.stageAlive && !w.stageHeld && !w.hasWaits then
    some { w with stage := w.stage.drop, stageAlive := false }
  else none

/-- Items that nobody can read any more are let go. -/
def sweepMove? (w : World) : Option World :=
  firstOf (fun source => do
    let c ← w.channel? source
    let unread := c.orphans
    guard (!unread.isEmpty)
    return (w.setChannel source c.sweep).onHub (·.release unread)) w.sources.names

/-- One move, if anything can move. -/
def ready? (w : World) : Option World :=
  w.loopMove? <|> w.deliverMove? <|> w.beginMove? <|> firstOf w.serve? w.calls <|>
    firstOf w.conclude? w.calls <|> w.retireMove? <|> w.sweepMove?

def settleWithin : Nat → World → World
  | 0, w => w
  | n + 1, w =>
    match w.ready? with
    | some next => settleWithin n next
    | none => w

/-- More moves than can be made without a new call: each transaction is sent, forwarded, read and
answered at most once, and each call begins and ends once. -/
def budget (w : World) : Nat := 64 + 32 * w.titles.length + 8 * w.calls.length

def settle (w : World) : World := settleWithin w.budget w

/-- The earliest deadline of a background wait. -/
def nextDeadline? (w : World) : Option Nat :=
  (w.calls.filterMap fun c =>
    match c.work with
    | .wait _ deadline => some deadline
    | _ => none).min?

/-- Time goes on to `target`, from deadline to deadline, or until the condition holds. -/
def sleepWithin : Nat → Nat → (World → Bool) → World → World
  | 0, _, _, w => w
  | n + 1, target, enough, w =>
    if enough w then w
    else match w.nextDeadline? with
    | some deadline =>
      if deadline ≤ target then
        sleepWithin n target enough { w with clock := max w.clock deadline }.settle
      else { w with clock := target }.settle
    | none => { w with clock := target }.settle

def sleepUntil (w : World) (target : Nat) (enough : World → Bool) : World :=
  sleepWithin (w.calls.length + 1) target enough w.settle

/-- The close confirmation is given. -/
def isClosed (w : World) : Bool := w.hub.lifecycle.closed

/-- Waits for the close confirmation in the foreground. -/
def waitClosed (w : World) (limit : Duration) : Option StageError × World :=
  let w := w.sleepUntil (w.clock + limit.nanoseconds) isClosed
  match w.hub.lifecycle.await limit true with
  | some (.error e) => (some e, w)
  | _ => (none, w)

end Handoff.Script.World

import Handoff.Script.Schedule
/-!
# Making a call

`perform` makes one call of a script on the world. A call on an object that is not there, or under a
name already given, is refused and changes nothing.
-/
namespace Handoff.Script.World

def admitted (w : World) : Admission → Result × World
  | .accepted => (.sent, w)
  | .full => (.full, w)
  | _ => (.closed, w)

def trySend (w : World) (source id : String) (payload : Message) : Option (Result × World) := do
  let c ← w.sender? source
  let (t, w) ← w.issue id payload
  let (admission, c) := c.trySend t
  let w := w.setChannel source c
  let w := if admission = .accepted then w else w.onHub (·.release [t])
  return w.admitted admission

def send (w : World) (source id : String) (payload : Message) : Option (Result × World) := do
  let c ← w.sender? source
  let (t, w) ← w.issue id payload
  let w := w.setChannel source { c with senders := c.senders + 1 }
  let key := "send:" ++ id
  return (.background key, w.addCall key (.send source t))

def reserve (w : World) (source permit : String) : Option (Result × World) := do
  let c ← w.sender? source
  match c.reserve with
  | (.accepted, c) =>
    let w ← w.takeName ("permit:" ++ permit)
    return (.reserved, { w.setChannel source c with permits := w.permits.put permit source })
  | (.full, _) => return (.full, w)
  | _ => return (.closed, w)

def permitSend (w : World) (permit id : String) (payload : Message) : Option (Result × World) := do
  let source ← w.permits.get? permit
  let c ← w.channel? source
  let (t, w) ← w.issue id payload
  return (.nothing, { w.setChannel source (c.spend t) with permits := w.permits.erase permit })

def permitDrop (w : World) (permit : String) : Option (Result × World) := do
  let source ← w.permits.get? permit
  let c ← w.channel? source
  return (.nothing, { w.setChannel source c.forfeit with permits := w.permits.erase permit })

/-- Puts a handle under a name. The handle that had the name goes away. -/
def putHandle (w : World) (handle : String) (p : OutletRef) : World :=
  let old := w.handles.get? handle
  let w := { w with handles := w.handles.put handle p }
  match old with
  | some q => w.closeHandle q
  | none => w

def wrap (w : World) (source handle : String) : Option (Result × World) := do
  let (s, c) ← w.receiver? source
  let ref := w.wrapped.length
  let w := { w with
    wrapped := w.wrapped ++ [({ channel := c } : Outlet)]
    sources := w.sources.put source { s with place := .wrapped ref } }
  return (.nothing, w.putHandle handle (.wrapped ref))

/-- The outlet a handle reads from, or the stage's own outbound side. -/
def outletRef? (w : World) : Option String → Option OutletRef
  | some handle => w.handles.get? handle
  | none => if w.stageHeld then some .main else none

def copyHandle (w : World) (handle : Option String) (copy : String) : Option (Result × World) := do
  let p ← w.outletRef? handle
  return (.nothing, (w.onOutlet p (·.addHandle)).putHandle copy p)

def recv (w : World) (handle : Option String) (name : String) : Option (Result × World) := do
  let p ← w.outletRef? handle
  let w ← w.takeName ("recv:" ++ name)
  let key := "recv:" ++ name
  let w := { w.onOutlet p (·.addHandle) with readers := w.readers + 1 }
  return (.background key, w.addCall key (.read p w.readers name))

def tryRecv (w : World) (handle : Option String) (name : String) : Option (Result × World) := do
  let p ← w.outletRef? handle
  let o ← w.outlet? p
  let w ← w.takeName ("recv:" ++ name)
  match o.tryRead with
  | (.message t, o) =>
    return (.parts t.payload, { w.setOutlet p o with held := w.held.put name t })
  | (.nothing, _) => return (.empty, w)
  | (.ended, _) => return (.receiveFailed .closed, w)

/-- Aborts a background call. What it owned goes away with it. -/
def cancel (w : World) (key : String) : Option (Result × World) := do
  let call ← w.calls.find? (·.key = key)
  let w := w.removeCall key
  match call.work with
  | .send source t =>
    let c ← w.channel? source
    let c := if call.begun then c.withdraw (·.serial = t.serial) else c.leave
    return (.nothing, (w.setChannel source c).onHub (·.release [t]))
  | .read ref reader _ =>
    let w := if call.begun then w.onOutlet ref (·.depart reader) else w
    return (.nothing, w.closeHandle ref)
  | .outcome serial =>
    return (.nothing, w.onHub fun h =>
      { h with replies := h.replies.modify serial Reply.stopListening })
  | _ => return (.nothing, w)

def new (w : World) (id : String) (payload : Message) : Option (Result × World) := do
  let (t, w) ← w.issue id payload
  return (.nothing, { w with held := w.held.put id t })

def release (w : World) (id : String) : Option (Transaction × World) := do
  let t ← w.held.get? id
  return (t, { w with held := w.held.erase id })

def respond (w : World) (id : String) (o : Outcome) : Option (Result × World) := do
  let (t, w) ← w.release id
  return (.flag (w.hub.replies.get t.serial).listening, w.onHub (·.answer t o))

def dropReply (w : World) (id : String) : Option (Result × World) := do
  let serial ← w.listener? id
  let w := { w with listeners := w.listeners.filter (· ≠ serial) }
  return (.nothing, w.onHub fun h =>
    { h with replies := h.replies.modify serial Reply.stopListening })

def tryOutcome (w : World) (id : String) : Option (Result × World) := do
  let serial ← w.listener? id
  let (found, _) := (w.hub.replies.get serial).look
  let w := w.onHub fun h => { h with replies := h.replies.modify serial fun r => r.look.2 }
  match found with
  | some o => return (.outcome o, w)
  | none => return (.noOutcome, w)

def awaitOutcome (w : World) (id : String) : Option (Result × World) := do
  let serial ← w.listener? id
  let w := { w with listeners := w.listeners.filter (· ≠ serial) }
  let key := "outcome:" ++ id
  return (.background key, w.addCall key (.outcome serial))

/-- Calls on a lifecycle the script holds. -/
def onLifecycle (w : World) (f : Lifecycle → Result × Lifecycle) : Option (Result × World) :=
  if w.lifecycleHeld then
    let (r, l) := f w.hub.lifecycle
    some (r, w.onHub fun h => { h with lifecycle := l })
  else none

def requestClose (w : World) : Option (Result × World) :=
  if w.lifecycleHeld then
    let (won, h) := w.hub.requestClose
    some (.flag won, w.setHub h)
  else none

/-- There is something to wait for. -/
def canWait (w : World) : Bool := w.lifecycleHeld || w.stageHeld

def waitInBackground (w : World) (name : String) (limit : Duration) : Option (Result × World) := do
  guard w.canWait
  let w ← w.takeName ("wait:" ++ name)
  let key := "wait:" ++ name
  return (.background key, w.addCall key (.wait limit (w.clock + limit.nanoseconds)))

def wait (w : World) (limit : Duration) : Option (Result × World) := do
  guard w.canWait
  match w.waitClosed limit with
  | (none, w) => return (.done, w)
  | (some e, w) => return (.stageFailed e, w)

def signal (w : World) (name : String) (origin : Option String) : Option (Result × World) := do
  let known : Bool :=
    match origin with
    | some other => w.signals.contains other
    | none => w.lifecycleHeld
  guard known
  return (.nothing, { w with signals := name :: w.signals })

def requested (w : World) (signal name : String) : Option (Result × World) := do
  guard (w.signals.contains signal)
  let w ← w.takeName ("requested:" ++ name)
  let key := "requested:" ++ name
  return (.background key, w.addCall key .requested)

def build (w : World) (source : String) (capacity : Nat) (handle : String) :
    Option (Result × World) := do
  guard (w.subject = .loop && w.lifecycleHeld && w.care = .absent)
  let (s, c) ← w.receiver? source
  let w := w.onHub fun h => { h with outlet := { channel := { capacity } } }
  let w := { w with
    stage := { w.stage with loop := some { label := "test", inbound := c } }
    sources := w.sources.put source { s with place := .attached }
    care := .built }
  return (.nothing, w.putHandle handle .main)

def dropLoop (w : World) : Option (Result × World) := do
  guard (w.care = .built)
  let l ← w.stage.loop
  let (l, hub) := l.discard w.hub
  return (.nothing, { w with stage := { w.stage with hub, loop := some l }, care := .discarded })

def startStage (w : World) (source : String) : Option (Result × World) := do
  guard w.stageHeld
  let (s, c) ← w.receiver? source
  match w.stage.start c with
  | (.ok (), stage) =>
    return (.done, { w with
      stage, care := .spawned, sources := w.sources.put source { s with place := .attached } })
  | (.error (e, c), stage) =>
    return (.stageFailed e, { w with
      stage, sources := w.sources.put source { s with place := .loose c } })

def stopStage (w : World) : Option (Result × World) := do
  guard w.stageHeld
  return (.nothing, { w with stage := w.stage.requestClose })

def dropStage (w : World) : Option (Result × World) := do
  guard w.stageHeld
  let w := { w with stageHeld := false }
  return (.nothing, w.retireMove?.getD w)

/-- Requests the close of the stage and waits for its confirmation. -/
def closeStage (w : World) (limit : Duration) : Option (Result × World) := do
  let (_, w) ← w.stopStage
  match w.waitClosed limit with
  | (none, w) => return (.done, w)
  | (some e, w) => return (.shutdownFailed e, w.onHub (·.note (.notClosedInTime e.message)))

/-- One call that is not a batch. -/
def call (w : World) : Step → Option (Result × World)
  | .source name capacity => do
    let w ← w.takeName ("source:" ++ name)
    return (.nothing, { w with
      sources := w.sources.put name { place := .loose { capacity } } })
  | .dropSource name => do
    let c ← w.sender? name
    let w := w.setChannel name c.leave
    let s ← w.sources.get? name
    return (.nothing, { w with sources := w.sources.put name { s with held := false } })
  | .send source id payload => w.send source id payload
  | .trySend source id payload => w.trySend source id payload
  | .reserve source permit => w.reserve source permit
  | .permitSend permit id payload => w.permitSend permit id payload
  | .permitDrop permit => w.permitDrop permit
  | .wrap source handle => w.wrap source handle
  | .chan handle => w.copyHandle none handle
  | .cloneHandle handle copy => w.copyHandle handle copy
  | .dropHandle handle => do
    let p ← w.handles.get? handle
    return (.nothing, { w with handles := w.handles.erase handle }.closeHandle p)
  | .recv handle name => w.recv handle name
  | .tryRecv handle name => w.tryRecv handle name
  | .cancel key => w.cancel key
  | .new id payload => w.new id payload
  | .payload id => do
    let t ← w.held.get? id
    return (.payload t.payload, w)
  | .intoPayload id => do
    let (t, w) ← w.release id
    return (.payload t.payload, w.onHub (·.release [t]))
  | .respond id o => w.respond id o
  | .dropTransaction id => do
    let (t, w) ← w.release id
    return (.nothing, w.onHub (·.release [t]))
  | .abandoned id => do
    let t ← w.held.get? id
    return (.flag !(w.hub.replies.get t.serial).listening, w)
  | .dropReply id => w.dropReply id
  | .tryOutcome id => w.tryOutcome id
  | .outcome id => w.awaitOutcome id
  | .markRunning => w.onLifecycle fun l => (.flag l.markRunning.1, l.markRunning.2)
  | .requestClose => w.requestClose
  | .settleStopped => w.onLifecycle fun l => (.nothing, l.settle)
  | .confirmClosed => w.onLifecycle fun l => (.flag l.confirm.1, l.confirm.2)
  | .wait limit => w.wait limit
  | .waitInBackground name limit => w.waitInBackground name limit
  | .signal name origin => w.signal name origin
  | .isRequested name =>
    if w.signals.contains name then some (.flag w.hub.lifecycle.closeRequested, w) else none
  | .requested signal name => w.requested signal name
  | .dropLifecycle =>
    if w.lifecycleHeld then some (.nothing, { w with lifecycleHeld := false }) else none
  | .advance milliseconds =>
    some (.nothing, w.sleepUntil (w.clock + milliseconds * 1000000) fun _ => false)
  | .build source capacity handle => w.build source capacity handle
  | .spawn => if w.care = .built then some (.nothing, { w with care := .spawned }) else none
  | .dropLoop => w.dropLoop
  | .start source => w.startStage source
  | .stop => w.stopStage
  | .errorsChan => if w.stageHeld then some (.flag false, w) else none
  | .dropStage => w.dropStage
  | .closeStage limit => w.closeStage limit
  | .batch _ => none
  | .unreadable => none

/-- Makes a call. One that cannot be made is refused. -/
def perform (w : World) (s : Step) : Result × World := (w.call s).getD (.refused, w)

/-- Makes calls back to back. A batch is not nested in another. -/
def performAll : World → List Step → List Result × World
  | w, [] => ([], w)
  | w, s :: rest =>
    let (r, w) := w.perform s
    let (rs, w) := performAll w rest
    (r :: rs, w)

end Handoff.Script.World

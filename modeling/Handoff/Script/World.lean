import Handoff.Named
import Handoff.Script.Step
import Handoff.Stage
/-!
# The world of a script

The world holds the stage, or what of it the script is about, and every object the script has
named. Time is a number of nanoseconds that only some steps move. Background calls are kept as
calls: each has a key and the work it does, and has not begun before it is looked at for the first
time.
-/
namespace Handoff.Script

/-- Where the receiving side of a source is. -/
inductive Place
  /-- with the script, or gone -/
  | loose (c : Channel Transaction)
  /-- behind shared readers -/
  | wrapped (outlet : Nat)
  /-- with the loop -/
  | attached

structure Source where
  /-- The script holds the sender. -/
  held : Bool := true
  place : Place

/-- The channel a handle reads from. -/
inductive OutletRef
  /-- the outbound channel of the stage or loop -/
  | main
  | wrapped (outlet : Nat)

inductive Work
  | send (source : String) (t : Transaction)
  | read (ref : OutletRef) (reader : Nat) (name : String)
  | outcome (serial : Nat)
  | requested
  | wait (limit : Duration) (deadline : Nat)

structure Call where
  key : String
  work : Work
  begun : Bool := false

/-- What has become of the loop of a script. -/
inductive LoopCare
  | absent
  | built
  | spawned
  | discarded
deriving DecidableEq

structure World where
  subject : Subject
  stage : Stage := .create
  /-- Nanoseconds since the start. -/
  clock : Nat := 0
  /-- Names of the transactions, by serial number. -/
  titles : List String := []
  /-- Serial numbers of the transactions whose reply slot the script holds. -/
  listeners : List Nat := []
  sources : Named Source := {}
  wrapped : List Outlet := []
  handles : Named OutletRef := {}
  /-- The source of each permit. -/
  permits : Named String := {}
  held : Named Transaction := {}
  /-- Keys of names that may be given once only. -/
  takenNames : List String := []
  signals : List String := []
  lifecycleHeld : Bool := false
  stageHeld : Bool := false
  stageAlive : Bool := false
  care : LoopCare := .absent
  calls : List Call := []
  /-- Background calls that finished in the current step. -/
  finished : List (String × Result) := []
  readers : Nat := 0

namespace World

/-- The world in which a script begins. -/
def start (subject : Subject) : World :=
  let staged := subject == .stage
  { subject
    lifecycleHeld := subject == .lifecycle || subject == .loop
    stageHeld := staged
    stageAlive := staged }

def hub (w : World) : Hub := w.stage.hub

def setHub (w : World) (h : Hub) : World := { w with stage := { w.stage with hub := h } }

def onHub (w : World) (f : Hub → Hub) : World := w.setHub (f w.hub)

/-- Gives a name that must not have been given before. -/
def takeName (w : World) (key : String) : Option World :=
  if w.takenNames.contains key then none else some { w with takenNames := key :: w.takenNames }

def channelAt (w : World) : Place → Option (Channel Transaction)
  | .loose c => some c
  | .wrapped i => w.wrapped[i]?.map (·.channel)
  | .attached => w.stage.loop.map (·.inbound)

def channel? (w : World) (source : String) : Option (Channel Transaction) :=
  (w.sources.get? source).bind fun s => w.channelAt s.place

def setChannel (w : World) (source : String) (c : Channel Transaction) : World :=
  match w.sources.get? source with
  | none => w
  | some s =>
    match s.place with
    | .loose _ => { w with sources := w.sources.put source { s with place := .loose c } }
    | .wrapped i => { w with wrapped := w.wrapped.modify i fun o => { o with channel := c } }
    | .attached =>
      { w with stage := { w.stage with
          loop := w.stage.loop.map fun l => { l with inbound := c } } }

def outlet? (w : World) : OutletRef → Option Outlet
  | .main => some w.hub.outlet
  | .wrapped i => w.wrapped[i]?

def setOutlet (w : World) (p : OutletRef) (o : Outlet) : World :=
  match p with
  | .main => w.setHub { w.hub with outlet := o }
  | .wrapped i => { w with wrapped := w.wrapped.set i o }

def onOutlet (w : World) (p : OutletRef) (f : Outlet → Outlet) : World :=
  match w.outlet? p with
  | none => w
  | some o => w.setOutlet p (f o)

/-- A handle of an outlet goes away, and with the last one all that is unread. -/
def closeHandle (w : World) (p : OutletRef) : World :=
  match w.outlet? p with
  | none => w
  | some o =>
    let (refused, unread, o) := o.dropHandle
    (w.setOutlet p o).onHub (·.release (refused ++ unread))

/-- The source whose receiving side the script still has, with its channel. -/
def receiver? (w : World) (source : String) : Option (Source × Channel Transaction) :=
  match w.sources.get? source with
  | some s =>
    match s.place with
    | .loose c => if c.receiver then some (s, c) else none
    | _ => none
  | none => none

/-- The channel of a source whose sender the script still has. -/
def sender? (w : World) (source : String) : Option (Channel Transaction) :=
  match w.sources.get? source with
  | some s => if s.held then w.channelAt s.place else none
  | none => none

/-- A new transaction under a name of its own, whose reply slot the script holds. -/
def issue (w : World) (id : String) (payload : Message) : Option (Transaction × World) :=
  if w.titles.contains id then none
  else
    let (t, h) := w.hub.issue payload
    some (t, { w.setHub h with
      titles := w.titles ++ [id], listeners := w.listeners ++ [t.serial] })

/-- The serial number of a transaction whose reply slot the script holds. -/
def listener? (w : World) (id : String) : Option Nat :=
  match w.titles.idxOf? id with
  | some serial => if w.listeners.contains serial then some serial else none
  | none => none

def addCall (w : World) (key : String) (work : Work) : World :=
  { w with calls := w.calls ++ [{ key, work }] }

def removeCall (w : World) (key : String) : World :=
  { w with calls := w.calls.filter (·.key ≠ key) }

/-- The call leaves with its result. -/
def finishCall (w : World) (key : String) (r : Result) : World :=
  { w.removeCall key with finished := w.finished ++ [(key, r)] }

def isWait (c : Call) : Bool :=
  match c.work with
  | .wait .. => true
  | _ => false

/-- Background waits keep the stage or lifecycle they wait on alive. -/
def hasWaits (w : World) : Bool := w.calls.any isWait

def loopAlive (w : World) : Bool :=
  match w.care with
  | .built => true
  | .spawned =>
    match w.stage.loop with
    | some l => l.position ≠ .finished
    | none => false
  | _ => false

def lifecycleAlive (w : World) : Bool :=
  w.lifecycleHeld || w.stageAlive || w.loopAlive || w.hasWaits

end World
end Handoff.Script

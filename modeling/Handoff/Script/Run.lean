import Handoff.Script.Perform
/-!
# Running a script

A step makes its call, then everything runs until nothing can move, then the answer tells what can
be seen.
-/
namespace Handoff.Script

namespace World

/-- The result of a background call made in this step: its value if it finished, else pending. -/
def resolve (w : World) : Result → Result
  | .background key => (w.finished.lookup key).getD .pending
  | r => r

def madeHere : Result → List String
  | .background key => [key]
  | .many rs => rs.flatMap fun r =>
    match r with
    | .background key => [key]
    | _ => []
  | _ => []

/-- The outcomes that senders learned by now and that were not told before. -/
def newOutcomes (w : World) : List (String × Outcome) × World :=
  let known := w.listeners.filterMap fun serial =>
    ((w.hub.replies.get serial).look.1).map fun o => (serial, o)
  let told := known.map (·.1)
  (known.map fun (serial, o) => (w.titles.getD serial "", o),
    { w with listeners := w.listeners.filter fun serial => !told.contains serial })

def capacities (w : World) : List (String × Nat) :=
  w.sources.rows.filterMap fun (name, s) =>
    if s.held then (w.channelAt s.place).map fun c => (name, c.free) else none

/-- What can be seen, with the outcomes learned. -/
def observe (w : World) (result : Result) : Answer × World :=
  let made := madeHere result
  let result :=
    match result with
    | .many rs => .many (rs.map w.resolve)
    | r => w.resolve r
  let channels := w.subject = .receivers || w.subject = .loop || w.subject = .stage
  let (outcomes, w') := if channels then w.newOutcomes else ([], w)
  let lifecycle := w.hub.lifecycle
  let answer : Answer :=
    { result
      done := w.finished.filter fun (key, _) => !made.contains key
      outcomes := if channels then some outcomes else none
      capacities := if channels then some w.capacities else none
      state := if w.stageHeld || w.lifecycleHeld then some lifecycle.state else none
      attached := if w.stageHeld then some w.stage.isAttached else none
      closeRequested := if w.lifecycleHeld then some lifecycle.closeRequested else none
      closed := if w.lifecycleHeld then some lifecycle.closed else none
      taskFinished :=
        if w.subject = .loop && w.care = .spawned then some !w.loopAlive else none
      counters :=
        if w.subject = .loop || w.subject = .stage then
          some (w.hub.forwarded, w.hub.abandoned)
        else none
      log := w.hub.log.reverse }
  (answer, { w' with finished := [] }.onHub fun h => { h with log := [] })

/-- One step of a script. -/
def step (w : World) (s : Step) : Answer × World :=
  let (result, w) :=
    match s with
    | .batch steps =>
      let (rs, w) := w.performAll steps
      (Result.many rs, w)
    | s => w.perform s
  w.settle.observe result

def steps : World → List Step → List Answer
  | _, [] => []
  | w, s :: rest =>
    let (answer, w) := w.step s
    answer :: steps w rest

end World

/-- The answers to the steps of a script. -/
def run (subject : Subject) (script : List Step) : List Answer :=
  (World.start subject).steps script

end Handoff.Script

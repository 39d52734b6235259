import Handoff.Pipeline.Run
/-!
# Runs on a clock

A timeline says when each piece of input arrives, when the input ends and when the shutdown signal
comes. It fixes one schedule of a run: at each instant everything that is due happens, and then
every party moves as long as one of them can. Time then goes on to the next thing that is due. A
run that waits for a stage gives up when its time is over.
-/
namespace Handoff.Pipeline

namespace Run

/-- The first watcher that can move. -/
def watchAny (r : Run) : Option Run := r.watched.findSome? r.watch

/-- One move of any party. The shutdown signal is looked at before anything else, and the loop looks
at its channel before it looks at the close request. -/
def move? (r : Run) : Option Run :=
  r.step (.consume .close) <|> r.step (.loop .channel) <|> r.step (.loop .close) <|>
    r.step .produce <|> r.step (.consume .channel) <|> r.watchAny <|> r.step .cancel

def settleWithin : Nat → Run → Run
  | 0, r => r
  | n + 1, r =>
    match r.move? with
    | some next => settleWithin n next
    | none => r

/-- More moves than can be made before something new arrives: a bounded number for each line that
has arrived, each prepared message and each transaction under way. -/
def budget (r : Run) : Nat :=
  64 + 16 * (r.feed.pending.length + r.hub.replies.next + r.hub.outlet.channel.queue.length)

def settle (r : Run) : Run := settleWithin r.budget r

end Run

/-- A run and what is still to happen to it, in nanoseconds since its start. -/
structure Timeline where
  run : Run
  /-- When each piece of input that is still to come arrives. -/
  arrivals : List Nat
  /-- When the input ends, if it does. -/
  endAt : Option Nat
  signalAt : Option Nat
  /-- When the wait for the close confirmation is over. -/
  deadline : Option Nat := none
  now : Nat := 0

namespace Timeline

/-- No piece arrives before the one in front of it. -/
def inOrder (times : List Nat) : List Nat :=
  (times.foldl (fun (latest, done) t => (max latest t, done ++ [max latest t]))
    (0, ([] : List Nat))).2

/-- A timeline from the times given. The input does not end before its last piece. -/
def of (run : Run) (times : List Nat) (endAt signalAt : Option Nat) : Timeline :=
  let arrivals := inOrder times
  { run, arrivals, endAt := endAt.map fun t => max t ((arrivals.getLast?).getD 0), signalAt }

/-- When the next piece, or the end of the input, arrives. -/
def nextArrival? (p : Timeline) : Option Nat :=
  if p.run.feed.ended then none
  else
    match p.arrivals with
    | t :: _ => some t
    | [] => p.endAt

def nextSignal? (p : Timeline) : Option Nat := if p.run.signalled then none else p.signalAt

/-- The next time at which something is due. -/
def nextTime? (p : Timeline) : Option Nat :=
  ([p.nextArrival?, p.nextSignal?, p.deadline].filterMap id).min?

/-- Whether a time has come. -/
def isDue (p : Timeline) (time? : Option Nat) : Bool :=
  match time? with
  | some t => t ≤ p.now
  | none => false

/-- Something happens that is due. -/
def happen? (p : Timeline) : Option Timeline :=
  if p.isDue p.nextSignal? then (p.run.step .signal).map fun run => { p with run }
  else if p.isDue p.nextArrival? then
    (p.run.step .arrive).map fun run => { p with run, arrivals := p.arrivals.tail }
  else none

def happenWithin : Nat → Timeline → Timeline
  | 0, p => p
  | n + 1, p =>
    match p.happen? with
    | some next => happenWithin n next
    | none => p

/-- Everything moves, and the wait for the close confirmation begins or ends. -/
def settle (p : Timeline) : Timeline :=
  let run := p.run.settle
  match run.consumer with
  | .waiting =>
    match p.deadline with
    | none =>
      let deadline := p.now + run.shutdownTimeout.nanoseconds
      { p with run, deadline := some deadline }
    | some t =>
      if t ≤ p.now then
        match run.step .expire with
        | some run => { p with run := run.settle }
        | none => { p with run }
      else { p with run }
  | _ => { p with run }

/-- Everything of one instant. -/
def instant (p : Timeline) : Timeline := (happenWithin (p.arrivals.length + 2) p).settle

/-- Goes on from instant to instant until the run has returned or nothing is due any more. -/
def playWithin : Nat → Timeline → Timeline
  | 0, p => p
  | n + 1, p =>
    let p := p.instant
    match p.run.consumer with
    | .returned _ => p
    | _ =>
      match p.nextTime? with
      | some t => playWithin n { p with now := max p.now t }
      | none => p

/-- At every instant but the first a piece or the end of the input arrives, the signal comes, or the
wait is over. -/
def play (p : Timeline) : Run := (playWithin (p.arrivals.length + 4) p).run

end Timeline

/-- What a run did, once it has returned. -/
structure Report where
  result : Except Failure Summary
  output : Bytes
  forwarded : Nat
  abandoned : Nat
  calls : Calls
  /-- The answers to messages prepared in advance, as far as they have one. -/
  answers : List (Option Outcome)
  /-- Events in the order in which they happened. -/
  log : List Event

/-- The answers to so many messages prepared in advance. A run that hands out none of them has
answered none. -/
def Run.preparedAnswers (r : Run) (messages : Nat) : List (Option Outcome) :=
  (List.range messages).map fun serial =>
    match r.buffer.conduct with
    | .prepared .. => (r.hub.replies.get serial).outcome
    | _ => none

/-- The report of a run that has returned. -/
def Run.report? (r : Run) (prepared : Nat) : Option Report :=
  r.result?.map fun result =>
    { result
      output := r.writer.output
      forwarded := r.hub.forwarded
      abandoned := r.hub.abandoned
      calls := r.calls
      answers := r.preparedAnswers prepared
      log := r.hub.log.reverse }

end Handoff.Pipeline

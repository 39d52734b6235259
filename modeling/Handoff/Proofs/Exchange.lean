import Handoff.Proofs.Forwarding
import Handoff.Proofs.Inlet
import Handoff.Proofs.Outlet
import Handoff.Proofs.Reached

/-!
# A loop among its senders and readers

An exchange is one loop with everyone who can meet it: the senders of its inbound channel, the
readers and other owners of its outbound channel of one slot, and the callers who start and stop
it. Beside the state of the program it keeps where transactions went: what inbound accepted, what
the loop placed and what it answered, what readers took and returned, and what was lost with the
last reader. A move is one act of one party, so every order of moves is a schedule.

Whoever closes or drops a receiver turns away those in line, and what they have is let go with that.
A sender that keeps its transaction has left the line before (`Inlet.reached_withdrawn`).

`Exchange.Step` lists the moves with their conditions and with all that they change, and
`Exchange.step_cases` says that there are no others, so that what moves keep is shown by cases.
-/
namespace Handoff

@[simp] theorem Lifecycle.closed_markRunning (l : Lifecycle) :
    l.markRunning.2.closed = l.closed := by
  unfold markRunning
  split <;> rfl

@[simp] theorem Lifecycle.closed_claimStop (l : Lifecycle) :
    l.claimStop.2.closed = l.closed := by
  unfold claimStop
  split <;> rfl

@[simp] theorem Lifecycle.closeRequested_markRunning (l : Lifecycle) :
    l.markRunning.2.closeRequested = l.closeRequested := by
  unfold markRunning
  split <;> rfl

@[simp] theorem Lifecycle.closeRequested_claimStop (l : Lifecycle) :
    l.claimStop.2.closeRequested = l.closeRequested := by
  unfold claimStop
  split <;> rfl

structure Exchange where
  loop : Loop
  hub : Hub
  /-- Issued and not handed to the inbound channel. -/
  unsent : List Transaction := []
  /-- With a reader, unanswered. -/
  held : List Transaction := []
  /-- Outbound senders besides the one of the loop. They never send. -/
  spare : Nat
  accepted : List Transaction := []
  placed : List Transaction := []
  refused : List Transaction := []
  lost : List Transaction := []
  taken : List Transaction := []
  returned : List (Transaction × Outcome) := []
deriving Repr

namespace Exchange

/-- One act of one party. -/
inductive Move
  | sending (s : Sending)
  /-- the inbound channel is closed before the loop runs, and those in line are turned away -/
  | shut
  | loop (b : Branch)
  /-- a reader takes what the outbound channel holds -/
  | take
  /-- a reader answers, or lets go of, what it has -/
  | answer (t : Transaction) (o : Outcome)
  | addHandle
  | dropHandle
  | cloneSpare
  | dropSpare
  | markRunning
  | claimStop
  | publish
  | note (e : Event)
deriving Repr

/-- The steps of a close request. -/
def Move.isStop : Move → Bool
  | .claimStop | .publish => true
  | _ => false

/-- A loop that has not run, with so many inbound slots and other outbound senders. -/
def start (label : String) (slots spare : Nat) : Exchange :=
  { loop := { label, inbound := { capacity := slots } }
    hub := { outlet := { channel := { capacity := 1, senders := spare + 1 } } }
    spare }

def slot (w : Exchange) : List Transaction := w.hub.outlet.channel.queue

/-- What the senders see. -/
def inlet (w : Exchange) : Inlet := ⟨w.loop.inbound, w.hub.replies, w.unsent⟩

/-- The exchange after an act of a sender. -/
def afterSending (w : Exchange) (i : Inlet) : Exchange :=
  { w with
    loop := { w.loop with inbound := i.channel }
    hub := { w.hub with replies := i.replies }
    unsent := i.unsent
    accepted := w.accepted ++ w.inlet.admits i }

/-- The exchange after a step of the loop. -/
def afterLoop (w : Exchange) (l : Loop) (h : Hub) : Exchange :=
  { w with
    loop := l
    hub := h
    placed := w.placed ++ w.loop.places
    refused := w.refused ++ w.loop.answers
    lost := w.lost ++ w.loop.strands w.hub }

/-- One move, if its party can make it. -/
def step (m : Move) (w : Exchange) : Option Exchange :=
  match m with
  | .sending s => (w.inlet.act s).map w.afterSending
  | .shut =>
    if w.loop.position = .wired then
      let (turned, c) := w.loop.inbound.close
      some { w with loop := { w.loop with inbound := c }, hub := w.hub.release turned }
    else none
  | .loop b => (w.loop.step b w.hub).map fun (l, h) => w.afterLoop l h
  | .take =>
    if 0 < w.hub.outlet.handles then
      match w.hub.outlet.read with
      | (.message t, outlet) =>
        some { w with
          hub := { w.hub with outlet }, held := w.held ++ [t], taken := w.taken ++ [t] }
      | _ => none
    else none
  | .answer t o =>
    if t ∈ w.held then
      some { w with
        hub := w.hub.answer t o, held := w.held.erase t, returned := w.returned ++ [(t, o)] }
    else none
  | .addHandle =>
    if 0 < w.hub.outlet.handles then
      some { w with hub := { w.hub with outlet := w.hub.outlet.addHandle } }
    else none
  | .dropHandle =>
    if 0 < w.hub.outlet.handles then
      some { w with
        hub := w.hub.dropOutboundHandle, lost := w.lost ++ w.hub.outlet.dropHandle.2.1 }
    else none
  | .cloneSpare =>
    if 0 < w.hub.outlet.channel.senders then
      let c := w.hub.outlet.channel
      some { w with
        hub := w.hub.setOutbound { c with senders := c.senders + 1 }, spare := w.spare + 1 }
    else none
  | .dropSpare =>
    if 0 < w.spare then
      some { w with
        hub := w.hub.dropOutboundSender
        spare := w.spare - 1
        lost := w.lost ++ w.hub.outlet.channel.leave.orphans }
    else none
  | .markRunning =>
    some { w with hub := { w.hub with lifecycle := w.hub.lifecycle.markRunning.2 } }
  | .claimStop => some { w with hub := { w.hub with lifecycle := w.hub.lifecycle.claimStop.2 } }
  | .publish =>
    if w.hub.lifecycle.claimed then
      some { w with hub := { w.hub with lifecycle := w.hub.lifecycle.publish } }
    else none
  | .note e => some { w with hub := w.hub.note e }

/-- Who has which transaction. -/
def custody (w : Exchange) : Custody where
  senders := w.unsent ++ w.loop.inbound.line
  queue := w.loop.inbound.queue
  hand := w.loop.position.hand
  slot := w.slot
  held := w.held
  refused := w.refused
  lost := w.lost
  returned := w.returned
  accepted := w.accepted
  placed := w.placed
  taken := w.taken
  next := w.hub.replies.next
  outcome := w.hub.replies.outcome

/-- The moves that can be made, each with its condition and all that it changes. -/
inductive Step (w : Exchange) : Move → Exchange → Prop
  | sending {s i} : w.inlet.Step i → Step w (.sending s) (w.afterSending i)
  | shut : w.loop.position = .wired → Step w .shut { w with
      loop := { w.loop with inbound := w.loop.inbound.close.2 }
      hub := w.hub.release w.loop.inbound.close.1 }
  | loop {b l h} : w.loop.Step w.hub l h → Step w (.loop b) (w.afterLoop l h)
  | take {t rest} : 0 < w.hub.outlet.handles → w.slot = t :: rest → Step w .take { w with
      hub := w.hub.setOutbound { w.hub.outlet.channel with queue := rest }.grant
      held := w.held ++ [t], taken := w.taken ++ [t] }
  | answer {t o} : t ∈ w.held → Step w (.answer t o) { w with
      hub := w.hub.answer t o, held := w.held.erase t, returned := w.returned ++ [(t, o)] }
  | addHandle : 0 < w.hub.outlet.handles → Step w .addHandle { w with
      hub := { w.hub with outlet := w.hub.outlet.addHandle } }
  | dropHandle : 0 < w.hub.outlet.handles → Step w .dropHandle { w with
      hub := w.hub.dropOutboundHandle, lost := w.lost ++ w.hub.outlet.dropHandle.2.1 }
  | cloneSpare : 0 < w.hub.outlet.channel.senders → Step w .cloneSpare { w with
      hub := w.hub.setOutbound
        { w.hub.outlet.channel with senders := w.hub.outlet.channel.senders + 1 }
      spare := w.spare + 1 }
  | dropSpare : 0 < w.spare → Step w .dropSpare { w with
      hub := w.hub.dropOutboundSender
      spare := w.spare - 1
      lost := w.lost ++ w.hub.outlet.channel.leave.orphans }
  | markRunning : Step w .markRunning { w with
      hub := { w.hub with lifecycle := w.hub.lifecycle.markRunning.2 } }
  | claimStop : Step w .claimStop { w with
      hub := { w.hub with lifecycle := w.hub.lifecycle.claimStop.2 } }
  | publish : w.hub.lifecycle.claimed = true → Step w .publish { w with
      hub := { w.hub with lifecycle := w.hub.lifecycle.publish } }
  | note {e} : Step w (.note e) { w with hub := w.hub.note e }

variable {w w' : Exchange} {m : Move}

/-- The function makes no other moves. -/
theorem step_cases (hs : step m w = some w') : Step w m w' := by
  cases m with
  | sending s =>
    simp only [step, Option.map_eq_some_iff] at hs
    obtain ⟨i, hi, rfl⟩ := hs
    exact .sending (Inlet.act_cases hi)
  | loop b =>
    simp only [step, Option.map_eq_some_iff] at hs
    obtain ⟨p, hp, rfl⟩ := hs
    exact .loop (Loop.step_cases hp)
  | take =>
    simp only [step, Option.ite_none_right_eq_some] at hs
    obtain ⟨hn, hs⟩ := hs
    split at hs
    · cases hs
      obtain ⟨rest, hq, rfl⟩ := Outlet.read_eq_message ‹_›
      exact .take hn hq
    · cases hs
  | shut | answer | addHandle | dropHandle | cloneSpare | dropSpare | publish =>
    simp only [step, Option.ite_none_right_eq_some, Option.some.injEq] at hs
    obtain ⟨hguard, rfl⟩ := hs
    constructor
    exact hguard
  | markRunning | claimStop | note =>
    cases hs
    constructor

/-- Senders keep the inbound channel what the position of the loop says. -/
theorem inflow_sending {i : Inlet} (hw : w.loop.Inflow) (hs : w.inlet.Step i) :
    (w.afterSending i).loop.Inflow :=
  have hr := hw.receiver
  have hc := hw.closed
  ⟨hs.guarded hw.guarded, hs.receiver_eq.trans hr, fun hp => hs.accepting_eq.trans (hc hp)⟩

/-- So does closing it before the loop runs. -/
theorem inflow_shut (hw : w.loop.Inflow) (hp : w.loop.position = .wired) :
    Loop.Inflow { w.loop with inbound := w.loop.inbound.close.2 } := by
  have hr := hw.receiver
  refine ⟨hw.guarded.close ?_, hr, fun _ => rfl⟩
  rw [hp] at hr
  exact hr

namespace Step

/-- Only the loop moves the loop and confirms a close. -/
theorem position_cases (hs : Step w m w') : (∃ b, m = .loop b) ∨
    w'.loop.position = w.loop.position ∧
      w'.hub.lifecycle.closed = w.hub.lifecycle.closed := by
  cases hs with
  | loop => exact .inl ⟨_, rfl⟩
  | markRunning => exact .inr ⟨rfl, Lifecycle.closed_markRunning _⟩
  | claimStop => exact .inr ⟨rfl, Lifecycle.closed_claimStop _⟩
  | sending | shut | take | answer | addHandle | dropHandle | cloneSpare | dropSpare | publish
  | note => exact .inr ⟨rfl, rfl⟩

/-- A close request is not taken back. -/
theorem closeRequested (hs : Step w m w') (hc : w.hub.lifecycle.closeRequested = true) :
    w'.hub.lifecycle.closeRequested = true := by
  cases hs with
  | loop hl => exact hl.leaves.closeRequested.trans hc
  | markRunning => exact (Lifecycle.closeRequested_markRunning _).trans hc
  | claimStop => exact (Lifecycle.closeRequested_claimStop _).trans hc
  | publish => rfl
  | sending | shut | take | answer | addHandle | dropHandle | cloneSpare | dropSpare | note =>
    exact hc

end Step

/-- The states of an exchange, from a loop that has not run. -/
abbrev Reachable (label : String) (slots spare : Nat) (w : Exchange) : Prop :=
  Reached step (start label slots spare) w

end Exchange
end Handoff

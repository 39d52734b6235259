import Handoff.Proofs.Answers
import Handoff.Proofs.Steady

/-!
# A run as an exchange

Seen from its loop, a run is an exchange with one sender, the producer, and one reader, the
consumer. Every move of a run is some moves of this exchange, so what holds of all exchanges holds
of runs. The slot that the producer takes is one that a sender has set aside, and the loop does not
end before it is used. `Tracks` is what makes these moves possible, whatever the writer does.
`Follows` adds what the consumer has written so far to a writer that never fails.
-/
namespace Handoff

namespace Exchange

variable {w : Exchange} {s : Sending} {i : Inlet}

theorem reached_sending (hs : w.inlet.act s = some i) : Reached step w (w.afterSending i) :=
  .single (.sending s) (by rw [step, hs]; rfl)

theorem reached_still (hs : w.inlet.act s = some i)
    (hq : i.channel.queue.length ≤ w.loop.inbound.queue.length) : Reached step w { w with
      loop := { w.loop with inbound := i.channel }
      hub := { w.hub with replies := i.replies }
      unsent := i.unsent } := by
  have hr := reached_sending hs
  have hd : w.inlet.admits i = [] := List.drop_eq_nil_of_le hq
  rwa [afterSending, hd, List.append_nil] at hr

/-- An act of a sender that has one transaction accepted. -/
theorem reached_entry {t : Transaction} (hs : w.inlet.act s = some i)
    (hq : i.channel.queue = w.loop.inbound.queue ++ [t]) : Reached step w { w with
      loop := { w.loop with inbound := i.channel }
      hub := { w.hub with replies := i.replies }
      unsent := i.unsent
      accepted := w.accepted ++ [t] } := by
  have hr := reached_sending hs
  have hd : w.inlet.admits i = [t] := by
    rw [Inlet.admits, hq]
    exact List.drop_left
  rwa [afterSending, hd] at hr

end Exchange

namespace Pipeline

namespace Producer

def unsent : Producer → List Transaction
  | .offering t | .sending t => [t]
  | _ => []

def inLine : Producer → List Transaction
  | .waiting t => [t]
  | _ => []

def senders : Producer → Nat
  | .done => 0
  | _ => 1

/-- The slots taken and not used yet. -/
def permits : Producer → Nat
  | .sending _ => 1
  | _ => 0

end Producer

namespace Consumer

def held : Consumer → List Transaction
  | .writing t => [t]
  | _ => []

/-- The outbound handles of the stage and of the reader of the run. -/
def handles : Consumer → Nat
  | .returned _ => 0
  | _ => 2

end Consumer

/-- Where the transactions of a run went. -/
structure Past where
  accepted : List Transaction := []
  placed : List Transaction := []
  refused : List Transaction := []
  lost : List Transaction := []
  returned : List (Transaction × Outcome) := []

/-- A loop with these histories among one sender and one reader. -/
def Past.exchange (past : Past) (loop : Loop) (hub : Hub) (unsent held : List Transaction) :
    Exchange where
  loop := loop
  hub := hub
  unsent := unsent
  held := held
  spare := 0
  accepted := past.accepted
  placed := past.placed
  refused := past.refused
  lost := past.lost
  taken := past.returned.map (·.1) ++ held
  returned := past.returned

namespace Past

variable {past : Past} {l : Loop} {h : Hub} {unsent held : List Transaction} {t : Transaction}
  {c : Channel Transaction}

theorem reached_note (e : Event) : Reached Exchange.step (past.exchange l h unsent held)
    (past.exchange l (h.note e) unsent held) := .single (.note e) rfl

theorem reached_discard : Reached Exchange.step (past.exchange l h [t] held)
    (past.exchange l (h.release [t]) [] held) :=
  Exchange.reached_still (w := past.exchange l h [t] held) (s := .discard t)
    (i := ⟨l.inbound, h.replies.release t.serial, []⟩)
    (by simp [Inlet.act, Exchange.inlet, exchange]) (Nat.le_refl _)

/-- The sender takes a slot for its transaction. -/
theorem reached_reserve (hn : 0 < l.inbound.senders)
    (hs : l.inbound.request t = (.accepted, c)) :
    Reached Exchange.step (past.exchange l h unsent held)
      (past.exchange { l with inbound := c } h unsent held) := by
  have hr := Channel.request_eq_accepted hs
  refine Exchange.reached_still (w := past.exchange l h unsent held) (s := .reserve)
    (i := ⟨c, h.replies, unsent⟩) ?_ ?_
  · rw [Inlet.act, Exchange.inlet, exchange, if_pos hn, hr]
  · obtain ⟨-, -, rfl⟩ := Channel.reserve_eq_accepted hr
    exact Nat.le_refl _

/-- The sender finds no slot and gets in line. -/
theorem reached_lineUp (hn : 0 < l.inbound.senders)
    (hr : l.inbound.request t = (.waits, c)) : Reached Exchange.step (past.exchange l h [t] held)
      (past.exchange { l with inbound := c } h [] held) := by
  have hs := Channel.request_eq_waits hr
  refine Exchange.reached_still (w := past.exchange l h [t] held) (s := .send t)
    (i := ⟨c, h.replies, []⟩) ?_ ?_
  · have ha : t ∈ [t] ∧ 0 < l.inbound.senders := ⟨List.mem_singleton_self t, hn⟩
    rw [Inlet.act, Exchange.inlet, exchange, if_pos ha, hs]
    simp only [List.erase_cons_head]
  · obtain ⟨-, -, rfl⟩ := Channel.send_eq_waits hs
    exact Nat.le_refl _

/-- The sender that was in line takes the slot promised to it. -/
theorem reached_claim (hd : l.inbound.claim? = some (t, c)) :
    Reached Exchange.step (past.exchange l h [] held)
      (past.exchange { l with inbound := c } h [t] held) := by
  obtain ⟨rest, hp, rfl⟩ := Channel.claim?_eq_some hd
  have hm : t ∈ l.inbound.promised := by
    rw [hp]
    exact List.mem_cons_self
  refine Exchange.reached_still (w := past.exchange l h [] held) (s := .keep t)
    (i := ⟨{ l.inbound with promised := rest, permits := l.inbound.permits + 1 }, h.replies, [t]⟩)
    ?_ (Nat.le_refl _)
  rw [Inlet.act, Exchange.inlet, exchange, if_pos hm, hp, List.erase_cons_head]
  rfl

/-- The sender puts its transaction into the slot that it took. -/
theorem reached_push (hp : 0 < l.inbound.permits) :
    Reached Exchange.step (past.exchange l h [t] held)
      (exchange { past with accepted := past.accepted ++ [t] }
        { l with inbound := l.inbound.spend t } h [] held) := by
  refine Exchange.reached_entry (w := past.exchange l h [t] held) (s := .spend t)
    (i := ⟨l.inbound.spend t, h.replies, []⟩) ?_ rfl
  have ha : t ∈ [t] ∧ 0 < l.inbound.permits := ⟨List.mem_singleton_self t, hp⟩
  rw [Inlet.act, Exchange.inlet, exchange, if_pos ha, List.erase_cons_head]

theorem reached_withdraw (ht : t ∈ l.inbound.line) :
    Reached Exchange.step (past.exchange l h [] held)
      (past.exchange { l with inbound := l.inbound.withdraw (· = t) } h [t] held) :=
  Exchange.reached_still (w := past.exchange l h [] held) (s := .withdraw t)
    (i := ⟨l.inbound.withdraw (· = t), h.replies, [t]⟩) (if_pos ht) (Nat.le_refl _)

theorem reached_leave (hs : 0 < l.inbound.senders) :
    Reached Exchange.step (past.exchange l h [] held)
      (past.exchange { l with inbound := l.inbound.leave.sweep }
        (h.release l.inbound.leave.orphans) [] held) := by
  exact Exchange.reached_still (w := past.exchange l h [] held) (s := .leave)
    (i := ⟨l.inbound.leave.sweep, h.replies.releaseAll l.inbound.leave.orphans, []⟩)
    (if_pos hs) (Channel.length_queue_sweep_le l.inbound.leave)

theorem step_take {o : Outlet} (hn : 0 < h.outlet.handles)
    (hr : h.outlet.read = (.message t, o)) :
    Exchange.step .take (past.exchange l h unsent []) =
      some (past.exchange l { h with outlet := o } unsent [t]) := by
  rw [Exchange.step, exchange, if_pos hn, hr]
  simp only [exchange, List.append_nil, List.nil_append]

theorem step_answer (o : Outcome) :
    Exchange.step (.answer t o) (past.exchange l h unsent [t]) =
      some (exchange { past with returned := past.returned ++ [(t, o)] } l (h.answer t o)
        unsent []) := by
  rw [Exchange.step, exchange, if_pos (List.mem_singleton_self t)]
  simp [exchange]

theorem reached_requestClose : Reached Exchange.step (past.exchange l h unsent held)
    (past.exchange l h.requestClose.2 unsent held) := by
  rcases hw : h.lifecycle.claimStop with ⟨won, k⟩
  have hclaim : Reached Exchange.step (past.exchange l h unsent held)
      (past.exchange l { h with lifecycle := k } unsent held) :=
    .single .claimStop (by simp [Exchange.step, exchange, hw])
  simp only [Hub.requestClose, Lifecycle.requestClose, hw]
  cases won with
  | false => exact hclaim
  | true =>
    have hc : k.claimed = true := by
      unfold Lifecycle.claimStop at hw
      split at hw <;> cases hw
      rfl
    have hpublish : Reached Exchange.step (past.exchange l { h with lifecycle := k } unsent held)
        (past.exchange l { h with lifecycle := k.publish } unsent held) :=
      .single .publish (if_pos hc)
    exact (hclaim.trans hpublish).trans (reached_note .closeRequested)

theorem reached_dropHandle (hn : 0 < h.outlet.handles) :
    Reached Exchange.step (past.exchange l h unsent held)
      (exchange { past with lost := past.lost ++ h.outlet.dropHandle.2.1 } l h.dropOutboundHandle
        unsent held) :=
  .single .dropHandle (if_pos hn)

/-- Both handles go, the last one after a close request. -/
theorem reached_finish (hn : h.outlet.handles = 2) :
    ∃ lost, Reached Exchange.step (past.exchange l h unsent held)
      (exchange { past with lost } l h.dropOutboundHandle.requestClose.2.dropOutboundHandle
        unsent held) := by
  have hfirst : Reached Exchange.step (past.exchange l h unsent held) _ :=
    reached_dropHandle (show 0 < h.outlet.handles by omega)
  have hone : 0 < h.dropOutboundHandle.requestClose.2.outlet.handles := by
    rw [Hub.outlet_requestClose, Hub.handles_dropOutboundHandle, hn]
    exact Nat.one_pos
  exact ⟨_, (hfirst.trans reached_requestClose).trans (reached_dropHandle hone)⟩

end Past

namespace Run

def exchange (r : Run) (past : Past) : Exchange :=
  past.exchange r.loop r.hub r.producer.unsent r.consumer.held

/-- What a run has that keeps to its exchange: one sending handle until the producer is done, a slot
set aside while the producer is about to use it, in line the transaction the producer waits with
unless that was turned away, and two outbound handles until the run returns. -/
structure Tracks (r : Run) (past : Past) : Prop where
  conduct : r.buffer.conduct = .passThrough
  senders : r.inbound.senders = r.producer.senders
  permits : r.inbound.permits = r.producer.permits
  line : r.inbound.line = r.producer.inLine ∨ (r.inbound.line = [] ∧
    r.inbound.accepting = false ∧
      ∀ t ∈ r.producer.inLine, (r.hub.replies.outcome t.serial).isSome)
  handles : r.hub.outlet.handles = r.consumer.handles

/-- Everything was written that was answered. -/
structure Follows (before : Bytes) (r : Run) (past : Past) : Prop extends Tracks r past where
  neverFails : r.writer.NeverFails
  output : r.writer.output = before ++ past.returned.flatMap (·.1.payload.written)
  delivered : r.summary.delivered = past.returned.length
  answers : ∀ p ∈ past.returned, p.2 = .delivered

variable {r r' : Run} {m : Move} {past : Past} {before : Bytes}
  {given : List (Transaction × Outcome)}

theorem stop_eq (hb : r.buffer.conduct = .passThrough) :
    ∃ calls, r.stop = { r with hub := r.hub.requestClose.2, calls } := by
  rw [stop]
  obtain ⟨calls, hc⟩ := r.count_eq fun c => { c with stops := c.stops + 1 }
  rw [hc]
  simp only [hb]
  exact ⟨calls, rfl⟩

theorem stop_count_eq (hb : r.buffer.conduct = .passThrough) (f : Calls → Calls) :
    ∃ calls, r.stop.count f = { r with hub := r.hub.requestClose.2, calls } := by
  obtain ⟨stops, hs⟩ := stop_eq hb
  obtain ⟨calls, hc⟩ := r.stop.count_eq f
  exact ⟨calls, by rw [hc, hs]⟩

/-- The exchange makes the move of the run, and the consumer answers with it what is given. -/
def Simulates (r : Run) (past : Past) (r' : Run) (given : List (Transaction × Outcome)) : Prop :=
  ∃ past', past'.accepted = past.accepted ++ r'.inbound.queue.drop r.inbound.queue.length ∧
    past'.returned = past.returned ++ given ∧
      Reached Exchange.step (r.exchange past) (r'.exchange past') ∧ Tracks r' past'

theorem Simulates.of_still (past' : Past) (ha : past'.accepted = past.accepted)
    (hg : past'.returned = past.returned ++ given)
    (hq : r'.inbound.queue.length ≤ r.inbound.queue.length)
    (hr : Reached Exchange.step (r.exchange past) (r'.exchange past'))
    (ht : Tracks r' past') : Simulates r past r' given := by
  refine ⟨past', ?_, hg, hr, ht⟩
  rw [ha, List.drop_eq_nil_of_le hq, List.append_nil]

/-- The histories of the run stay as they are. -/
theorem Simulates.of_same (hq : r'.inbound.queue.length ≤ r.inbound.queue.length)
    (hr : Reached Exchange.step (r.exchange past) (r'.exchange past))
    (ht : Tracks r' past) : Simulates r past r' [] :=
  .of_still past rfl (List.append_nil _).symm hq hr ht

namespace Tracks

theorem note (ht : Tracks r past) (e : Event) : Tracks (r.note e) past :=
  { ht with }

/-- What a producer has of inbound at this place. -/
theorem owns {p : Producer} (ht : Tracks r past) (hp : r.producer = p) :
    r.inbound.senders = p.senders ∧ r.inbound.permits = p.permits := by
  subst hp
  exact ⟨ht.senders, ht.permits⟩

/-- Elsewhere than in line it leaves the line empty. -/
theorem owns_out_of_line {p : Producer} (ht : Tracks r past) (hp : r.producer = p)
    (hn : p.inLine = []) : r.inbound.senders = p.senders ∧ r.inbound.permits = p.permits ∧
      r.inbound.line = [] := by
  obtain ⟨hs, hm⟩ := ht.owns hp
  refine ⟨hs, hm, ?_⟩
  rcases ht.line with hl | ⟨hl, -⟩
  · rw [hl, hp, hn]
  · exact hl

/-- The producer ends, and has nothing to send. -/
theorem leave (ht : Tracks r past) (hp : r.producer = .reading) :
    Reached Exchange.step (r.exchange past) (r.endProducer.exchange past) ∧
      Tracks r.endProducer past := by
  obtain ⟨hs, hm, hl⟩ := ht.owns_out_of_line hp rfl
  refine ⟨?_, { ht with
    senders := ?_
    permits := (Channel.permits_sweep _).trans hm
    line := .inl ((Channel.line_sweep _).trans hl) }⟩
  · rw [exchange, hp]
    exact Past.reached_leave (by rw [show r.loop.inbound.senders = 1 from hs]; exact Nat.one_pos)
  · show r.inbound.leave.sweep.senders = 0
    rw [Channel.senders_sweep, Channel.leave, hs]
    rfl

/-- The producer ends, after moves by which it let go of what it had. -/
theorem endProducer {r₀ : Run} (ht : Tracks r₀ past) (hp : r₀.producer = .reading)
    (hr : Reached Exchange.step (r.exchange past) (r₀.exchange past))
    (hq : r₀.inbound.queue.length ≤ r.inbound.queue.length) :
    Simulates r past r₀.endProducer [] :=
  have ⟨hleave, ht'⟩ := ht.leave hp
  .of_same (Nat.le_trans (Channel.length_queue_sweep_le r₀.inbound.leave) hq) (hr.trans hleave) ht'

theorem finishProducer {r₀ : Run} (ht : Tracks r₀ past) (hp : r₀.producer = .reading)
    (hr : Reached Exchange.step (r.exchange past) (r₀.exchange past))
    (hq : r₀.inbound.queue.length ≤ r.inbound.queue.length) :
    Simulates r past r₀.finishProducer [] :=
  (ht.note .producerFinished).endProducer hp
    (hr.trans (Past.reached_note .producerFinished)) hq

theorem discard {t : Transaction} (ht : Tracks r past) (hp : r.producer = .offering t) :
    Reached Exchange.step (r.exchange past)
        ({ r with hub := r.hub.release [t], producer := .reading }.exchange past) ∧
      Tracks { r with hub := r.hub.release [t], producer := .reading } past := by
  obtain ⟨hs, hm, hl⟩ := ht.owns_out_of_line hp rfl
  refine ⟨?_, { ht with senders := hs, permits := hm, line := .inl hl }⟩
  rw [exchange, hp]
  exact Past.reached_discard

/-- A producer in line leaves it, or was turned away before. -/
theorem withdraw {t : Transaction} (ht : Tracks r past) (hp : r.producer = .waiting t) :
    Reached Exchange.step (r.exchange past)
        ({ r.setInbound (r.inbound.withdraw (· = t)) with
          hub := r.hub.release [t], producer := .reading }.exchange past) ∧
      Tracks { r.setInbound (r.inbound.withdraw (· = t)) with
        hub := r.hub.release [t], producer := .reading } past := by
  obtain ⟨hs, hm⟩ := ht.owns hp
  have hline := ht.line
  rw [hp] at hline
  have hl : (r.inbound.withdraw (· = t)).line = [] := by
    rw [Channel.line_withdraw]
    rcases hline with hl | ⟨hl, -⟩
    · rw [hl]
      simp [Producer.inLine]
    · rw [hl]
      rfl
  refine ⟨?_, { ht with senders := hs, permits := hm, line := .inl hl }⟩
  rw [exchange, hp]
  rcases hline with hl | ⟨hl, -, ho⟩
  · have hm : t ∈ r.loop.inbound.line := by
      rw [show r.loop.inbound.line = [t] from hl]
      exact List.mem_singleton_self t
    exact (Past.reached_withdraw hm).trans Past.reached_discard
  -- turned away before: the transaction has its outcome, and letting go of it changes nothing
  · have hw : r.inbound.withdraw (· = t) = r.inbound := Channel.withdraw_of_line_nil hl _
    have hr : r.hub.release [t] = r.hub := Hub.release_of_settled (ho t (List.mem_singleton_self t))
    rw [hw, hr]
    exact .start

theorem claim_cases {t u : Transaction} {c : Channel Transaction} (ht : Tracks r past)
    (hp : r.producer = .waiting t) (hd : r.inbound.claim? = some (u, c)) :
    u = t ∧ c.line = [] ∧ c = { r.inbound with
      promised := c.promised, permits := r.inbound.permits + 1 } := by
  have hline := ht.line
  obtain ⟨rest, hq, rfl⟩ := Channel.claim?_eq_some hd
  rw [hp, Channel.line, hq] at hline
  rcases hline with hl | ⟨hl, -⟩
  · obtain ⟨rfl, hrest⟩ := List.cons.inj hl
    exact ⟨rfl, hrest, rfl⟩
  · cases hl

/-- The producer uses its slot, whatever has become of the loop since it took it. -/
theorem push {t : Transaction} (ht : Tracks r past) (hp : r.producer = .sending t) :
    Reached Exchange.step (r.exchange past)
        ((r.push t).exchange { past with accepted := past.accepted ++ [t] }) ∧
      Tracks (r.push t) { past with accepted := past.accepted ++ [t] } := by
  obtain ⟨hs, hm, hl⟩ := ht.owns_out_of_line hp rfl
  refine ⟨?_, { ht with senders := hs, permits := congrArg Nat.pred hm, line := .inl hl }⟩
  rw [exchange, hp]
  exact Past.reached_push (Nat.lt_of_lt_of_eq Nat.one_pos hm.symm)

/-- Who is not in line any more was turned away. -/
theorem turned_away {t : Transaction} (ht : Tracks r past) (hp : r.producer = .waiting t)
    (ha : r.inbound.awaits (· = t) = false) :
    r.inbound.line = [] ∧ r.inbound.accepting = false ∧
      (r.hub.replies.outcome t.serial).isSome := by
  have hline := ht.line
  rw [hp] at hline
  rcases hline with hl | ⟨hl, hc, ho⟩
  · simp [Channel.awaits_eq_any_line, hl, Producer.inLine] at ha
  · exact ⟨hl, hc, ho t (List.mem_singleton_self t)⟩

/-- The slot kept the receiving side, so what was put into it stays in the queue. -/
theorem queue_cancelSend {t : Transaction} (ht : Tracks r past) (hw : (r.exchange past).Steady)
    (hp : r.producer = .sending t) :
    (r.push t).endProducer.inbound.queue = r.inbound.queue ++ [t] := by
  obtain ⟨-, hm⟩ := ht.owns hp
  have hreceiver : r.inbound.receiver = true :=
    hw.inflow.guarded.receiver_of_permits (Nat.lt_of_lt_of_eq Nat.one_pos hm.symm)
  exact congrArg Channel.queue
    (Channel.sweep_of_receiver (c := (r.inbound.spend t).leave) hreceiver).1

theorem produce (ht : Tracks r past) (hw : (r.exchange past).Steady) (hs : Produces r r') :
    Simulates r past r' [] := by
  cases hs with
  | read hp hn =>
    obtain ⟨hsenders, hpermits, hl⟩ := ht.owns_out_of_line hp rfl
    refine .of_same (Nat.le_refl _) ?_
      { ht with senders := hsenders, permits := hpermits, line := .inl hl }
    rw [exchange, hp]
    exact Exchange.reached_still (s := .issue (.ofBytes _)) rfl (Nat.le_refl _)
  | endInput hp => exact ht.finishProducer hp .start (Nat.le_refl _)
  | failInput hp => exact (ht.note _).finishProducer hp (Past.reached_note _) (Nat.le_refl _)
  | @reserve t c hp hc =>
    obtain ⟨hsenders, hpermits, hl⟩ := ht.owns_out_of_line hp rfl
    have hr : Reached Exchange.step (r.exchange past)
        ({ r.setInbound c with producer := .sending t }.exchange past) := by
      rw [exchange, hp]
      exact Past.reached_reserve (Nat.lt_of_lt_of_eq Nat.one_pos hsenders.symm) hc
    obtain ⟨-, -, rfl⟩ := Channel.reserve_eq_accepted (Channel.request_eq_accepted hc)
    exact .of_same (Nat.le_refl _) hr
      { ht with senders := hsenders, permits := congrArg Nat.succ hpermits, line := .inl hl }
  | @lineUp t c hp hc =>
    obtain ⟨hsenders, hpermits, hl⟩ := ht.owns_out_of_line hp rfl
    have hr : Reached Exchange.step (r.exchange past)
        ({ r.setInbound c with producer := .waiting t }.exchange past) := by
      rw [exchange, hp]
      exact Past.reached_lineUp (Nat.lt_of_lt_of_eq Nat.one_pos hsenders.symm) hc
    obtain ⟨-, -, rfl⟩ := Channel.send_eq_waits (Channel.request_eq_waits hc)
    refine .of_same (Nat.le_refl _) hr
      { ht with senders := hsenders, permits := hpermits, line := .inl ?_ }
    show r.inbound.promised ++ (r.inbound.waiting ++ [t]) = [t]
    rw [← List.append_assoc]
    exact congrArg (· ++ [t]) hl
  | @refuse t hp =>
    obtain ⟨hr, ht'⟩ := ht.discard hp
    exact (ht'.note .inboundRefused).finishProducer rfl (hr.trans (Past.reached_note _))
      (Nat.le_refl _)
  | @claim t u c hp hd =>
    obtain ⟨hsenders, hpermits⟩ := ht.owns hp
    obtain ⟨rfl, hl, hc⟩ := ht.claim_cases hp hd
    have hr : Reached Exchange.step (r.exchange past)
        ({ r.setInbound c with producer := .sending u }.exchange past) := by
      rw [exchange, hp]
      exact Past.reached_claim hd
    rw [hc] at hr hl ⊢
    exact .of_same (Nat.le_refl _) hr
      { ht with senders := hsenders, permits := congrArg Nat.succ hpermits, line := .inl hl }
  | @turnAway t hp ha =>
    obtain ⟨hsenders, hpermits⟩ := ht.owns hp
    obtain ⟨hl, -, ho⟩ := ht.turned_away hp ha
    have hr : r.hub.release [t] = r.hub := Hub.release_of_settled ho
    have ht' : Tracks { r with
        hub := (r.hub.release [t]).note .inboundRefused, producer := .reading } past := by
      rw [hr]
      exact { ht with senders := hsenders, permits := hpermits, line := .inl hl }
    refine ht'.finishProducer rfl ?_ (Nat.le_refl _)
    rw [hr, exchange, hp]
    exact Past.reached_note _
  | @push t hp =>
    obtain ⟨hr, ht'⟩ := ht.push hp
    exact ⟨{ past with accepted := past.accepted ++ [t] },
      congrArg (past.accepted ++ ·) List.drop_left.symm, (List.append_nil _).symm, hr, ht'⟩
  | cancel hp => exact ht.endProducer hp .start (Nat.le_refl _)
  | cancelOffer hp =>
    obtain ⟨hr, ht'⟩ := ht.discard hp
    exact ht'.endProducer rfl hr (Nat.le_refl _)
  | cancelWait hp =>
    obtain ⟨hr, ht'⟩ := ht.withdraw hp
    exact ht'.endProducer rfl hr (Nat.le_refl _)
  | @cancelSend t hp =>
    obtain ⟨hr, ht'⟩ := ht.push hp
    obtain ⟨hleave, ht''⟩ := ht'.leave rfl
    refine ⟨{ past with accepted := past.accepted ++ [t] }, ?_, (List.append_nil _).symm,
      hr.trans hleave, ht''⟩
    rw [ht.queue_cancelSend hw hp, List.drop_left]

theorem loop {b : Branch} {l : Loop} {h : Hub} (ht : Tracks r past)
    (hw : (r.exchange past).Steady) (hs : r.loop.step b r.hub = some (l, h)) :
    Simulates r past { r with loop := l, hub := h } [] := by
  have hstep := Loop.step_cases hs
  have hleaves := hstep.leaves
  refine .of_still { past with
      placed := past.placed ++ r.loop.places
      refused := past.refused ++ r.loop.answers
      lost := past.lost ++ r.loop.strands r.hub } rfl (List.append_nil _).symm hleaves.queue
    (.single (.loop b) ?_)
    { ht with
      senders := hleaves.senders.trans ht.senders
      permits := hleaves.permits.trans ht.permits
      line := ?_
      handles := hleaves.handles.trans ht.handles }
  · show (r.loop.step b r.hub).map _ = _
    rw [hs]
    rfl
  rcases hstep.line_cases hw.inflow.guarded with hl | ⟨hl, hclosed, hreplies⟩
  · refine ht.line.imp hl.trans fun ⟨hn, ha, ho⟩ => ⟨hl.trans hn, hleaves.closed ha, fun t hm => ?_⟩
    exact hleaves.replies.isSome (ho t hm)
  -- the loop closed inbound, and whoever was in line is answered
  · refine .inr ⟨hl, hclosed, fun t hm => ?_⟩
    rcases ht.line with hold | ⟨-, -, ho⟩
    · have hm' : t ∈ r.loop.inbound.line := by
        rw [show r.loop.inbound.line = _ from hold]
        exact hm
      have hi : t.serial < r.hub.replies.next := by
        refine hw.sound.issued t (List.mem_append_left _ ?_)
        simp [Custody.pending, Exchange.custody, exchange, Past.exchange, hm']
      show (h.replies.outcome t.serial).isSome
      rw [hreplies]
      exact Replies.isSome_releaseAll hm' hi
    · exact hleaves.replies.isSome (ho t hm)

/-- The consumer changes nothing about the producer, and outcomes that are known stay. -/
theorem line_of_keeps (ht : Tracks r past) {rs : Replies} (hk : r.hub.replies.Keeps rs) :
    r.inbound.line = r.producer.inLine ∨ (r.inbound.line = [] ∧
      r.inbound.accepting = false ∧
        ∀ t ∈ r.producer.inLine, (rs.outcome t.serial).isSome) :=
  ht.line.imp_right fun ⟨hl, ha, ho⟩ => ⟨hl, ha, fun t hm => hk.isSome (ho t hm)⟩

/-- The run returns, after moves that took nothing from the consumer. -/
theorem finish {r₀ : Run} (ht : Tracks r₀ past) (hh : r₀.consumer.held = [])
    (hn : r₀.consumer.handles = 2) (hr : Reached Exchange.step (r.exchange past) (r₀.exchange past))
    (hq : r₀.inbound.queue.length ≤ r.inbound.queue.length) (result : Except Failure Summary) :
    Simulates r past (r₀.finish result) [] := by
  have hhandles := ht.handles.trans hn
  have hhub : (r₀.finish result).hub =
      r₀.hub.dropOutboundHandle.requestClose.2.dropOutboundHandle := by
    simp only [Run.finish, leaveStage, ht.conduct]
  have hkeeps : r₀.hub.replies.Keeps (r₀.finish result).hub.replies := by
    have hfirst := Hub.replies_dropOutboundHandle r₀.hub
    have hlast := Hub.replies_dropOutboundHandle r₀.hub.dropOutboundHandle.requestClose.2
    rw [Hub.replies_requestClose] at hlast
    rw [hhub]
    exact hfirst.trans hlast
  obtain ⟨lost, hreturn⟩ : ∃ lost, Reached Exchange.step
      (past.exchange r₀.loop r₀.hub r₀.producer.unsent []) _ := Past.reached_finish hhandles
  refine .of_still { past with lost } rfl (List.append_nil _).symm hq (hr.trans ?_)
    { ht with
      line := ht.line_of_keeps hkeeps
      handles := ?_ }
  · rw [exchange, hh, exchange, hhub]
    exact hreturn
  · show (r₀.finish result).hub.outlet.handles = 0
    rw [hhub, Hub.handles_dropOutboundHandle, Hub.outlet_requestClose,
      Hub.handles_dropOutboundHandle, hhandles]

theorem finish_after_note (ht : Tracks r past) (hh : r.consumer.held = [])
    (hn : r.consumer.handles = 2) (e : Event) (result : Except Failure Summary) :
    Simulates r past ((r.note e).finish result) [] :=
  have hr : Reached Exchange.step (r.exchange past) ((r.note e).exchange past) :=
    Past.reached_note e
  (ht.note e).finish hh hn hr (Nat.le_refl _) result

theorem requestClose (ht : Tracks r past) :
    Tracks { r with hub := r.hub.requestClose.2 } past :=
  { ht with
    line := ht.line_of_keeps (by rw [Hub.replies_requestClose]; exact .refl _)
    handles := (congrArg Outlet.handles (Hub.outlet_requestClose _)).trans ht.handles }

/-- The consumer goes on with the same transaction and the same handles. -/
theorem setConsumer {k : Consumer} {cancelRequested : Bool} (ht : Tracks r past)
    (hh : k.held = r.consumer.held) (hn : k.handles = r.consumer.handles) :
    Simulates r past { r with consumer := k, cancelRequested } [] := by
  refine .of_same (Nat.le_refl _) ?_ { ht with handles := ht.handles.trans hn.symm }
  show Reached Exchange.step _ (past.exchange r.loop r.hub r.producer.unsent k.held)
  rw [hh]
  exact .start

/-- The transaction that the consumer wrote is answered. -/
theorem answer {r₀ : Run} {t : Transaction} (ht : Tracks r₀ past) (hp : r₀.consumer = .writing t)
    (hr : Reached Exchange.step (r.exchange past) (r₀.exchange past))
    (hq : r₀.inbound.queue.length ≤ r.inbound.queue.length) (o : Outcome) {writer : Writer}
    {summary : Summary} : Simulates r past { r₀ with
      writer, hub := r₀.hub.answer t o, summary, consumer := .selecting } [(t, o)] := by
  have hhandles := ht.handles
  rw [hp] at hhandles
  refine .of_still { past with returned := past.returned ++ [(t, o)] } rfl rfl hq (hr.trans ?_)
    { ht with
      line := ht.line_of_keeps (.answer ..)
      handles := hhandles }
  rw [exchange, hp]
  exact .single (.answer t o) (Past.step_answer _)

/-- Every move of the consumer is some moves of the reader and of those who stop the stage. -/
theorem consume (ht : Tracks r past) (hs : Consumes r r') (ha : Answered r r' given) :
    Simulates r past r' given := by
  have hhandles := ht.handles
  have hnone : (∀ t, r.consumer ≠ .writing t) → given = [] := fun hn =>
    ha.unique (hs.answered hn)
  cases hs with
  | @take t outlet hp hr =>
    rw [hnone (by rw [hp]; nofun)]
    rw [hp] at hhandles
    have hn : 0 < r.hub.outlet.handles := Nat.lt_of_lt_of_eq Nat.two_pos hhandles.symm
    have ho : outlet.handles = r.hub.outlet.handles := by
      obtain ⟨rest, -, rfl⟩ := Outlet.read_eq_message hr
      rfl
    refine .of_same (Nat.le_refl _) (.single .take ?_) { ht with handles := ho.trans hhandles }
    rw [exchange, hp]
    exact Past.step_take hn hr
  | findEnd hp | flush hp | askCancel hp =>
    rw [hnone (by rw [hp]; nofun)]
    exact ht.setConsumer (by rw [hp]; rfl) (by rw [hp]; rfl)
  | @write t writer hp hw =>
    rw [ha.unique (.delivered hp rfl hw rfl)]
    exact ht.answer hp .start (Nat.le_refl _) .delivered
  | @failWrite t text writer hp hw =>
    rw [ha.unique (.rejected hp rfl hw rfl)]
    have hr : Reached Exchange.step (r.exchange past) ((r.note (.writeFailed text)).exchange past) :=
      Past.reached_note _
    exact (ht.note _).answer hp hr (Nat.le_refl _) (.rejected text)
  | failFlush hp =>
    rw [hnone (by rw [hp]; nofun)]
    exact ht.finish (by rw [hp]; rfl) (by rw [hp]; rfl) .start (Nat.le_refl _) _
  | stop hp =>
    rw [hnone (by rw [hp]; nofun)]
    rw [hp] at hhandles
    obtain ⟨calls, hc⟩ := stop_count_eq ht.conduct fun c => { c with waits := c.waits + 1 }
    rw [hc]
    have ht' := ht.requestClose
    refine .of_same (Nat.le_refl _) ?_ { ht' with handles := ht'.handles.trans ?_ }
    · rw [exchange, hp]
      exact Past.reached_requestClose
    · rw [hp]
      rfl
  | confirm hp | expire hp =>
    rw [hnone (by rw [hp]; nofun)]
    exact ht.finish_after_note (by rw [hp]; rfl) (by rw [hp]; rfl) _ _
  | interrupt hp =>
    rw [hnone (by rw [hp]; nofun)]
    obtain ⟨calls, hc⟩ := stop_eq (r := { r.note .shutdownReceived with
      summary := { r.summary with interrupted := true } }) ht.conduct
    rw [hc]
    exact .of_same (Nat.le_refl _)
      ((Past.reached_note .shutdownReceived).trans Past.reached_requestClose)
      { (ht.note .shutdownReceived).requestClose with }

/-- Every move of a run is simulated by its exchange. -/
theorem step (ht : Tracks r past) (hw : (r.exchange past).Steady) (hs : r.step m = some r') :
    Simulates r past r' (r.answers m) := by
  have ha := answered_of_step hs
  cases step_cases hs with
  | arrive | signal | learn =>
    rw [ha.unique (.of_still rfl rfl rfl)]
    exact .of_same (Nat.le_refl _) .start { ht with }
  | report =>
    rw [ha.unique (.of_still rfl rfl rfl)]
    exact .of_same (Nat.le_refl _) (Past.reached_note _) { ht with }
  | loop hl =>
    rw [ha.unique (.of_still rfl rfl rfl)]
    exact ht.loop hw hl
  | produce hp =>
    rw [ha.unique (.of_still hp.writer_eq hp.leaves.summary hp.leaves.consumer)]
    exact ht.produce hw hp
  | consume hc => exact ht.consume hc ha

end Tracks

/-- A run with a writer that never fails writes and delivers whatever it answers. -/
theorem Follows.step (hf : Follows before r past) (hw : (r.exchange past).Steady)
    (hs : r.step m = some r') :
    ∃ past', past'.accepted = past.accepted ++ r'.inbound.queue.drop r.inbound.queue.length ∧
      Reached Exchange.step (r.exchange past) (r'.exchange past') ∧ Follows before r' past' := by
  obtain ⟨past', haccepted, hreturned, hr, ht⟩ := hf.toTracks.step hw hs
  refine ⟨past', haccepted, hr, ?_⟩
  have ha := answered_of_step hs
  generalize r.answers m = given at ha hreturned
  cases ha with
  | none hwriter hcount =>
    rw [List.append_nil] at hreturned
    exact
      { ht with
        neverFails := by rw [hwriter]; exact hf.neverFails
        output := by rw [hwriter, hreturned]; exact hf.output
        delivered := by rw [hcount, hreturned]; exact hf.delivered
        answers := by rw [hreturned]; exact hf.answers }
  | @delivered t _ _ hwrite hcount =>
    obtain ⟨w, hwrite', htakes⟩ := Writer.writeMessage_takes hf.neverFails t.payload
    obtain rfl : w = r'.writer := (Prod.ext_iff.mp (hwrite'.symm.trans hwrite)).2
    refine
      { ht with
        neverFails := htakes.neverFails_iff.mpr hf.neverFails
        output := ?_
        delivered := ?_
        answers := ?_ }
    · rw [htakes.output, hf.output, hreturned]
      simp
    · rw [hcount, hf.delivered, hreturned, List.length_append]
      rfl
    · intro p hp
      rw [hreturned] at hp
      rcases List.mem_append.mp hp with hp | hp
      · exact hf.answers p hp
      · obtain rfl := List.mem_singleton.mp hp
        rfl
  | @rejected t text _ _ hwrite =>
    obtain ⟨w, hwrite', -⟩ := Writer.writeMessage_takes hf.neverFails t.payload
    cases (Prod.ext_iff.mp (hwrite'.symm.trans hwrite)).1

end Run
end Pipeline
end Handoff

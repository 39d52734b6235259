import Handoff.Proofs.Ending
import Handoff.Proofs.Reading

/-!
# How a run comes to return

A consumer reads until it finds the end of the outbound channel. Only after that it asks the
producer to go away and the stage to close. So a loop that leaves while the consumer still reads
leaves for the shutdown signal or because its input has ended, and in the second case the producer
has ended by itself. `Returning` carries what is known then from the move that makes the loop leave
to the return: for one thing, that every line was accepted and taken.
-/
namespace Handoff.Pipeline

namespace Consumer

/-- The consumer has not found the end of the outbound channel. -/
def reads : Consumer → Bool
  | .selecting | .writing _ => true
  | _ => false

/-- The consumer has asked the producer to go away, unless the run failed before. -/
def hasCancelled : Consumer → Bool
  | .stopping | .waiting | .returned _ => true
  | _ => false

/-- The consumer has stopped the stage after the end of the outbound channel. -/
def hasStopped : Consumer → Bool
  | .waiting | .returned _ => true
  | _ => false

end Consumer

namespace Run

/-- Every line was accepted, and the consumer has taken all of them. -/
structure Complete (lines : List Bytes) (r : Run) (past : Past) : Prop where
  exhausted : (r.exchange past).Exhausted
  accepted : past.accepted = numbered 0 lines

/-- A consumer that has found the end of the outbound channel has taken what was placed, and the
run returns what it has counted. -/
structure Draining (r : Run) (past : Past) : Prop where
  drained : r.consumer.reads = false → (r.exchange past).Drained
  result : ∀ s, r.consumer = .returned (.ok s) → s = r.summary

/-- What is full when the loop leaves for the end of its input is full when the run returns. -/
structure Returning (full : Run → Past → Prop) (r : Run) (past : Past) : Prop
    extends Draining r past where
  accepts : r.loop.position.accepts = true → r.inbound.accepting = true
  cancels : r.cancelRequested = true → r.consumer.hasCancelled = true
  stops : r.hub.lifecycle.closeRequested = true →
    r.summary.interrupted = true ∨ r.consumer.hasStopped = true
  leaves : r.loop.position.stays = false → r.hub.lifecycle.closeRequested = true ∨
    r.consumer.handles = 0 ∨ full r past
  complete : r.consumer.reads = false → r.summary.interrupted = true ∨ full r past

variable {r r' : Run} {past past' : Past} {lines : List Bytes} {full : Run → Past → Prop}

theorem Consumes.handles_eq (hs : Consumes r r') : r.consumer.handles = 2 := by
  cases hs with
  | take hp | findEnd hp | write hp | failWrite hp | flush hp | failFlush hp | askCancel hp
  | stop hp | confirm hp | interrupt hp | expire hp =>
    rw [hp]
    rfl

/-- No consumer that returned makes a move. -/
theorem not_consumes {result : Except Failure Summary} (hc : r.consumer = .returned result) :
    ¬ Consumes r r' := by
  intro hs
  have hn := hs.handles_eq
  rw [hc] at hn
  cases hn

theorem Complete.later (hc : Complete lines r past) (hw : (r.exchange past).Steady)
    (hr : Reached Exchange.step (r.exchange past) (r'.exchange past')) :
    Complete lines r' past' := by
  obtain ⟨-, he, ha⟩ := hc.exhausted.later hw hr
  exact ⟨he, Eq.trans ha hc.accepted⟩

/-- While the consumer reads it holds its handle, so the end that it finds is the end of the loop. -/
theorem Tracks.drained_of_ended (ht : Tracks r past) (hw : (r.exchange past).Steady)
    (hp : r.consumer = .selecting) (he : r.hub.outlet.read.1 = .ended) :
    (r.exchange past).Drained := by
  have hhandles := ht.handles
  refine hw.drained_of_ended ?_ he
  show 0 < r.hub.outlet.handles
  rw [hhandles, hp]
  exact Nat.two_pos

namespace Draining

/-- A move after which the consumer is where it was. -/
theorem of_still (h : Draining r past)
    (hr : Reached Exchange.step (r.exchange past) (r'.exchange past'))
    (hconsumer : r'.consumer = r.consumer) (hsummary : r'.summary = r.summary) :
    Draining r' past' where
  drained := by
    rw [hconsumer]
    exact fun hc => (h.drained hc).later hr
  result := by
    rw [hconsumer, hsummary]
    exact h.result

theorem consume (h : Draining r past) (ht : Tracks r past) (hw : (r.exchange past).Steady)
    (hr : Reached Exchange.step (r.exchange past) (r'.exchange past')) (hs : Consumes r r') :
    Draining r' past' := by
  have hdrained := h.drained
  have later (hreads : r.consumer.reads = false) : (r'.exchange past').Drained :=
    (hdrained hreads).later hr
  cases hs with
  | take | write | failWrite => exact ⟨nofun, nofun⟩
  | findEnd hp he => exact ⟨fun _ => (ht.drained_of_ended hw hp he).later hr, nofun⟩
  | flush hp | askCancel hp | failFlush hp | expire hp =>
    exact ⟨fun _ => later (by rw [hp]; rfl), nofun⟩
  | stop hp => exact ⟨fun _ => later (by rw [hp]; rfl), nofun⟩
  | confirm hp =>
    refine ⟨fun _ => later (by rw [hp]; rfl), fun s hs => ?_⟩
    cases hs
    rfl
  | interrupt hp =>
    obtain ⟨calls, hc⟩ := stop_eq (r := { r.note .shutdownReceived with
      summary := { r.summary with interrupted := true } }) ht.conduct
    rw [hc]
    have hselecting : r.consumer = .selecting := hp
    refine ⟨fun hn => ?_, fun s hs => ?_⟩
    · cases (congrArg Consumer.reads hselecting).symm.trans hn
    · cases hselecting.symm.trans hs

/-- Every move of a run keeps what a drained channel says. -/
theorem step (h : Draining r past) (ht : Tracks r past) (hw : (r.exchange past).Steady)
    (hs : Step r r') (hr : Reached Exchange.step (r.exchange past) (r'.exchange past')) :
    Draining r' past' := by
  cases hs with
  | arrive | signal | learn | report | loop => exact h.of_still hr rfl rfl
  | produce hs => exact h.of_still hr hs.leaves.consumer hs.leaves.summary
  | consume hs => exact h.consume ht hw hr hs

end Draining

namespace Returning

/-- A move of another party than the consumer. Only the loop can make it find something new. -/
theorem of_other (h : Returning full r past) (hd : Draining r' past')
    (hfull : full r past → full r' past') (hconsumer : r'.consumer = r.consumer)
    (hsummary : r'.summary = r.summary) (hcancel : r'.cancelRequested = r.cancelRequested)
    (hclose : r'.hub.lifecycle.closeRequested = r.hub.lifecycle.closeRequested)
    (haccepts : r'.loop.position.accepts = true → r'.inbound.accepting = true)
    (hleaves : r'.loop.position.stays = false → r.loop.position.stays = false ∨
      r.hub.lifecycle.closeRequested = true ∨ r.consumer.handles = 0 ∨ full r' past') :
    Returning full r' past' :=
  { hd with
    accepts := haccepts
    cancels := by
      rw [hcancel, hconsumer]
      exact h.cancels
    stops := by
      rw [hclose, hsummary, hconsumer]
      exact h.stops
    leaves := by
      rw [hclose, hconsumer]
      intro hp
      rcases hleaves hp with hp | hnew
      · exact (h.leaves hp).imp_right (Or.imp_right hfull)
      · exact hnew
    complete := by
      rw [hconsumer, hsummary]
      exact fun hc => (h.complete hc).imp_right hfull }

theorem produce (h : Returning full r past) (hd : Draining r' past')
    (hfull : full r past → full r' past') (hs : Produces r r') : Returning full r' past' := by
  have hl := hs.leaves
  refine h.of_other hd hfull hl.consumer hl.summary hl.cancelRequested
    (congrArg Lifecycle.closeRequested hl.lifecycle) ?_ ?_
  · rw [hl.position, hl.accepting]
    exact h.accepts
  · rw [hl.position]
    exact .inl

/-- While the loop waits for its input the consumer still reads, and has asked no one to go away. -/
theorem not_cancelled (h : Returning full r past) (hp : r.loop.position = .receiving) :
    r.cancelRequested ≠ true := by
  have hsends : r.loop.position.sends = true := by rw [hp]; rfl
  have hdrained := h.drained
  intro hc
  have hcancelled := h.cancels hc
  cases hcons : r.consumer with
  | selecting | writing | flushing | cancelling => rw [hcons] at hcancelled; cases hcancelled
  | stopping | waiting | returned =>
    rw [hcons] at hdrained
    exact absurd ((hdrained rfl).sends.symm.trans hsends) nofun

/-- The input of the loop ends when the producer is done, and nobody has turned it away. -/
theorem done_of_ended (h : Returning full r past) (ht : Tracks r past)
    (hw : (r.exchange past).Steady) (hp : r.loop.position = .receiving)
    (he : r.inbound.ended = true) :
    r.producer = .done ∧ r.cancelRequested ≠ true ∧ r.inbound.accepting ≠ false := by
  have hopen := h.accepts (by rw [hp]; rfl)
  have hn : r.inbound.accepting ≠ false := fun hc => absurd (hc.symm.trans hopen) nofun
  -- nobody has closed inbound, so it is the handle of the producer that is gone
  obtain ⟨-, -, -, hsenders | hclosed⟩ := hw.inflow.guarded.ended_iff.mp he
  · refine ⟨?_, h.not_cancelled hp, hn⟩
    have hs : r.producer.senders = 0 := ht.senders.symm.trans hsenders
    cases hq : r.producer with
    | done => rfl
    | reading | offering | waiting | sending => rw [hq] at hs; cases hs
  · exact absurd hclosed hn

/-- A producer that ended by itself has sent every line. -/
theorem accepted_of_ended (h : Returning full r past) (ht : Tracks r past)
    (hreads : Reads lines r past.accepted) (hw : (r.exchange past).Steady)
    (hp : r.loop.position = .receiving) (he : r.inbound.ended = true) :
    past.accepted = numbered 0 lines := by
  obtain ⟨hdone, hc, ha⟩ := h.done_of_ended ht hw hp he
  exact (hreads.done hdone).resolve_right (not_or.mpr ⟨hc, ha⟩)

theorem loop {b : Branch} {l : Loop} {k : Hub} (h : Returning full r past)
    (hd : Draining { r with loop := l, hub := k } past') (ht : Tracks r past)
    (hw : (r.exchange past).Steady) (hs : r.loop.step b r.hub = some (l, k))
    (hfull : full r past → full { r with loop := l, hub := k } past')
    (hend : r.loop.position = .receiving → r.inbound.ended = true →
      l.position = .closingInbound .inboundClosed → full { r with loop := l, hub := k } past') :
    Returning full { r with loop := l, hub := k } past' := by
  have hstep := Loop.step_cases hs
  refine h.of_other hd hfull rfl rfl rfl hstep.leaves.closeRequested ?_ ?_
  · intro hp
    obtain ⟨hold, heq⟩ := hstep.accepts hp
    exact Eq.trans heq (h.accepts hold)
  · intro hp
    rcases hstep.stays_cases hp with hold | hc | hgone | ⟨hq, he, rfl, rfl⟩
    · exact .inl hold
    · exact .inr (.inl hc)
    · refine .inr (.inr (.inl ?_))
      have hhandles := hw.outflow.accepting.symm.trans hgone
      have hnone : ¬ 0 < r.hub.outlet.handles := of_decide_eq_false hhandles
      rw [← ht.handles]
      omega
    · exact .inr (.inr (.inr (hend hq he rfl)))

/-- A move of the consumer, by what it makes of each rule about the consumer. -/
theorem of_consumer (h : Returning full r past) (hd : Draining r' past')
    (hfull : full r past → full r' past') (hs : Consumes r r')
    (hcancels : r'.cancelRequested = true → r'.consumer.hasCancelled = true)
    (hstops : r'.hub.lifecycle.closeRequested = true →
      r'.summary.interrupted = true ∨ r'.consumer.hasStopped = true)
    (hcomplete : r'.consumer.reads = false → r'.summary.interrupted = true ∨ full r past) :
    Returning full r' past' := by
  have hl := hs.leaves
  refine ⟨hd, ?_, hcancels, hstops, ?_, fun hp => (hcomplete hp).imp_right hfull⟩
  · rw [inbound, hl.loop]
    exact h.accepts
  · rw [hl.loop]
    intro hp
    rcases h.leaves hp with hc | hn | hc
    · exact .inl (hl.closeRequested hc)
    · cases hs.handles_eq.symm.trans hn
    · exact .inr (.inr (hfull hc))

/-- A consumer that finds the end finds a loop that has left for the signal, or for the end of its
input. -/
theorem complete_of_drained (h : Returning full r past) (hp : r.consumer = .selecting)
    (hd : (r.exchange past).Drained) : r.summary.interrupted = true ∨ full r past := by
  have hstops := h.stops
  have hleaves := h.leaves (Position.stays_of_sends hd.sends)
  rw [hp] at hstops hleaves
  rcases hleaves with hc | hn | hc
  · exact (hstops hc).imp_right nofun
  · cases hn
  · exact .inr hc

theorem consume (h : Returning full r past) (hd : Draining r' past') (ht : Tracks r past)
    (hw : (r.exchange past).Steady) (hfull : full r past → full r' past') (hs : Consumes r r') :
    Returning full r' past' := by
  have hcancels := h.cancels
  have hstops := h.stops
  have hcomplete := h.complete
  have hmove := hs
  cases hs with
  | take hp | write hp | failWrite hp =>
    rw [hp] at hcancels hstops
    exact h.of_consumer hd hfull hmove hcancels hstops nofun
  | findEnd hp he =>
    have hend := ht.drained_of_ended hw hp he
    rw [hp] at hcancels hstops
    exact h.of_consumer hd hfull hmove hcancels hstops fun _ => h.complete_of_drained hp hend
  | flush hp =>
    rw [hp] at hcancels hstops hcomplete
    exact h.of_consumer hd hfull hmove hcancels hstops hcomplete
  | askCancel hp =>
    rw [hp] at hstops hcomplete
    exact h.of_consumer hd hfull hmove (fun _ => rfl) hstops hcomplete
  | stop hp =>
    rw [hp] at hcomplete
    obtain ⟨calls, hc⟩ := stop_count_eq ht.conduct fun c => { c with waits := c.waits + 1 }
    rw [hc] at hd hfull hmove ⊢
    exact h.of_consumer hd hfull hmove (fun _ => rfl) (fun _ => .inr rfl) hcomplete
  | interrupt hp =>
    have hreads : r.consumer.reads ≠ false := by rw [hp]; nofun
    obtain ⟨calls, hc⟩ := stop_eq (r := { r.note .shutdownReceived with
      summary := { r.summary with interrupted := true } }) ht.conduct
    rw [hc] at hd hfull hmove ⊢
    exact h.of_consumer hd hfull hmove hcancels (fun _ => .inl rfl) fun hn => absurd hn hreads
  | failFlush hp | expire hp | confirm hp =>
    rw [hp] at hcomplete
    exact h.of_consumer hd hfull hmove (fun _ => rfl) (fun _ => .inr rfl) hcomplete

/-- Every move of a run keeps it on its way: what is full stays so, and what the end of the input
makes of the loop is full. -/
theorem step (h : Returning full r past) (ht : Tracks r past) (hw : (r.exchange past).Steady)
    (hs : Step r r') (hr : Reached Exchange.step (r.exchange past) (r'.exchange past'))
    (hfull : full r past → full r' past')
    (hend : r.loop.position = .receiving → r.inbound.ended = true →
      r'.loop.position = .closingInbound .inboundClosed → full r' past') :
    Returning full r' past' := by
  have hd := h.toDraining.step ht hw hs hr
  cases hs with
  | arrive | signal | learn | report => exact h.of_other hd hfull rfl rfl rfl rfl h.accepts .inl
  | loop hs => exact h.loop hd ht hw hs hfull hend
  | produce hs => exact h.produce hd hfull hs
  | consume hs => exact h.consume hd ht hw hfull hs

/-- A loop that leaves for the end of its input leaves a run in which every line was accepted. -/
theorem complete_of_ended {slots : Nat} (h : Returning full r past) (ht : Tracks r past)
    (hreads : Reads lines r past.accepted) (hw : (r.exchange past).Steady)
    (hw' : Exchange.Reachable Stage.typeName slots 0 (r'.exchange past'))
    (hgrow : past.accepted <+: past'.accepted) (hsent : past'.accepted <+: numbered 0 lines)
    (hp : r.loop.position = .receiving) (he : r.inbound.ended = true)
    (hp' : r'.loop.position = .closingInbound .inboundClosed) : Complete lines r' past' where
  exhausted := hw'.exhausted (by
    show r'.loop.position.exit? = _
    rw [hp']
    rfl)
  accepted := by
    rw [h.accepted_of_ended ht hreads hw hp he] at hgrow
    exact hsent.eq_of_length_le hgrow.length_le

end Returning
end Run
end Handoff.Pipeline

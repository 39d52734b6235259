import Handoff.Proofs.Steady

/-!
# Order, and the end of the input

The loop works through what inbound accepts in the order of acceptance: first what it places, then
what it answers. It leaves for the end of its input only when it saw inbound empty with no one left
to send, from a place where every transaction placed before was seen taken. From then on nothing
can be accepted, so what readers took by then is all there ever is.
-/
namespace Handoff.Exchange

/-- Inbound has ended for good, and readers have taken all that it accepted. -/
structure Exhausted (w : Exchange) : Prop where
  ended : w.loop.inbound.ended = true
  past : w.loop.position.forwards = false
  hand : w.loop.position.hand = []
  slot : w.slot = []
  lost : w.lost = []
  refused : w.refused = []

variable {w w' : Exchange} {m : Move} {l : Loop} {h : Hub}

namespace Exhausted

theorem accepted_eq (he : w.Exhausted) (hw : w.Steady) :
    w.accepted = w.taken ∧ w.placed = w.taken := by
  have hq := (hw.inflow.guarded.ended_iff.mp he.ended).1
  have hpassage := hw.passage
  have horder := hw.order
  rw [he.lost, he.slot, List.append_nil, List.append_nil] at hpassage
  rw [he.refused, he.hand, hq, List.append_nil, List.append_nil, List.append_nil] at horder
  exact ⟨horder.trans hpassage, hpassage⟩

/-- The rest of what the loop does finds nothing to answer and nothing to drop. -/
theorem afterLoop (he : w.Exhausted) (hw : w.Steady) (hs : w.loop.Step w.hub l h) :
    (w.afterLoop l h).Exhausted := by
  obtain ⟨hended, hpast, hhand, hslot, hlost, hrefused⟩ := he
  obtain ⟨hq, hl, hp', ho⟩ := hw.inflow.guarded.ended_iff.mp hended
  cases hs with
  | begin hp | seeClose hp | seeNone hp | stop hp | pick hp | exhaust hp | giveUp hp | reserve hp
  | findGone hp | place hp | count hp | stopAwaiting hp | seeTaken hp | loseReaders hp
  | abandon hp => simp [hp, Position.forwards] at hpast
  | countLate hp | answerLate hp => simp [hp, Position.hand] at hhand
  | drain hp hq' | takeLate hp hq' => simp [hq] at hq'
  | countAbandoned hp | endDrain hp | countDrained hp | settle hp | confirm hp | report hp =>
    refine ⟨hended, rfl, rfl, hslot, ?_, ?_⟩
    · simp [Exchange.afterLoop, Loop.strands, hp, hlost]
    · simp [Exchange.afterLoop, Loop.answers, hp, hrefused, hq]
  | closeInbound hp =>
    have hr := hw.inflow.receiver
    rw [hp] at hr
    have hended' : w.loop.inbound.close.2.ended = true :=
      (hw.inflow.guarded.close hr).ended_iff.mpr ⟨hq, rfl, hp', .inr rfl⟩
    refine ⟨hended', rfl, rfl, hslot, ?_, ?_⟩
    · simp [Exchange.afterLoop, Loop.strands, hp, hlost]
    · simp [Exchange.afterLoop, Loop.answers, hp, hrefused]
  | release hp =>
    obtain ⟨hq', horphans⟩ := Hub.dropOutboundSender_of_queue_nil hslot
    refine ⟨hended, rfl, rfl, hq', ?_, ?_⟩
    · simp [Exchange.afterLoop, Loop.strands, hp, hlost, horphans]
    · simp [Exchange.afterLoop, Loop.answers, hp, hrefused]
  | @finish n hp =>
    have hended' : w.loop.inbound.detach.2.2.ended = true :=
      (hw.inflow.guarded.detach hended).ended_iff.mpr ⟨rfl, rfl, hp', .inr rfl⟩
    refine ⟨hended', rfl, rfl, ?_, ?_, ?_⟩
    · show (Hub.outlet (if _ then _ else _)).channel.queue = []
      split <;> exact hslot
    · simp [Exchange.afterLoop, Loop.strands, hp, hlost]
    · simp [Exchange.afterLoop, Loop.answers, hp, hrefused]

/-- No move of any party brings anything new. -/
theorem step (he : w.Exhausted) (hw : w.Steady) (hs : Exchange.step m w = some w') :
    w'.Exhausted := by
  have ⟨hended, hpast, hhand, hslot, hlost, hrefused⟩ := he
  cases step_cases hs with
  | sending hi => exact ⟨hi.ended hw.inflow.guarded hended, hpast, hhand, hslot, hlost, hrefused⟩
  | shut hp => simp [hp, Position.forwards] at hpast
  | loop hl => exact he.afterLoop hw hl
  | take _ hq => exact absurd (hq.symm.trans hslot) (List.cons_ne_nil _ _)
  | dropHandle =>
    obtain ⟨hq, hl⟩ := Outlet.dropHandle_of_queue_nil hslot
    exact ⟨hended, hpast, hhand, hq, by rw [hlost, hl, List.append_nil], hrefused⟩
  | dropSpare =>
    obtain ⟨hq, horphans⟩ := Hub.dropOutboundSender_of_queue_nil hslot
    exact ⟨hended, hpast, hhand, hq, by rw [hlost, horphans, List.append_nil], hrefused⟩
  | answer | addHandle | cloneSpare | markRunning | claimStop | publish | note =>
    exact ⟨hended, hpast, hhand, hslot, hlost, hrefused⟩

theorem accepted_step (he : w.Exhausted) (hw : w.Steady) (hs : Exchange.step m w = some w') :
    w'.accepted = w.accepted := by
  have hq := (hw.step _ hs).inflow.guarded.ended_iff.mp (he.step hw hs).ended
  cases step_cases hs with
  | @sending _ i =>
    have hn : i.channel.queue = [] := hq.1
    simp only [afterSending, Inlet.admits, hn, List.drop_nil, List.append_nil]
  | shut | loop | take | answer | addHandle | dropHandle | cloneSpare | dropSpare | markRunning
  | claimStop | publish | note => rfl

/-- The one way to leave for the end of the input. -/
theorem of_exhaust (hw : w.Steady) (hp : w.loop.position = .receiving)
    (he : w.loop.inbound.ended = true) :
    (w.afterLoop (w.loop.goto (.closingInbound .inboundClosed)) w.hub).Exhausted := by
  obtain ⟨hslot, hlost⟩ := hw.outflow.clear (by rw [hp]; rfl)
  have hrefused := hw.outflow.forward (by rw [hp]; rfl)
  refine ⟨he, rfl, rfl, hslot, ?_, ?_⟩
  · simp [Exchange.afterLoop, Loop.strands, hp, hlost]
  · simp [Exchange.afterLoop, Loop.answers, hp, hrefused]

end Exhausted

/-- A loop that leaves for the end of its input has just found it, or had left for it before. -/
theorem leaves_cases (hs : w.loop.Step w.hub l h) (he : l.position.exit? = some .inboundClosed) :
    w.loop.position.exit? = some .inboundClosed ∨
      (w.loop.position = .receiving ∧ w.loop.inbound.ended = true ∧
        l = w.loop.goto (.closingInbound .inboundClosed) ∧ h = w.hub) := by
  cases hs with
  | exhaust hp hended => exact .inr ⟨hp, hended, rfl, rfl⟩
  | begin hp | seeClose hp | seeNone hp | stop hp | pick hp | giveUp hp | reserve hp | findGone hp
  | place hp | count hp | stopAwaiting hp | seeTaken hp | loseReaders hp | abandon hp
  | countAbandoned hp | closeInbound hp | drain hp | endDrain hp | countDrained hp | settle hp
  | release hp | confirm hp | report hp | takeLate hp | finish hp | countLate hp | answerLate hp =>
    simp_all [Loop.goto, Position.exit?]

/-- Where the loop has left for the end of its input, the exchange is exhausted. -/
theorem exhausted_step (hw : w.Steady)
    (hi : w.loop.position.exit? = some .inboundClosed → w.Exhausted) (hs : step m w = some w')
    (he : w'.loop.position.exit? = some .inboundClosed) : w'.Exhausted := by
  rcases (step_cases hs).position_cases with ⟨b, rfl⟩ | ⟨hp, -⟩
  · cases step_cases hs with
    | loop hl =>
      rcases leaves_cases hl he with hold | ⟨hp, hended, rfl, rfl⟩
      · exact (hi hold).step hw hs
      · exact .of_exhaust hw hp hended
  · rw [hp] at he
    exact (hi he).step hw hs

section Reachable

variable {label : String} {slots spare : Nat}

theorem Reachable.exhausted (h : Reachable label slots spare w)
    (he : w.loop.position.exit? = some .inboundClosed) : w.Exhausted := by
  have hboth : w.Steady ∧ (w.loop.position.exit? = some .inboundClosed → w.Exhausted) :=
    Reached.invariant (P := fun w =>
      w.Steady ∧ (w.loop.position.exit? = some .inboundClosed → w.Exhausted)) h
      ⟨.start label slots spare, nofun⟩
      fun m w w' hw hs => ⟨hw.1.step m hs, exhausted_step hw.1 hw.2 hs⟩
  exact hboth.2 he

/-- What is exhausted stays so, whatever happens later. -/
theorem Exhausted.later (he : w.Exhausted) (hw : w.Steady)
    (hl : Reached Exchange.step w w') :
    w'.Steady ∧ w'.Exhausted ∧ w'.accepted = w.accepted :=
  Reached.invariant (P := fun v => v.Steady ∧ v.Exhausted ∧ v.accepted = w.accepted) hl
    ⟨hw, he, rfl⟩ fun m _ _ hv hs =>
      ⟨hv.1.step m hs, hv.2.1.step hv.1 hs, (hv.2.1.accepted_step hv.1 hs).trans hv.2.2⟩

/-- The loop places a prefix of what was accepted and answers what comes right after. If it leaves
for the end of its input, readers have taken all that was accepted by then, with the outbound
sender still there, and nothing is answered or accepted later. -/
theorem forwards_in_order (h : Reachable label slots spare w) :
    (∃ rest, w.accepted = w.placed ++ w.refused ++ rest) ∧
      (w.loop.position = .closingInbound .inboundClosed →
        0 < w.hub.outlet.channel.senders ∧ w.taken = w.accepted) ∧
      (w.loop.position.exit? = some .inboundClosed → ∀ w', Reached step w w' →
        w'.refused = [] ∧ w'.accepted = w.accepted ∧ w'.placed = w.accepted ∧
          w'.taken = w.accepted) := by
  have hw := h.steady
  refine ⟨⟨w.loop.position.hand ++ w.loop.inbound.queue, ?_⟩, fun hp => ?_, fun he w' hl => ?_⟩
  · rw [hw.order]
    exact List.append_assoc ..
  · have he := h.exhausted (by rw [hp]; rfl)
    refine ⟨?_, (he.accepted_eq hw).1.symm⟩
    have hsenders := hw.outflow.senders
    rw [hp] at hsenders
    rw [hsenders]
    exact Nat.succ_pos _
  · obtain ⟨hw', he', ha⟩ := (h.exhausted he).later hw hl
    obtain ⟨haccepted, hplaced⟩ := he'.accepted_eq hw'
    exact ⟨he'.refused, ha, hplaced.trans (haccepted.symm.trans ha), haccepted.symm.trans ha⟩

/-- Two transactions reach their reader before the input ends. -/
theorem forwards_in_order_to_end : ∃ w, Reachable "none" 2 0 w ∧
    w.loop.position = .closingInbound .inboundClosed ∧ w.accepted.length = 2 ∧
      w.taken = w.accepted ∧ ∀ w', Reached step w w' → w'.taken = w.accepted := by
  obtain ⟨w, hw, hp, ha⟩ : ∃ w, [Move.sending (.issue ⟨[]⟩), .sending (.issue ⟨[]⟩),
      .sending (.send ⟨0, ⟨[]⟩⟩), .sending (.send ⟨1, ⟨[]⟩⟩), .sending .leave, .loop .channel,
      .loop .channel, .loop .channel, .loop .channel, .loop .channel, .loop .channel, .take,
      .loop .channel, .loop .channel, .loop .channel, .loop .channel, .loop .channel,
      .loop .channel, .take, .loop .channel, .loop .channel, .loop .channel].foldlM
        (fun w m => step m w) (start "none" 2 0) = some w ∧
          w.loop.position = .closingInbound .inboundClosed ∧ w.accepted.length = 2 :=
    ⟨_, rfl, rfl, rfl⟩
  have hreached := Reached.of_moves hw
  obtain ⟨-, hend, hlater⟩ := forwards_in_order hreached
  exact ⟨w, hreached, hp, ha, (hend hp).2,
    fun w' hl => (hlater (by rw [hp]; rfl) w' hl).2.2.2⟩

end Reachable
end Handoff.Exchange

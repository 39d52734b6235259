import Handoff.Proofs.Exhaustion

/-!
# The end of the outbound channel

A reader finds the end of the outbound channel when it is empty and the loop has given up its
sender. Nothing was lost by then and nothing can be placed any more, so readers have taken exactly
what was placed, and the loop has counted all of it.
-/
namespace Handoff

namespace Position

/-- The loop has placed a transaction that it has yet to count. -/
def counts : Position → Bool
  | .counting => true
  | _ => false

end Position

namespace Exchange

variable {w w' : Exchange} {m : Move} {l : Loop} {h : Hub}

/-- Nothing is placed beyond what readers have taken, and nothing will be. -/
structure Drained (w : Exchange) : Prop where
  slot : w.slot = []
  lost : w.lost = []
  sends : w.loop.position.sends = false

namespace Drained

theorem afterLoop (hd : w.Drained) (hs : w.loop.Step w.hub l h) : (w.afterLoop l h).Drained := by
  obtain ⟨hslot, hlost, hsends⟩ := hd
  cases hs with
  | begin hp | seeClose hp | seeNone hp | stop hp | pick hp | exhaust hp | giveUp hp | reserve hp
  | findGone hp | place hp | count hp | stopAwaiting hp | seeTaken hp | loseReaders hp
  | abandon hp | countAbandoned hp | closeInbound hp | drain hp | endDrain hp | countDrained hp
  | settle hp | release hp => rw [hp] at hsends; cases hsends
  | confirm hp | report hp | takeLate hp | countLate hp | answerLate hp =>
    refine ⟨hslot, ?_, rfl⟩
    simp [Exchange.afterLoop, Loop.strands, hp, hlost]
  | @finish n hp =>
    refine ⟨?_, ?_, rfl⟩
    · show (Hub.outlet (if 0 < n then _ else _)).channel.queue = []
      split <;> exact hslot
    · simp [Exchange.afterLoop, Loop.strands, hp, hlost]

theorem step (hd : w.Drained) (hs : Exchange.step m w = some w') : w'.Drained := by
  have ⟨hslot, hlost, hsends⟩ := hd
  cases step_cases hs with
  | loop hl => exact hd.afterLoop hl
  | take _ hq => exact absurd (hq.symm.trans hslot) (List.cons_ne_nil _ _)
  | dropHandle =>
    obtain ⟨hq, hl⟩ := Outlet.dropHandle_of_queue_nil hslot
    exact ⟨hq, by rw [hlost, hl, List.append_nil], hsends⟩
  | dropSpare =>
    obtain ⟨hq, horphans⟩ := Hub.dropOutboundSender_of_queue_nil hslot
    exact ⟨hq, by rw [hlost, horphans, List.append_nil], hsends⟩
  | sending | shut | answer | addHandle | cloneSpare | markRunning | claimStop | publish | note =>
    exact ⟨hslot, hlost, hsends⟩

theorem later (hd : w.Drained) (hl : Reached Exchange.step w w') : w'.Drained :=
  hl.invariant hd fun _ _ _ hd hs => hd.step hs

theorem placed_eq (hd : w.Drained) (hw : w.Steady) : w.placed = w.taken := by
  rw [hw.passage, hd.slot, hd.lost, List.append_nil, List.append_nil]

end Drained

/-- A reader that finds the end of the outbound channel knows that the loop will place nothing. -/
theorem Steady.drained_of_ended (hw : w.Steady) (hn : 0 < w.hub.outlet.handles)
    (he : w.hub.outlet.read.1 = .ended) : w.Drained := by
  have ho := hw.outflow
  have hq : w.slot = [] := by
    unfold Outlet.read at he
    split at he
    · cases he
    · exact Channel.take?_eq_none ‹_›
  have ha : w.hub.outlet.channel.accepting = true := ho.accepting.trans (decide_eq_true hn)
  have hended : w.hub.outlet.channel.ended = true := by
    unfold Outlet.read at he
    split at he
    · cases he
    · split at he
      · assumption
      · cases he
  have hsenders := hw.outflow.senders
  rcases (Channel.ended_iff.mp hended).2 with hd | ⟨hc, -⟩
  · rw [(Channel.deserted_iff.mp hd).1] at hsenders
    refine ⟨hq, ho.intact hn, ?_⟩
    cases hp : w.loop.position.sends with
    | false => rfl
    | true =>
      rw [hp, Bool.toNat_true] at hsenders
      omega
  · rw [ha] at hc
    cases hc

/-- The counter of placed transactions lags behind by one at most. -/
def Counted (w : Exchange) : Prop :=
  w.hub.forwarded + w.loop.position.counts.toNat = w.placed.length

namespace Counted

theorem afterLoop (hc : w.Counted) (hs : w.loop.Step w.hub l h) : (w.afterLoop l h).Counted := by
  unfold Counted at hc ⊢
  cases hs with
  | place hp | count hp =>
    simp only [hp, Exchange.afterLoop, Loop.places, Loop.goto, Position.counts, Hub.setOutbound,
      Hub.note, Bool.toNat_true, Bool.toNat_false, List.length_append, List.length_singleton,
      List.append_nil] at hc ⊢
    omega
  | begin hp | seeClose hp | seeNone hp | stop hp | pick hp | exhaust hp | giveUp hp | reserve hp
  | findGone hp | stopAwaiting hp | seeTaken hp | loseReaders hp | abandon hp | countAbandoned hp
  | closeInbound hp | drain hp | endDrain hp | countDrained hp | settle hp | release hp | confirm hp
  | report hp | takeLate hp | countLate hp | answerLate hp =>
    rw [hp] at hc
    simp only [Exchange.afterLoop, Loop.places, hp, List.append_nil]
    exact hc
  | @finish n hp =>
    rw [hp] at hc
    simp only [Exchange.afterLoop, Loop.places, hp, List.append_nil]
    show (Hub.forwarded (if 0 < n then _ else _)) + 0 = _
    split <;> exact hc

theorem step (hc : w.Counted) (hs : Step w m w') : w'.Counted := by
  cases hs with
  | loop hl => exact hc.afterLoop hl
  | sending | shut | take | answer | addHandle | dropHandle | cloneSpare | dropSpare | markRunning
  | claimStop | publish | note => exact hc

end Counted

section Reachable

variable {label : String} {slots spare : Nat}

theorem Reachable.counted (h : Reachable label slots spare w) : w.Counted :=
  h.invariant rfl fun _ _ _ hc hs => hc.step (step_cases hs)

/-- In the end every placed transaction is counted, and readers have taken all of them. -/
theorem Reachable.forwarded_eq (h : Reachable label slots spare w) (hd : w.Drained) :
    w.hub.forwarded = w.taken.length := by
  have hc : w.hub.forwarded + w.loop.position.counts.toNat = w.placed.length := h.counted
  have hp : w.loop.position.counts = false := by
    have hsends := hd.sends
    cases hl : w.loop.position with
    | counting => rw [hl] at hsends; cases hsends
    | _ => rfl
  rwa [hp, Bool.toNat_false, Nat.add_zero, hd.placed_eq h.steady] at hc

end Reachable
end Exchange
end Handoff

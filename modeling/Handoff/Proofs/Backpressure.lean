import Handoff.Proofs.Closing
import Handoff.Proofs.Steady

/-!
# Readers set the pace

The loop takes the next transaction from inbound only after a reader has taken the one before. So
one transaction at most is on its way between the two channels, in the hand of the loop or in the
outbound slot, and as long as there is a reader, inbound has accepted no more than its slots and one
beyond what readers took and the loop answered.

When it has closed inbound the loop takes transactions only to answer them, and does not wait for a
reader. The bound holds there as well: such a transaction had its slot in the closed channel, and no
one can have got that slot since.
-/
namespace Handoff

namespace Position

/-- The transaction that the loop took to forward it, and has neither placed nor answered. What it
takes after it has closed inbound is not among these. -/
def carried : Position → List Transaction
  | .holding t | .placing t | .abandoning t _ => [t]
  | _ => []

/-- Before it closes inbound, the loop has nothing else in hand. -/
theorem carried_of_accepts {p : Position} (h : p.accepts = true) : p.carried = p.hand := by
  cases p <;> first | rfl | cases h

/-- A loop that carries a transaction knows that those it placed are taken. -/
theorem carried_cases (p : Position) :
    p.carried = [] ∨ p.carried.length = 1 ∧ p.isClear = true := by
  cases p <;> simp [carried, isClear]

theorem hand_of_carried {p : Position} (h : p.carried ≠ []) : p.hand = p.carried := by
  cases p <;> first | rfl | exact absurd rfl h

end Position

namespace Loop

variable {l l' : Loop} {h h' : Hub}

/-- The slots of the inbound channel have room for what is queued, for what is set aside and for
what the loop took to answer it. -/
def Roomy (l : Loop) : Prop :=
  l.position.carried = [] → l.inbound.queue.length + l.inbound.permits + l.position.hand.length ≤
    l.inbound.capacity

theorem roomy_of_carried (hp : l.position.carried ≠ []) : l.Roomy := fun hc => absurd hc hp

/-- With an empty hand this is what every channel has room for. -/
theorem Inflow.roomy (hi : l.Inflow) (hp : l.position.hand = []) : l.Roomy := by
  intro _
  have hfits := hi.guarded.fits
  simp only [Channel.Fits, Channel.used] at hfits
  rw [hp, List.length_nil]
  omega

namespace Step

theorem roomy (hi : l.Inflow) (hr : l.Roomy) (hs : Step l h l' h') : l'.Roomy := by
  have hi' := hi.step hs
  cases hs with
  | pick | giveUp | reserve | findGone => exact roomy_of_carried (List.cons_ne_nil _ _)
  | takeLate hq hqueue hc =>
    -- the transaction leaves its slot empty, and comes into the hand instead
    subst hc
    have hfits := hi.guarded.fits
    intro _
    simp only [Channel.Fits, Channel.used, hqueue, List.length_cons] at hfits
    simp only [Channel.grant, Position.hand, List.length_singleton]
    omega
  | countLate hq =>
    have hbound := hr (by rw [hq]; rfl)
    rw [hq] at hbound
    exact fun _ => hbound
  | begin | seeClose | seeNone | stop | exhaust | place | count | stopAwaiting | seeTaken
  | loseReaders | abandon | countAbandoned | closeInbound | drain | endDrain | countDrained | settle
  | release | confirm | report | finish | answerLate => exact hi'.roomy rfl

/-- The loop comes to carry a transaction only by picking the first one that is queued. -/
theorem carried_cases (hs : Step l h l' h') :
    (∀ t ∈ l'.position.carried, t ∈ l.position.carried) ∨
      ∃ t, l.position = .receiving ∧ l'.position.carried = [t] ∧
        l.inbound.queue = t :: l'.inbound.queue := by
  cases hs with
  | pick hq hqueue hc =>
    subst hc
    exact .inr ⟨_, hq, rfl, by rw [hqueue, Channel.queue_grant]⟩
  | giveUp hq | reserve hq | findGone hq => exact .inl (by simp [goto, hq, Position.carried])
  | begin | seeClose | seeNone | stop | exhaust | place | count | stopAwaiting | seeTaken
  | loseReaders | abandon | countAbandoned | closeInbound | drain | endDrain | countDrained | settle
  | release | confirm | report | takeLate | finish | countLate | answerLate =>
    exact .inl (by simp [goto, Position.carried])

end Step
end Loop

namespace Exchange

variable {w w' : Exchange} {m : Move} {t : Transaction} {label : String} {slots spare : Nat}

/-- Senders cannot use a slot whose transaction the loop took after it closed inbound. -/
theorem roomy_sending {i : Inlet} (hi : w.loop.Inflow) (hr : w.loop.Roomy) (hs : w.inlet.Step i) :
    (w.afterSending i).loop.Roomy := by
  cases ha : w.loop.position.accepts with
  | true =>
    by_cases hp : w.loop.position.hand = []
    · exact (inflow_sending hi hs).roomy hp
    · exact Loop.roomy_of_carried (by rwa [← Position.carried_of_accepts ha] at hp)
  | false =>
    intro hc
    have hbacklog := hs.backlog_le hi.guarded (hi.closed ha)
    have hcapacity := hs.capacity_eq
    have hbound := hr hc
    simp only [inlet] at hbacklog hcapacity
    simp only [afterSending] at hbacklog ⊢
    omega

theorem Step.roomy (hi : w.loop.Inflow) (hr : w.loop.Roomy) (hs : Step w m w') :
    w'.loop.Roomy := by
  cases hs with
  | loop hl => exact hl.roomy hi hr
  | sending hs => exact roomy_sending hi hr hs
  | shut hp => exact (inflow_shut hi hp).roomy (by simp only [hp]; rfl)
  | take | answer | addHandle | dropHandle | cloneSpare | dropSpare | markRunning | claimStop
  | publish | note => exact hr

/-- One transaction at most is between the two channels. -/
theorem Steady.carried_le (hw : w.Steady) : w.loop.position.carried.length + w.slot.length ≤ 1 := by
  rcases w.loop.position.carried_cases with hc | ⟨hlength, hclear⟩
  · have hsingle := hw.outflow.single
    rw [hc, List.length_nil]
    omega
  · rw [(hw.outflow.clear hclear).1, hlength]
    exact Nat.le_refl 1

/-- What the loop picks up next follows what readers have taken. -/
theorem Steady.taken_of_picked (hw : w.Steady) (hs : Step w m w')
    (ht : t ∈ w'.loop.position.carried) (hnew : t ∉ w.loop.position.carried) :
    w.slot = [] ∧ w.accepted = w.taken ++ t :: w'.loop.inbound.queue := by
  rcases hs.position_cases with ⟨b, rfl⟩ | ⟨hp, -⟩
  · cases hs with
    | @loop _ l h hl =>
      rcases hl.carried_cases with hsame | ⟨u, hq, hpicked, hqueue⟩
      · exact absurd (hsame t ht) hnew
      · have hclear := hw.outflow.clear (by rw [hq]; rfl)
        have hrefused := hw.outflow.forward (by rw [hq]; rfl)
        obtain rfl : t = u := List.mem_singleton.mp (hpicked ▸ ht)
        refine ⟨hclear.1, ?_⟩
        rw [hw.order, hw.passage, hclear.1, hclear.2, hrefused, hq, hqueue]
        simp only [Position.hand, List.append_nil]
        rfl
  · rw [hp] at ht
    exact absurd ht hnew

/-- Between what inbound accepted and what has left the exchange are its slots and one more. -/
theorem Steady.accepted_le (hw : w.Steady) (hr : w.loop.Roomy)
    (hn : 0 < w.hub.outlet.handles) : w.accepted.length ≤
      w.taken.length + w.refused.length + (w.loop.inbound.capacity + 1) := by
  have hlost := hw.outflow.intact hn
  have hsingle := hw.outflow.single
  have hfits := hw.inflow.guarded.fits
  rw [hw.order, hw.passage, hlost]
  simp only [List.length_append, List.length_nil]
  simp only [Channel.Fits, Channel.used] at hfits
  by_cases hp : w.loop.position.carried = []
  · have hroom := hr hp
    omega
  · have hcarried := hw.carried_le
    rw [Position.hand_of_carried hp]
    omega

/-- What the pace of its readers means for a loop with so many inbound slots. -/
structure Paced (slots : Nat) (w : Exchange) : Prop where
  /-- What the loop carries to outbound and what stands in the slot is one transaction at most. A
  transaction that the loop takes only to answer it, when it drains inbound or when one comes late,
  is not carried and not counted, so the hand may hold such a one beside the slot. -/
  single : w.loop.position.carried.length + w.slot.length ≤ 1
  /-- When the loop picks a transaction to carry it, the slot is empty and readers have taken all
  that was accepted before it. -/
  turn : ∀ m w' t, step m w = some w' → t ∈ w'.loop.position.carried →
    t ∉ w.loop.position.carried →
      w.slot = [] ∧ w.accepted = w.taken ++ t :: w'.loop.inbound.queue
  /-- As long as there is a reader, what inbound accepted is ahead of what readers took and the loop
  answered by its slots and one more at most. -/
  bound : 0 < w.hub.outlet.handles →
    w.accepted.length ≤ w.taken.length + w.refused.length + (slots + 1)

/-- Whatever senders, readers and callers of a close do between the steps of the loop, readers set
its pace. -/
theorem paced_by_readers (h : Reachable label slots spare w) : w.Paced slots := by
  have hw := h.steady
  have hcapacity := (attentive_of_reached h).capacity
  have hroomy : w.loop.Roomy := by
    refine (h.invariant (P := fun w => w.Steady ∧ w.loop.Roomy)
      ⟨.start label slots spare, (Steady.start label slots spare).inflow.roomy rfl⟩ ?_).2
    rintro m v v' ⟨hv, hr⟩ hs
    exact ⟨hv.step m hs, (step_cases hs).roomy hv.inflow hr⟩
  refine ⟨hw.carried_le, fun m w' t hs => hw.taken_of_picked (step_cases hs), fun hn => ?_⟩
  rw [← hcapacity]
  exact hw.accepted_le hroomy hn

/-- Two slots are full, a third transaction stands in the outbound slot, and no reader comes: the
loop waits, and nothing more is accepted. -/
theorem paced_by_readers_when_full : ∃ w, Reachable "none" 2 0 w ∧ w.Paced 2 ∧
    0 < w.hub.outlet.handles ∧ w.accepted.length = w.taken.length + w.refused.length + 3 ∧
      step (.loop .channel) w = none ∧
        ∃ w', step (.sending (.send ⟨3, ⟨[]⟩⟩)) w = some w' ∧ w'.accepted = w.accepted := by
  obtain ⟨w, hw, hn, hcount, hloop, hsend⟩ : ∃ w, [Move.sending (.issue ⟨[]⟩),
      .sending (.issue ⟨[]⟩), .sending (.issue ⟨[]⟩), .sending (.issue ⟨[]⟩),
      .sending (.send ⟨0, ⟨[]⟩⟩), .sending (.send ⟨1, ⟨[]⟩⟩), .loop .channel, .loop .channel,
      .loop .channel, .sending (.send ⟨2, ⟨[]⟩⟩), .loop .channel, .loop .channel,
      .loop .channel].foldlM (fun w m => step m w) (start "none" 2 0) = some w ∧
        0 < w.hub.outlet.handles ∧
        w.accepted.length = w.taken.length + w.refused.length + 3 ∧
        step (.loop .channel) w = none ∧
        ∃ w', step (.sending (.send ⟨3, ⟨[]⟩⟩)) w = some w' ∧ w'.accepted = w.accepted :=
    ⟨_, rfl, Nat.one_pos, rfl, rfl, _, rfl, rfl⟩
  have hreached := Reached.of_moves hw
  exact ⟨w, hreached, paced_by_readers hreached, hn, hcount, hloop, hsend⟩

end Exchange
end Handoff

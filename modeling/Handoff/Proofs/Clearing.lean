import Handoff.Proofs.Finalization

/-!
# All that is accepted is cleared

A loop that is closing clears its inbound channel: within a bounded number of its own steps, all
that was accepted by now is placed or answered. Until the drain is over this is part of the way to
the confirmation. After that, what slots set aside still deliver is answered one by one, each in
three steps, and what is delivered later stands behind what was delivered before.

What is placed by then is with a reader, or readable by those who are left. If nobody is left it is
let go, at the latest with the outbound sender of the loop.
-/
namespace Handoff

namespace Position

/-- Once the drain is over, the steps from here to where the loop waits for late transactions. -/
def delay : Position → Nat
  | .countingDrained .. => 5
  | .settling .. => 4
  | .releasing .. => 3
  | .confirming .. | .countingLate .. => 2
  | .reporting .. | .answeringLate .. => 1
  | _ => 0

theorem delay_le (p : Position) : p.delay ≤ 5 := by cases p <;> simp [delay]

theorem sends_of_reserves {p : Position} (h : p.reserves = true) : p.sends = true := by
  cases p <;> first | rfl | cases h

end Position

namespace Loop.Step

variable {l l' : Loop} {h h' : Hub}

theorem drained (hs : Step l h l' h') (hp : l.position.drained = true) :
    l'.position.drained = true := by
  cases hs with
  | countDrained | settle | release | confirm | report | takeLate | finish | countLate
  | answerLate => rfl
  | begin hq | seeClose hq | seeNone hq | stop hq | pick hq | exhaust hq | giveUp hq | reserve hq
  | findGone hq | place hq | count hq | stopAwaiting hq | seeTaken hq | loseReaders hq | abandon hq
  | countAbandoned hq | closeInbound hq | drain hq | endDrain hq => rw [hq] at hp; cases hp

end Loop.Step

namespace Exchange

variable {w w' : Exchange} {m : Move} {l : Loop} {h : Hub} {n slots : Nat}

/-- The first transactions accepted, so many, are placed or answered. -/
def Cleared (n : Nat) (w : Exchange) : Prop := n ≤ w.placed.length + w.refused.length

/-- Once the drain is over, the most steps that the loop makes until they are. -/
def clearance (n : Nat) (w : Exchange) : Nat :=
  w.loop.position.delay +
    3 * (n - (w.placed.length + w.refused.length + w.loop.position.hand.length))

namespace Steady

theorem length_accepted (hw : w.Steady) : w.accepted.length =
    w.placed.length + w.refused.length + w.loop.position.hand.length +
      w.loop.inbound.queue.length := by
  rw [hw.order]
  simp only [List.length_append]

theorem cleared_of_idle (hw : w.Steady) (hn : n ≤ w.accepted.length)
    (hh : w.loop.position.hand = []) (hq : w.loop.inbound.queue = []) : Cleared n w := by
  have hlength := hw.length_accepted
  rw [hh, hq] at hlength
  simp only [List.length_nil] at hlength
  unfold Cleared
  omega

theorem clearance_lt (hw : w.Steady) (hn : n ≤ w.accepted.length)
    (hd : w.loop.position.drained = true) (hs : w.loop.Step w.hub l h) :
    Cleared n w ∨ clearance n (w.afterLoop l h) < clearance n w := by
  have hlength := hw.length_accepted
  cases hs with
  | @finish k hp he =>
    have hq := (hw.inflow.guarded.ended_iff.mp he).1
    exact .inl (hw.cleared_of_idle hn (by rw [hp]; rfl) hq)
  | takeLate hp hq hc =>
    subst hc
    by_cases hcleared : Cleared n w
    · exact .inl hcleared
    · refine .inr ?_
      unfold Cleared at hcleared
      simp only [clearance, afterLoop, Loop.places, Loop.answers, hp, Position.delay, Position.hand,
        List.append_nil, List.length_nil, List.length_cons]
      omega
  | countDrained hp | settle hp | release hp | confirm hp | report hp | countLate hp
  | answerLate hp =>
    refine .inr ?_
    simp only [clearance, afterLoop, Loop.places, Loop.answers, Loop.goto, hp, Position.delay,
      Position.hand, List.append_nil, List.length_nil, List.length_cons, List.length_append]
    omega
  | begin hp | seeClose hp | seeNone hp | stop hp | pick hp | exhaust hp | giveUp hp | reserve hp
  | findGone hp | place hp | count hp | stopAwaiting hp | seeTaken hp | loseReaders hp | abandon hp
  | countAbandoned hp | closeInbound hp | drain hp | endDrain hp => rw [hp] at hd; cases hd

/-- What is left to answer after the confirmation gives the loop a step to make. -/
theorem exists_late_step (hw : w.Steady) (hn : n ≤ w.accepted.length)
    (hp : w.loop.position.confirmed = true) (hc : ¬ Cleared n w) :
    ∃ b, (w.step (.loop b)).isSome := by
  refine ⟨.channel, ?_⟩
  simp only [Exchange.step, Option.isSome_map]
  cases hq : w.loop.position with
  | reporting | countingLate | answeringLate => simp [Loop.step, hq]
  | late k =>
    cases hqueue : w.loop.inbound.queue with
    | nil => exact absurd (hw.cleared_of_idle hn (by rw [hq]; rfl) hqueue) hc
    | cons t rest => simp [Loop.step, hq, Channel.take?, hqueue]
  | finished =>
    have hr := hw.inflow.receiver
    rw [hq] at hr
    have hqueue := (hw.inflow.guarded.gone hr).2.1
    exact absurd (hw.cleared_of_idle hn (by rw [hq]; rfl) hqueue) hc
  | _ => rw [hq] at hp; cases hp

end Steady

/-- Others leave the loop where it is, and what it has placed and answered. -/
theorem Step.clearance_eq (hs : Step w m w') (hm : m.isLoop = false) :
    clearance n w' = clearance n w := by
  cases hs with
  | loop => cases hm
  | sending | shut | take | answer | addHandle | dropHandle | cloneSpare | dropSpare | markRunning
  | claimStop | publish | note => rfl

theorem Step.cleared (hs : Step w m w') (hc : Cleared n w) : Cleared n w' := by
  unfold Cleared at *
  rcases hs.placed_cases with ⟨l, h, -, rfl⟩ | ⟨hplaced, hrefused, -⟩
  · simp only [afterLoop, List.length_append]
    omega
  · rw [hplaced, hrefused]
    exact hc

theorem Step.drained (hs : Step w m w') (hp : w.loop.position.drained = true) :
    w'.loop.position.drained = true := by
  rcases hs.placed_cases with ⟨l, h, hl, rfl⟩ | ⟨-, -, hq⟩
  · exact hl.drained hp
  · rw [hq]
    exact hp

/-- Once the drain is over, the loop clears what is accepted before it has made more steps than that
takes. -/
theorem cleared_or_clearance_left (hw : w.Steady) (hn : n ≤ w.accepted.length)
    (hd : w.loop.position.drained = true) {moves : List Move} (hr : run moves w = some w') :
    Cleared n w' ∨ clearance n w' + moves.countP Move.isLoop ≤ clearance n w := by
  obtain ⟨-, hleft, -⟩ := goal_or_work_left Move.isLoop (clearance n)
    (fun v => v.Steady ∧ n ≤ v.accepted.length ∧ v.loop.position.drained = true) (Cleared n)
    (fun m v v' hv hs => ⟨hv.1.step m hs,
      Nat.le_trans hv.2.1 (step_cases hs).accepted_grows.length_le, (step_cases hs).drained hv.2.2⟩)
    (fun m v v' _ hc hs => (step_cases hs).cleared hc)
    (fun m v v' hv hs => by
      cases hm : m.isLoop with
      | false => exact .inr (Nat.le_of_eq ((step_cases hs).clearance_eq hm))
      | true =>
        cases step_cases hs with
        | loop hl => exact hv.1.clearance_lt hv.2.1 hv.2.2 hl
        | _ => cases hm) ⟨hw, hn, hd⟩ hr
  exact hleft

theorem Steady.prefix_of_cleared (hw' : w'.Steady) (hl : Reached Exchange.step w w')
    (hc : Cleared w.accepted.length w') : w.accepted <+: w'.placed ++ w'.refused := by
  have hsettled : w'.placed ++ w'.refused <+: w'.accepted := by
    rw [hw'.order, List.append_assoc]
    exact List.prefix_append ..
  refine List.prefix_of_prefix_length_le (accepted_later hl) hsettled ?_
  rwa [List.length_append]

/-- A channel that lost its last sender behind its readers is empty. -/
theorem Steady.slot_of_sweep (hw : w.Steady) {c : Channel Transaction}
    (hc : w.hub.outlet.channel = c.sweep) (hn : w.hub.outlet.handles = 0)
    (hs : w.hub.outlet.channel.senders = 0) : w.slot = [] := by
  have hreceiver := hw.outflow.receiver
  have hpermits := hw.outflow.permits
  have hsenders := hw.outflow.senders
  have hline := hw.outflow.line
  -- without a sender the loop has no slot set aside either
  have hreserves : w.loop.position.reserves = false := by
    refine Bool.eq_false_iff.mpr fun hr => ?_
    rw [hs, Position.sends_of_reserves hr] at hsenders
    exact absurd hsenders.symm (Nat.succ_ne_zero _)
  rw [hc, hn, Channel.receiver_sweep] at hreceiver
  rw [hc, hreserves, Channel.permits_sweep] at hpermits
  rw [hc, Channel.line_sweep] at hline
  rw [hc, Channel.senders_sweep] at hs
  have hdeserted : c.deserted = true := Channel.deserted_iff.mpr ⟨hs, hpermits, hline⟩
  show w.hub.outlet.channel.queue = []
  rw [hc, Channel.sweep, hreceiver, hdeserted]
  rfl

/-- Nothing stands in a channel that has neither readers nor senders. -/
def Swept (w : Exchange) : Prop :=
  w.hub.outlet.handles = 0 → w.hub.outlet.channel.senders = 0 → w.slot = []

theorem Swept.afterLoop (hi : w.Swept) (hw : w.Steady) (hw' : (w.afterLoop l h).Steady)
    (hs : w.loop.Step w.hub l h) : (w.afterLoop l h).Swept := by
  intro hn h0
  -- what stands in the channel can only go, for a loop without a sender places nothing
  have hbefore (hsame : h.outlet.channel.senders = w.hub.outlet.channel.senders) :
      (w.afterLoop l h).slot = [] := by
    have h0 : w.hub.outlet.channel.senders = 0 := hsame.symm.trans h0
    have hsenders := hw.outflow.senders
    have hsends : w.loop.position.sends = false := by
      refine Bool.eq_false_iff.mpr fun hsends => ?_
      rw [h0, hsends] at hsenders
      exact absurd hsenders.symm (Nat.succ_ne_zero _)
    have hempty := hi (hs.leaves.handles.symm.trans hn) h0
    have hsuffix := (Step.loop (b := .channel) hs).slot_suffix (Loop.places_of_not_sends hsends)
    exact List.suffix_nil.mp (hempty ▸ hsuffix)
  cases hs.ends with
  | still _ _ _ _ hsame => exact hbefore hsame
  | settle _ _ hh => exact hbefore (by rw [hh])
  | confirm _ _ hh => exact hbefore (by rw [hh])
  | release _ _ hh => exact hw'.slot_of_sweep (by rw [Exchange.afterLoop, hh]; rfl) hn h0

theorem Swept.step (hi : w.Swept) (hw : w.Steady) (hs : Exchange.step m w = some w') :
    w'.Swept := by
  have hw' := hw.step m hs
  cases step_cases hs with
  | loop hl => exact hi.afterLoop hw hw' hl
  | take hpos => exact fun hn => absurd hn (Nat.ne_of_gt hpos)
  | addHandle => exact fun hn => absurd hn (Nat.succ_ne_zero _)
  | cloneSpare => exact fun _ h0 => absurd h0 (Nat.succ_ne_zero _)
  | dropHandle =>
    intro hn _
    by_cases hlast : w.hub.outlet.handles ≤ 1
    · show w.hub.outlet.dropHandle.2.2.channel.queue = []
      rw [Outlet.dropHandle_last hlast]
      rfl
    · have hleft := Hub.handles_dropOutboundHandle w.hub
      exact absurd (hleft.symm.trans hn) (by omega)
  | dropSpare => exact hw'.slot_of_sweep rfl
  | sending | shut | answer | markRunning | claimStop | publish | note => exact hi

theorem Reachable.swept {label : String} {spare : Nat} (h : Reachable label slots spare w) :
    w.Swept := by
  have hboth : w.Steady ∧ w.Swept :=
    Reached.invariant (P := fun v => v.Steady ∧ v.Swept) h
      ⟨.start label slots spare, fun hn => absurd hn (Nat.succ_ne_zero 0)⟩
      fun m _ _ hv hs => ⟨hv.1.step m hs, hv.2.step hv.1 hs⟩
  exact hboth.2

/-- What has become of a transaction that the loop is done with. -/
inductive Fate (w : Exchange) (t : Transaction) : Prop
  | refused : t ∈ w.refused → w.outcome t = some .stageClosed → Fate w t
  | taken : t ∈ w.taken → Fate w t
  | readable : 0 < w.hub.outlet.handles → t ∈ w.slot → Fate w t
  | dropped : w.hub.outlet.handles = 0 → t ∈ w.lost → w.outcome t = some .dropped → Fate w t

/-- Once the last sender is gone, what is placed or answered has met its fate. -/
theorem Steady.fate (hw : w.Steady) (hi : w.Swept) (h0 : w.hub.outlet.channel.senders = 0)
    {t : Transaction} (ht : t ∈ w.placed ++ w.refused) : w.Fate t := by
  rcases List.mem_append.mp ht with hplaced | hrefused
  · rw [hw.passage, List.mem_append, List.mem_append] at hplaced
    rcases hplaced with (htaken | hlost) | hslot
    · exact .taken htaken
    · exact .dropped (hw.handles_eq_zero hlost) hlost (hw.sound.lostDropped t hlost)
    · refine .readable (Nat.pos_of_ne_zero fun hn => ?_) hslot
      rw [hi hn h0] at hslot
      exact absurd hslot List.not_mem_nil
  · exact .refused hrefused (hw.outcome_of_refused hrefused)

/-- From a loop that is closing on, whoever moves, all that was accepted by now is placed or
answered once the loop has made so many steps, and until then it has a step to make. -/
theorem clears_in_bounded_steps (hw : w.Steady) (ha : w.Attentive slots)
    (hc : w.loop.Closing w.hub) {moves : List Move} (hr : run moves w = some w') :
    (w.accepted <+: w'.placed ++ w'.refused ∨ ∃ b, (w'.step (.loop b)).isSome) ∧
      (12 + 3 * slots ≤ moves.countP Move.isLoop → w.accepted <+: w'.placed ++ w'.refused) := by
  have hlater : Reached step w w' := Reached.of_moves hr
  have hw' := hw.later hlater
  obtain ⟨-, hclosing, hbound⟩ := closing_run ha hc hr
  have hgrows := (accepted_later hlater).length_le
  refine ⟨?_, fun hcount => ?_⟩
  · by_cases hcleared : Cleared w.accepted.length w'
    · exact .inl (hw'.prefix_of_cleared hlater hcleared)
    · refine .inr ?_
      cases hp : w'.loop.position.confirmed with
      | false => exact exists_loop_step hclosing hp
      | true => exact hw'.exists_late_step hgrows hp hcleared
  · cases hd : w.loop.position.drained with
    | false =>
      have hconfirmed := hbound (by omega)
      exact hw.settled_of_drained hlater hd (Position.drained_of_confirmed hconfirmed)
    | true =>
      refine hw'.prefix_of_cleared hlater ?_
      rcases cleared_or_clearance_left hw (Nat.le_refl _) hd hr with hcleared | hleft
      · exact hcleared
      · -- the queue fits into the slots, so that many steps are more than it takes
        have hfits := ha.inflow.guarded.fits
        simp only [Channel.Fits, Channel.used, ha.capacity] at hfits
        have hlength := hw.length_accepted
        have hdelay := w.loop.position.delay_le
        simp only [clearance] at hleft
        omega

end Exchange
end Handoff

import Handoff.Proofs.Accountability
import Handoff.Proofs.Closing

/-!
# What a published close request lets through

The loop looks at the close request before it waits for a transaction, and again wherever it waits.
At each wait chance may favour the channel, but there is only one transaction that chance can help:
the one that the loop waits for or has in hand when the request is published. Back at its check the
loop leaves. What inbound has accepted by the time it is drained is then placed or answered.
-/
namespace Handoff

namespace Position

/-- How many transactions the loop may still place under a close request. -/
def allowance : Position → Nat
  | .receiving | .holding _ | .placing _ => 1
  | _ => 0

theorem allowance_le (p : Position) : p.allowance ≤ 1 := by cases p <;> simp [allowance]

/-- The drain of the inbound channel is over. -/
def drained : Position → Bool
  | .countingDrained .. | .settling .. | .releasing .. | .confirming .. | .reporting .. | .late _
  | .countingLate .. | .answeringLate .. | .finished => true
  | _ => false

theorem drained_of_confirmed {p : Position} (h : p.confirmed = true) : p.drained = true := by
  cases p <;> first | rfl | cases h

end Position

namespace Loop

variable {l l' : Loop} {h h' : Hub}

namespace Step

/-- Under a close request every placement is taken from the allowance, and no step adds to it. -/
theorem places_le (hs : Step l h l' h') (hc : h.lifecycle.closeRequested = true) :
    l.places.length + l'.position.allowance ≤ l.position.allowance := by
  cases hs with
  | seeNone _ hn => simp [hc] at hn
  | place hp | pick hp | begin hp | seeClose hp | stop hp | exhaust hp | giveUp hp | reserve hp
  | findGone hp | count hp | stopAwaiting hp | seeTaken hp | loseReaders hp | abandon hp
  | countAbandoned hp | closeInbound hp | drain hp | endDrain hp | countDrained hp | settle hp
  | release hp | confirm hp | report hp | takeLate hp | finish hp | countLate hp | answerLate hp =>
    simp [places, hp, goto, Position.allowance]

/-- The drain ends on an empty queue. -/
theorem drained_cases (hs : Step l h l' h') (hp : l'.position.drained = true) :
    l.position.drained = true ∨
      ∃ exit n, l.position = .draining exit n ∧ l.inbound.queue = [] := by
  cases hs with
  | endDrain hq hqueue => exact .inr ⟨_, _, hq, hqueue⟩
  | countDrained hq | settle hq | release hq | confirm hq | report hq | takeLate hq | finish hq
  | countLate hq | answerLate hq => exact .inl (by rw [hq]; rfl)
  | begin | seeClose | seeNone | stop | pick | exhaust | giveUp | reserve | findGone | place | count
  | stopAwaiting | seeTaken | loseReaders | abandon | countAbandoned | closeInbound | drain =>
    cases hp

/-- A loop that ran does not come back to its beginning. -/
theorem not_wired (hs : Step l h l' h') : l'.position ≠ .wired := by
  cases hs <;> exact Position.noConfusion

end Step

theorem places_of_drained (hp : l.position.drained = true) : l.places = [] := by
  unfold places
  split
  · rename_i hq
    rw [hq] at hp
    cases hp
  · rfl

end Loop

namespace Exchange

variable {w w' : Exchange} {m : Move} {label : String} {slots spare : Nat}

/-- Only the loop places and answers, and it keeps in order what it did. -/
theorem Step.placed_cases (hs : Step w m w') :
    (∃ l h, w.loop.Step w.hub l h ∧ w' = w.afterLoop l h) ∨
      w'.placed = w.placed ∧ w'.refused = w.refused ∧ w'.loop.position = w.loop.position := by
  cases hs with
  | loop hl => exact .inl ⟨_, _, hl, rfl⟩
  | sending | shut | take | answer | addHandle | dropHandle | cloneSpare | dropSpare | markRunning
  | claimStop | publish | note => exact .inr ⟨rfl, rfl, rfl⟩

theorem Step.accepted_grows (hs : Step w m w') : w.accepted <+: w'.accepted := by
  cases hs with
  | sending => exact List.prefix_append ..
  | loop | shut | take | answer | addHandle | dropHandle | cloneSpare | dropSpare | markRunning
  | claimStop | publish | note => exact List.prefix_refl _

/-- What was accepted stays accepted. -/
theorem accepted_later (hl : Reached step w w') : w.accepted <+: w'.accepted :=
  hl.invariant (P := fun v => w.accepted <+: v.accepted) (List.prefix_refl _)
    fun _ _ _ hv hs => hv.trans (step_cases hs).accepted_grows

/-- A loop that has not run has placed nothing. -/
theorem Reachable.placed_of_wired (h : Reachable label slots spare w)
    (hp : w.loop.position = .wired) : w.placed = [] := by
  revert hp
  refine Reached.invariant (P := fun w => w.loop.position = .wired → w.placed = []) h
    (fun _ => rfl) fun m w w' hi hs hp => ?_
  rcases (step_cases hs).placed_cases with ⟨l, h, hl, rfl⟩ | ⟨hplaced, -, hq⟩
  · exact absurd hp hl.not_wired
  · rw [hplaced]
    exact hi (hq.symm.trans hp)

/-- From a published close request on, what is placed comes out of the allowance. -/
theorem placed_under_request (hc : w.hub.lifecycle.closeRequested = true)
    (hl : Reached step w w') : ∃ more, w'.placed = w.placed ++ more ∧
      more.length + w'.loop.position.allowance ≤ w.loop.position.allowance := by
  refine (Reached.invariant (P := fun v => v.hub.lifecycle.closeRequested = true ∧
    ∃ more, v.placed = w.placed ++ more ∧
      more.length + v.loop.position.allowance ≤ w.loop.position.allowance) hl
    ⟨hc, [], (List.append_nil _).symm, by simp⟩ ?_).2
  rintro m v v' ⟨hv, more, hplaced, hle⟩ hs
  refine ⟨(step_cases hs).closeRequested hv, ?_⟩
  rcases (step_cases hs).placed_cases with ⟨l, h, hstep, rfl⟩ | ⟨hsame, -, hq⟩
  · have hstep' := hstep.places_le hv
    refine ⟨more ++ v.loop.places, ?_, ?_⟩
    · rw [← List.append_assoc, ← hplaced]
      rfl
    · simp only [afterLoop, List.length_append] at hle ⊢
      omega
  · refine ⟨more, hsame.trans hplaced, ?_⟩
    rw [hq]
    exact hle

/-- What was accepted before the drain is over is placed or answered when it is over, and before
anything that comes later. -/
theorem Steady.settled_of_drained (hw : w.Steady) (hl : Reached Exchange.step w w')
    (hp : w.loop.position.drained = false) (hp' : w'.loop.position.drained = true) :
    w.accepted <+: w'.placed ++ w'.refused := by
  refine (Reached.invariant (P := fun v => v.Steady ∧ w.accepted <+: v.accepted ∧
    (v.loop.position.drained = true → w.accepted <+: v.placed ++ v.refused)) hl
    ⟨hw, List.prefix_refl _, fun h => absurd (hp.symm.trans h) nofun⟩ ?_).2.2 hp'
  rintro m v v' ⟨hv, hprefix, hsettled⟩ hs
  refine ⟨hv.step m hs, hprefix.trans (step_cases hs).accepted_grows, fun hd => ?_⟩
  rcases (step_cases hs).placed_cases with ⟨l, h, hstep, rfl⟩ | ⟨hplaced, hrefused, hq⟩
  · rcases hstep.drained_cases hd with hbefore | ⟨exit, n, hq, hqueue⟩
    · refine (hsettled hbefore).trans ?_
      simp only [afterLoop, Loop.places_of_drained hbefore, List.append_nil, ← List.append_assoc]
      exact List.prefix_append ..
    · -- with an empty queue and nothing in hand, all that was accepted is placed or answered
      have horder := hv.order
      simp only [hq, hqueue, Position.hand, List.append_nil] at horder
      simp only [afterLoop, Loop.places, Loop.answers, hq, hqueue, List.take_nil, List.append_nil]
      exact horder ▸ hprefix
  · rw [hplaced, hrefused]
    exact hsettled (hq ▸ hd)

/-- What the loop answered was answered `stageClosed`. -/
theorem Steady.outcome_of_refused (hw : w.Steady) {t : Transaction} (ht : t ∈ w.refused) :
    w.outcome t = some .stageClosed := hw.sound.refusedClosed t ht

/-- A loop that runs under a close request from its beginning places nothing, and all that is queued
by then is answered when it has drained its inbound channel. -/
theorem Steady.refused_of_wired (hw : w.Steady) (hc : w.hub.lifecycle.closeRequested = true)
    (hp : w.loop.position = .wired) (hplaced : w.placed = []) (hl : Reached Exchange.step w w') :
    w'.placed = [] ∧ (w'.loop.position.drained = true →
      ∀ t ∈ w.loop.inbound.queue, t ∈ w'.refused ∧ w'.outcome t = some .stageClosed) := by
  have hnone : w'.placed = [] := by
    obtain ⟨more, he, hle⟩ := placed_under_request hc hl
    rw [hp] at hle
    rw [he, hplaced, List.eq_nil_of_length_eq_zero (Nat.le_zero.mp (Nat.le_of_add_right_le hle))]
    rfl
  refine ⟨hnone, fun hd t ht => ?_⟩
  have haccepted : t ∈ w.accepted := by
    rw [hw.order]
    exact List.mem_append_right _ ht
  have hprefix := hw.settled_of_drained hl (by rw [hp]; rfl) hd
  rw [hnone, List.nil_append] at hprefix
  have hrefused := hprefix.mem haccepted
  exact ⟨hrefused, (hw.later hl).outcome_of_refused hrefused⟩

/-- Once a close request is published, the loop places at most one more transaction, whichever
branch it looks at where it waits and whatever its readers do. If the request was there before the
loop ran, it places none, it can go on until it has confirmed the close and does so in a bounded
number of steps, and by then it has answered whatever was queued. -/
theorem at_most_one_after_request (h : Reachable label slots spare w)
    (hc : w.hub.lifecycle.closeRequested = true) {moves : List Move} (hr : run moves w = some w') :
    (∃ more, w'.placed = w.placed ++ more ∧ more.length ≤ 1) ∧
      (w.loop.position = .wired →
        w'.placed = [] ∧
        (w'.loop.position.confirmed = false → ∃ b, (step (.loop b) w').isSome) ∧
        (12 + slots ≤ moves.countP Move.isLoop → w'.loop.position.confirmed = true) ∧
        (w'.loop.position.confirmed = true → w'.hub.lifecycle.closed = true ∧
          ∀ t ∈ w.loop.inbound.queue, t ∈ w'.refused ∧ w'.outcome t = some .stageClosed) ∧
        w'.accepted = w'.refused ++ w'.loop.position.hand ++ w'.loop.inbound.queue) := by
  have hw := h.steady
  have hlater : Reached step w w' := Reached.of_moves hr
  refine ⟨?_, fun hp => ?_⟩
  · obtain ⟨more, he, hle⟩ := placed_under_request hc hlater
    have hallowance := w.loop.position.allowance_le
    exact ⟨more, he, by omega⟩
  · obtain ⟨hplaced, hanswers⟩ := hw.refused_of_wired hc hp (h.placed_of_wired hp) hlater
    obtain ⟨hw', hclosing, hbound⟩ := closing_run (attentive_of_reached h) (.inl hc) hr
    refine ⟨hplaced, exists_loop_step hclosing, hbound, fun hq => ⟨hw'.closed hq, ?_⟩, ?_⟩
    · exact hanswers (Position.drained_of_confirmed hq)
    · have horder := (hw.later hlater).order
      rwa [hplaced, List.nil_append] at horder

/-- Two transactions are queued when a loop runs that was asked to close before: neither is placed,
both are answered. -/
theorem at_most_one_after_request_at_start : ∃ w, Reachable "none" 2 0 w ∧
    w.loop.position = .wired ∧ w.hub.lifecycle.closeRequested = true ∧
      w.loop.inbound.queue.length = 2 ∧
      ∀ moves w', run moves w = some w' → 14 ≤ moves.countP Move.isLoop → w'.placed = [] ∧
        w'.hub.lifecycle.closed = true ∧
          ∀ t ∈ w.loop.inbound.queue, w'.outcome t = some .stageClosed := by
  obtain ⟨w, hw, hp, hc, hq⟩ : ∃ w, [Move.sending (.issue ⟨[]⟩), .sending (.issue ⟨[]⟩),
      .sending (.send ⟨0, ⟨[]⟩⟩), .sending (.send ⟨1, ⟨[]⟩⟩), .claimStop, .publish].foldlM
        (fun w m => step m w) (start "none" 2 0) = some w ∧ w.loop.position = .wired ∧
          w.hub.lifecycle.closeRequested = true ∧ w.loop.inbound.queue.length = 2 :=
    ⟨_, rfl, rfl, rfl, rfl⟩
  have hreached := Reached.of_moves hw
  refine ⟨w, hreached, hp, hc, hq, fun moves w' hr hcount => ?_⟩
  obtain ⟨hplaced, -, hbound, hanswers, -⟩ := (at_most_one_after_request hreached hc hr).2 hp
  obtain ⟨hclosed, hall⟩ := hanswers (hbound hcount)
  exact ⟨hplaced, hclosed, fun t ht => (hall t ht).2⟩

/-- Asked to close while it waits for a transaction, the loop may still place one. -/
example : ((run [.sending (.issue ⟨[]⟩), .sending (.send ⟨0, ⟨[]⟩⟩), .loop .channel, .loop .channel,
    .claimStop, .publish, .loop .channel, .loop .channel, .loop .channel] (start "none" 2 0)).map
      (·.placed.length)) = some 1 := by rfl

end Exchange
end Handoff

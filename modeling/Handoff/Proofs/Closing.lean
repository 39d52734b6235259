import Handoff.Proofs.Exchange

/-!
# A close cannot be held up

A loop that was asked to close, or that has decided to leave on its own, always has a step to make
until it has confirmed the close. Every such step takes from the work that is left, and nobody else
can add to it. Before the loop has closed inbound, the capacity of the channel stands for what there
will be to answer. From then on it is what is queued together with the slots set aside: a late
delivery turns one into the other, and no new slot is given out.

Nothing here depends on the outbound channel, which may have any number of slots.
-/
namespace Handoff

namespace Position

/-- The loop has confirmed the close. -/
def confirmed : Position → Bool
  | .reporting .. | .late _ | .countingLate .. | .answeringLate .. | .finished => true
  | _ => false

/-- Steps to the confirmation of a requested close on the longest way there, without those of the
drain that answer a transaction. -/
def distance : Position → Nat
  | .receiving => 12
  | .holding _ => 11
  | .placing _ => 10
  | .counting => 9
  | .wired | .awaitingTake | .abandoning .. => 8
  | .checking | .countingAbandoned _ => 7
  | .closingInbound _ => 6
  | .draining .. => 5
  | .countingDrained .. => 4
  | .settling .. => 3
  | .releasing .. => 2
  | .confirming .. => 1
  | .reporting .. | .late _ | .countingLate .. | .answeringLate .. | .finished => 0

theorem distance_le (p : Position) : p.distance ≤ 12 := by cases p <;> simp [distance]

theorem confirmed_of_distance {p : Position} (h : p.distance = 0) : p.confirmed = true := by
  cases p <;> first | rfl | cases h

end Position

namespace Inlet

variable {i i' : Inlet}

theorem Step.capacity_eq (hs : Step i i') : i'.channel.capacity = i.channel.capacity := by
  cases hs <;> first | rfl | exact Channel.capacity_sweep _

/-- Once inbound is closed, senders can only turn a slot set aside into a queued transaction, or
give it up. -/
theorem Step.backlog_le (hg : i.channel.Guarded) (ha : i.channel.accepting = false)
    (hs : Step i i') : i'.channel.queue.length + i'.channel.permits ≤
      i.channel.queue.length + i.channel.permits := by
  have hl := hg.closed ha
  cases hs with
  | issue | discard | join => exact Nat.le_refl _
  | send _ _ ht | lineUp _ _ ht | reserve _ ht => simp [ha] at ht
  | deliver hp => simp [(Channel.line_eq_nil.mp hl).1] at hp
  | keep hp => simp [(Channel.line_eq_nil.mp hl).1] at hp
  | withdraw hw => simp [hl] at hw
  | spend _ hp =>
    simp only [Channel.spend, List.length_append, List.length_singleton]
    omega
  | forfeit => exact Nat.add_le_add_left (Nat.sub_le ..) _
  | leave =>
    rw [hg.leave_still.1]
    exact Nat.le_refl _

end Inlet

namespace Loop

variable {l l' : Loop} {h h' : Hub}

/-- Nothing keeps the loop from closing: the close was requested, or the loop is about to leave for
another reason. -/
def Closing (l : Loop) (h : Hub) : Prop :=
  h.lifecycle.closeRequested = true ∨ l.position.stays = false

/-- What may have to be answered when the loop closes inbound, or after. -/
def backlog (l : Loop) : Nat :=
  if l.position.accepts then l.inbound.capacity else l.inbound.queue.length + l.inbound.permits

/-- The most steps that the loop can make before it confirms a requested close. -/
def work (l : Loop) : Nat := l.position.distance + l.backlog

theorem Inflow.backlog_le (hi : l.Inflow) : l.backlog ≤ l.inbound.capacity := by
  have hfits := hi.guarded.fits
  unfold backlog
  split
  · exact Nat.le_refl _
  · simp only [Channel.Fits, Channel.used] at hfits
    omega

/-- Wherever the loop waits, the close request wakes it; after the waits it needs nobody. -/
theorem exists_step (hc : l.Closing h) (hp : l.position.confirmed = false) :
    ∃ b, (l.step b h).isSome := by
  unfold Closing at hc
  cases hq : l.position with
  | reporting | late | countingLate | answeringLate | finished => rw [hq] at hp; cases hp
  | receiving | holding | awaitingTake =>
    rw [hq] at hc
    have hr : h.lifecycle.closeRequested = true := hc.resolve_right nofun
    exact ⟨.close, by simp [step, hq, onClose, hr]⟩
  | checking =>
    refine ⟨.close, ?_⟩
    simp only [step, hq]
    split <;> rfl
  | draining =>
    refine ⟨.close, ?_⟩
    simp only [step, hq]
    split <;> rfl
  | wired | placing | counting | abandoning | countingAbandoned | closingInbound | countingDrained
  | settling | releasing | confirming => exact ⟨.close, by simp [step, hq]⟩

namespace Step

/-- A loop that has decided to leave does not go back to forwarding. -/
theorem stays_of_left (hs : Step l h l' h') (hp : l.position.stays = false) :
    l'.position.stays = false := by
  cases hs with
  | begin hq | seeNone hq | pick hq | reserve hq | place hq | count hq | seeTaken hq =>
    rw [hq] at hp
    cases hp
  | seeClose | stop | exhaust | giveUp | findGone | stopAwaiting | loseReaders | abandon
  | countAbandoned | closeInbound | drain | endDrain | countDrained | settle | release | confirm
  | report | takeLate | finish | countLate | answerLate => rfl

theorem closing (hs : Step l h l' h') (hc : l.Closing h) : l'.Closing h' :=
  hc.imp (hs.leaves.closeRequested.trans ·) hs.stays_of_left

theorem confirmed (hs : Step l h l' h') (hp : l.position.confirmed = true) :
    l'.position.confirmed = true := by
  cases hs with
  | report | takeLate | finish | countLate | answerLate => rfl
  | begin hq | seeClose hq | seeNone hq | stop hq | pick hq | exhaust hq | giveUp hq | reserve hq
  | findGone hq | place hq | count hq | stopAwaiting hq | seeTaken hq | loseReaders hq | abandon hq
  | countAbandoned hq | closeInbound hq | drain hq | endDrain hq | countDrained hq | settle hq
  | release hq | confirm hq => rw [hq] at hp; cases hp

/-- The confirmation is given at one place, where nothing else happens. -/
theorem closed_cases (hs : Step l h l' h') : h'.lifecycle.closed = h.lifecycle.closed ∧
    l'.position.confirmed = l.position.confirmed ∨
      ∃ e n, l.position = .confirming e n ∧ l' = l.goto (.reporting e n) ∧
        h' = { h with lifecycle := h.lifecycle.confirm.2 } := by
  cases hs with
  | confirm hp => exact .inr ⟨_, _, hp, rfl, rfl⟩
  | @finish n hq =>
    refine .inl ⟨?_, by rw [hq]; rfl⟩
    show (Hub.lifecycle (if 0 < n then _ else _)).closed = _
    split <;> rfl
  | begin hq | seeClose hq | seeNone hq | stop hq | pick hq | exhaust hq | giveUp hq | reserve hq
  | findGone hq | place hq | count hq | stopAwaiting hq | seeTaken hq | loseReaders hq | abandon hq
  | countAbandoned hq | closeInbound hq | drain hq | endDrain hq | countDrained hq | settle hq
  | release hq | report hq | takeLate hq | countLate hq | answerLate hq =>
    exact .inl ⟨rfl, by rw [hq]; rfl⟩

/-- A loop past its confirmation has given it. -/
theorem closed_of_confirmed (hs : Step l h l' h')
    (hc : l.position.confirmed = true → h.lifecycle.closed = true)
    (hp : l'.position.confirmed = true) : h'.lifecycle.closed = true := by
  rcases hs.closed_cases with ⟨hclosed, hq⟩ | ⟨e, n, -, -, rfl⟩
  · exact hclosed.trans (hc (hq.symm.trans hp))
  · rfl

/-- A loop that gives the only confirmation is past it when it is given, and not before. -/
theorem closed_eq (hs : Step l h l' h') (hc : h.lifecycle.closed = l.position.confirmed) :
    h'.lifecycle.closed = l'.position.confirmed := by
  rcases hs.closed_cases with ⟨hclosed, hp⟩ | ⟨e, n, -, rfl, rfl⟩
  · rw [hclosed, hp, hc]
  · rfl

theorem capacity_eq (hs : Step l h l' h') : l'.inbound.capacity = l.inbound.capacity := by
  cases hs with
  | pick _ _ hc | drain _ _ hc | takeLate _ _ hc => subst hc; rfl
  | begin | seeClose | seeNone | stop | exhaust | giveUp | reserve | findGone | place | count
  | stopAwaiting | seeTaken | loseReaders | abandon | countAbandoned | closeInbound | endDrain
  | countDrained | settle | release | confirm | report | finish | countLate | answerLate => rfl

/-- Every step towards the confirmation takes from the work that is left. -/
theorem work_lt (hi : l.Inflow) (hc : l.Closing h) (hp : l.position.confirmed = false)
    (hs : Step l h l' h') : l'.work < l.work := by
  have hbound := hi.backlog_le
  cases hs with
  | seeNone hq hn =>
    rw [Closing, hq, hn] at hc
    simp [Position.stays] at hc
  | report hq | takeLate hq | finish hq | countLate hq | answerLate hq => rw [hq] at hp; cases hp
  | drain hq hqueue hc =>
    subst hc
    simp [work, backlog, hq, Position.distance, Position.accepts, Channel.grant, hqueue]
  | closeInbound hq =>
    -- what was queued or set aside had its slot in the capacity that stood for it
    have hfits := hi.guarded.fits
    simp only [Channel.Fits, Channel.used] at hfits
    simp only [work, backlog, hq, Position.distance, Position.accepts, Channel.close, if_true]
    simp only [Bool.false_eq_true, if_false]
    omega
  | pick hq hqueue hc =>
    subst hc
    simp [work, backlog, hq, Position.distance, Position.accepts, Channel.grant]
  | begin hq | seeClose hq | stop hq | exhaust hq | giveUp hq | reserve hq | findGone hq | place hq
  | count hq | stopAwaiting hq | seeTaken hq | loseReaders hq | abandon hq | countAbandoned hq
  | endDrain hq | countDrained hq | settle hq | release hq | confirm hq =>
    simp [work, backlog, hq, goto, Position.distance, Position.accepts]

end Step
end Loop

namespace Exchange

/-- A loop that has not run, with so many inbound slots, wired to any hub. -/
def wire (label : String) (slots : Nat) (hub : Hub) : Exchange :=
  { loop := { label, inbound := { capacity := slots } }
    hub
    spare := hub.outlet.channel.senders - 1 }

/-- The moves of the loop. -/
def Move.isLoop : Move → Bool
  | .loop _ => true
  | _ => false

/-- What a list of moves leads to, if all of them can be made. -/
def run (moves : List Move) (w : Exchange) : Option Exchange :=
  moves.foldlM (fun w m => step m w) w

variable {w w' : Exchange} {m : Move} {label : String} {slots : Nat} {hub : Hub}

/-- The inbound channel is what the position of the loop says, with all its slots, and a loop that
is past its confirmation has given it. -/
structure Attentive (slots : Nat) (w : Exchange) : Prop where
  inflow : w.loop.Inflow
  capacity : w.loop.inbound.capacity = slots
  closed : w.loop.position.confirmed = true → w.hub.lifecycle.closed = true

namespace Attentive

theorem wire (label : String) (slots : Nat) (hub : Hub) :
    (Exchange.wire label slots hub).Attentive slots :=
  ⟨⟨.of_accepting (Nat.zero_le _) rfl rfl, rfl, nofun⟩, rfl, nofun⟩

theorem step (hw : w.Attentive slots) (hs : Step w m w') : w'.Attentive slots := by
  have hcapacity := hw.capacity
  have hclosed := hw.closed
  cases hs with
  | loop hl =>
    exact ⟨hw.inflow.step hl, hl.capacity_eq.trans hcapacity, hl.closed_of_confirmed hclosed⟩
  | sending hi =>
    exact ⟨inflow_sending hw.inflow hi, hi.capacity_eq.trans hcapacity, hclosed⟩
  | shut hp => exact ⟨inflow_shut hw.inflow hp, hcapacity, hclosed⟩
  | markRunning =>
    exact ⟨hw.inflow, hcapacity, fun hp => (Lifecycle.closed_markRunning _).trans (hclosed hp)⟩
  | claimStop =>
    exact ⟨hw.inflow, hcapacity, fun hp => (Lifecycle.closed_claimStop _).trans (hclosed hp)⟩
  | take | answer | addHandle | dropHandle | cloneSpare | dropSpare | publish | note =>
    exact ⟨hw.inflow, hcapacity, hclosed⟩

end Attentive

/-- Others leave the loop where it is, and add nothing to its work. -/
theorem Step.work_le (hw : w.Attentive slots) (hs : Step w m w') (hm : m.isLoop = false) :
    w'.loop.work ≤ w.loop.work := by
  have hinflow := hw.inflow
  cases hs with
  | loop => cases hm
  | @sending _ i hi =>
    have hcapacity : i.channel.capacity = w.loop.inbound.capacity := hi.capacity_eq
    have hbacklog := hi.backlog_le hinflow.guarded
    refine Nat.add_le_add_left ?_ _
    show Loop.backlog { w.loop with inbound := i.channel } ≤ w.loop.backlog
    unfold Loop.backlog
    split
    · exact Nat.le_of_eq hcapacity
    · exact hbacklog (hinflow.closed (Bool.not_eq_true _ ▸ ‹_›))
  | shut hp => simp [Loop.work, Loop.backlog, hp, Position.accepts, Channel.close]
  | take | answer | addHandle | dropHandle | cloneSpare | dropSpare | markRunning | claimStop
  | publish | note => exact Nat.le_refl _

/-- A loop that is closing goes on closing, whoever moves. -/
theorem Step.closing (hs : Step w m w') (hc : w.loop.Closing w.hub) : w'.loop.Closing w'.hub := by
  rcases hs.position_cases with ⟨b, rfl⟩ | ⟨hp, -⟩
  · cases hs with
    | loop hl => exact hl.closing hc
  · refine hc.imp hs.closeRequested fun hstays => ?_
    rw [hp]
    exact hstays

theorem Step.confirmed (hs : Step w m w') (hp : w.loop.position.confirmed = true) :
    w'.loop.position.confirmed = true := by
  rcases hs.position_cases with ⟨b, rfl⟩ | ⟨hq, -⟩
  · cases hs with
    | loop hl => exact hl.confirmed hp
  · rw [hq]
    exact hp

/-- Nobody but the loop gives its confirmation. -/
theorem Step.closed_eq (hs : Step w m w')
    (hc : w.hub.lifecycle.closed = w.loop.position.confirmed) :
    w'.hub.lifecycle.closed = w'.loop.position.confirmed := by
  rcases hs.position_cases with ⟨b, rfl⟩ | ⟨hp, hclosed⟩
  · cases hs with
    | loop hl => exact hl.closed_eq hc
  · rw [hp, hclosed, hc]

/-- A close that is confirmed by a move is confirmed by the loop, which does nothing else then. -/
theorem Step.confirming (hs : Step w m w') (hc : w.hub.lifecycle.closed = false)
    (hc' : w'.hub.lifecycle.closed = true) : m.isLoop = true ∧
      ∃ e n, w.loop.position = .confirming e n ∧ w' = w.afterLoop (w.loop.goto (.reporting e n))
        { w.hub with lifecycle := w.hub.lifecycle.confirm.2 } := by
  rcases hs.position_cases with ⟨b, rfl⟩ | ⟨-, hclosed⟩
  · cases hs with
    | loop hl =>
      rcases hl.closed_cases with ⟨hclosed, -⟩ | ⟨e, n, hp, rfl, rfl⟩
      · exact absurd (hc'.symm.trans (hclosed.trans hc)) nofun
      · exact ⟨rfl, e, n, hp, rfl⟩
  · exact absurd (hc'.symm.trans (hclosed.trans hc)) nofun

/-- Each move brings a closing loop to its confirmation, or takes from the work that is left before
it if it is one of the loop, and does not add to it in any case. -/
theorem Step.confirmed_or_work_le (hw : w.Attentive slots) (hc : w.loop.Closing w.hub)
    (hs : Step w m w') :
    w.loop.position.confirmed = true ∨ w'.loop.work + m.isLoop.toNat ≤ w.loop.work := by
  cases hp : w.loop.position.confirmed with
  | true => exact .inl rfl
  | false =>
    refine .inr ?_
    cases hm : m.isLoop with
    | false => exact hs.work_le hw hm
    | true =>
      cases hs with
      | loop hl => exact hl.work_lt hw.inflow hc hp
      | _ => cases hm

/-- A loop that is closing is so along every schedule, and confirms the close before it has made as
many steps as its work allows. -/
theorem closing_run (hw : w.Attentive slots) (hc : w.loop.Closing w.hub) {moves : List Move}
    (hr : run moves w = some w') :
    w'.Attentive slots ∧ w'.loop.Closing w'.hub ∧
      (12 + slots ≤ moves.countP Move.isLoop → w'.loop.position.confirmed = true) := by
  obtain ⟨⟨hw', hc'⟩, hleft, -⟩ := goal_or_work_left Move.isLoop (fun w => w.loop.work)
    (fun w => w.Attentive slots ∧ w.loop.Closing w.hub)
    (fun w => w.loop.position.confirmed = true)
    (fun m _ _ hw hs => ⟨hw.1.step (step_cases hs), (step_cases hs).closing hw.2⟩)
    (fun m _ _ _ hp hs => (step_cases hs).confirmed hp)
    (fun m _ _ hw hs => (step_cases hs).confirmed_or_work_le hw.1 hw.2) ⟨hw, hc⟩ hr
  refine ⟨hw', hc', fun hcount => hleft.elim id fun hwork => ?_⟩
  -- as many steps as there was work leave none, and only after the confirmation is none left
  have hdistance := w.loop.position.distance_le
  have hbacklog := hw.inflow.backlog_le
  rw [hw.capacity] at hbacklog
  refine Position.confirmed_of_distance ?_
  simp only [Loop.work] at hwork
  omega

theorem closeRequested_later (hc : w.hub.lifecycle.closeRequested = true)
    (hl : Reached step w w') : w'.hub.lifecycle.closeRequested = true :=
  hl.invariant (P := fun w => w.hub.lifecycle.closeRequested = true) hc
    fun _ _ _ hc hs => (step_cases hs).closeRequested hc

/-- A confirmation is not taken back. -/
theorem closed_later (hc : w.hub.lifecycle.closed = true) (hl : Reached step w w') :
    w'.hub.lifecycle.closed = true := by
  refine hl.invariant (P := fun w => w.hub.lifecycle.closed = true) hc fun m v v' hc hs => ?_
  have hs := step_cases hs
  rcases hs.position_cases with ⟨b, rfl⟩ | ⟨-, hsame⟩
  · cases hs with
    | loop hl =>
      rcases hl.closed_cases with ⟨hsame, -⟩ | ⟨e, n, -, -, rfl⟩
      · exact hsame.trans hc
      · rfl
  · exact hsame.trans hc

/-- What the function of the loop can do, the loop can do in the exchange. -/
theorem exists_loop_step (hc : w.loop.Closing w.hub) (hp : w.loop.position.confirmed = false) :
    ∃ b, (step (.loop b) w).isSome := by
  obtain ⟨b, hb⟩ := Loop.exists_step hc hp
  exact ⟨b, by rwa [step, Option.isSome_map]⟩

theorem attentive_of_reached (h : Reached step (wire label slots hub) w) : w.Attentive slots :=
  h.invariant (.wire label slots hub) fun _ _ _ hw hs => hw.step (step_cases hs)

/-- Once a close is requested, or the loop has decided to leave for any reason, the loop can always
make a step until it has confirmed the close, and it confirms it within twelve steps and one for
every inbound slot, wherever it was and whatever senders, holders of slots and readers do between
its steps. Those slots bound what is queued together with what is set aside. -/
theorem closes_in_bounded_steps (h : Reached step (wire label slots hub) w)
    (hc : w.hub.lifecycle.closeRequested = true ∨ w.loop.position.stays = false) :
    w.loop.inbound.queue.length + w.loop.inbound.permits ≤ slots ∧
      ∀ moves w', run moves w = some w' →
        (w'.loop.position.confirmed = false → ∃ b, (step (.loop b) w').isSome) ∧
        (12 + slots ≤ moves.countP Move.isLoop → w'.loop.position.confirmed = true) ∧
        (w'.loop.position.confirmed = true → w'.hub.lifecycle.closed = true) := by
  have hw := attentive_of_reached h
  refine ⟨?_, fun moves w' hr => ?_⟩
  · have hfits := hw.inflow.guarded.fits
    simp only [Channel.Fits, Channel.used, hw.capacity] at hfits
    omega
  · obtain ⟨hw', hc', hbound⟩ := closing_run hw hc hr
    exact ⟨exists_loop_step hc', hbound, hw'.closed⟩

/-- One transaction waits for a reader that does not come, another one is queued behind it, and a
sender keeps a slot that it does not use. -/
theorem closes_in_bounded_steps_when_stalled : ∃ w,
    Reached step (wire "none" 2 { outlet := { channel := { capacity := 1 } } }) w ∧
      w.hub.lifecycle.closeRequested = true ∧ w.slot.length = 1 ∧
      w.loop.inbound.queue.length = 1 ∧ w.loop.inbound.permits = 1 ∧
      (∃ b, (step (.loop b) w).isSome) ∧
      ∀ moves w', run moves w = some w' → 14 ≤ moves.countP Move.isLoop →
        w'.hub.lifecycle.closed = true := by
  obtain ⟨w, hw, hc, hslot, hq, hp, hstays⟩ : ∃ w, [Move.sending (.issue ⟨[]⟩),
      .sending (.issue ⟨[]⟩), .sending (.send ⟨0, ⟨[]⟩⟩), .sending .reserve, .loop .channel,
      .loop .channel, .loop .channel, .loop .channel, .loop .channel, .loop .channel,
      .sending (.send ⟨1, ⟨[]⟩⟩), .claimStop, .publish].foldlM (fun w m => step m w)
        (wire "none" 2 { outlet := { channel := { capacity := 1 } } }) = some w ∧
          w.hub.lifecycle.closeRequested = true ∧ w.slot.length = 1 ∧
          w.loop.inbound.queue.length = 1 ∧ w.loop.inbound.permits = 1 ∧
          w.loop.position = .awaitingTake := ⟨_, rfl, rfl, rfl, rfl, rfl, rfl⟩
  have hreached := Reached.of_moves hw
  obtain ⟨-, hrun⟩ := closes_in_bounded_steps hreached (.inl hc)
  refine ⟨w, hreached, hc, hslot, hq, hp, (hrun [] w rfl).1 (by rw [hstays]; rfl), ?_⟩
  intro moves w' hr hcount
  obtain ⟨-, hbound, hclosed⟩ := hrun moves w' hr
  exact hclosed (hbound hcount)

end Exchange
end Handoff

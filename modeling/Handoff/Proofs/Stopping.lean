import Handoff.Proofs.Restraint
import Handoff.Proofs.Starting

/-!
# Stops by many callers

A call that stops a stage claims the move to stopped and then publishes the close request, unless
another call has claimed it before: then it returns at once. Any number of callers do so here, with
the start of the stage, its loop and everyone else between their steps.

The winner returns with the request published, so a start after that finds it. A caller that lost
knows only that someone has claimed the stop. Until that one publishes, a start goes ahead with a
loop that sees no request, and such a loop forwards. From the publication on the loop is bound as
any other is.
-/
namespace Handoff

/-- How far a call that stops the stage has come. -/
inductive StopCall
  | idle
  /-- has claimed the move to stopped and not published the request -/
  | publishing
  | returned (won : Bool)
deriving DecidableEq, Repr

/-- The calls of all callers, with one of them put in a new place. -/
def StopCall.put (calls : Nat → StopCall) (i : Nat) (c : StopCall) : Nat → StopCall :=
  fun j => if j = i then c else calls j

/-- A caller that is elsewhere than the one put there has not moved. -/
theorem StopCall.of_put {calls : Nat → StopCall} {i j : Nat} {c d : StopCall}
    (h : put calls i c j = d) (hne : c ≠ d) : j ≠ i ∧ calls j = d := by
  unfold put at h
  split at h
  · exact absurd h hne
  · exact ⟨‹_›, h⟩

namespace Lifecycle

variable {l l' : Lifecycle} {calls : Nat → StopCall} {i : Nat}

/-- Where a call is that has just tried to claim the move to stopped. -/
def afterClaim (l : Lifecycle) : StopCall := if l.claimStop.1 then .publishing else .returned false

theorem afterClaim_ne_idle (l : Lifecycle) : l.afterClaim ≠ .idle := by
  unfold afterClaim
  split <;> exact StopCall.noConfusion

/-- A claim is won unless the run state is stopped. -/
theorem claimStop_cases (l : Lifecycle) :
    l.state = .stopped ∧ l.claimStop = (false, l) ∨
      l.state ≠ .stopped ∧
        l.claimStop = (true, { l with state := .stopped, claimed := true }) := by
  unfold claimStop
  cases hs : l.state with
  | stopped => exact .inl ⟨rfl, rfl⟩
  | created | running => exact .inr ⟨nofun, rfl⟩

/-- From one lifecycle to the other no stop is claimed, published or taken back. -/
structure Keeps (l l' : Lifecycle) : Prop where
  claimed : l'.claimed = l.claimed
  closeRequested : l'.closeRequested = l.closeRequested
  stopped : l.state = .stopped → l'.state = .stopped

namespace Keeps

theorem refl (l : Lifecycle) : l.Keeps l := ⟨rfl, rfl, id⟩

theorem markRunning (l : Lifecycle) : l.Keeps l.markRunning.2 := by
  unfold Lifecycle.markRunning
  split
  · rename_i hc
    exact ⟨rfl, rfl, fun hs => absurd (hc.symm.trans hs) nofun⟩
  · exact refl l

end Keeps

/-- What a lifecycle says about the calls made so far. -/
structure Agrees (l : Lifecycle) (calls : Nat → StopCall) : Prop where
  claimed : l.claimed = true ↔ ∃ i, calls i = .publishing
  single : ∀ i j, calls i = .publishing → calls j = .publishing → i = j
  stopped : l.claimed = true ∨ l.closeRequested = true → l.state = .stopped
  won : ∀ i, calls i = .returned true → l.closeRequested = true
  lost : ∀ i, calls i = .returned false → l.state = .stopped

namespace Agrees

theorem fresh : Agrees {} fun _ => .idle := ⟨by simp, nofun, by simp, nofun, nofun⟩

theorem keeps (ha : l.Agrees calls) (hk : l.Keeps l') : l'.Agrees calls where
  claimed := by rw [hk.claimed]; exact ha.claimed
  single := ha.single
  stopped := by rw [hk.claimed, hk.closeRequested]; exact fun h => hk.stopped (ha.stopped h)
  won i hi := hk.closeRequested.trans (ha.won i hi)
  lost i hi := hk.stopped (ha.lost i hi)

/-- The first claim of all wins, and every later one returns. -/
theorem claim (ha : l.Agrees calls) (hi : calls i = .idle) :
    l.claimStop.2.Agrees (StopCall.put calls i l.afterClaim) := by
  unfold afterClaim
  rcases l.claimStop_cases with ⟨hs, hc⟩ | ⟨hs, hc⟩ <;> simp only [hc]
  · -- nothing changes but that the caller has returned
    have hkept : ∀ j, StopCall.put calls i (.returned false) j = .publishing ↔
        calls j = .publishing := by
      refine fun j => ⟨fun h => (StopCall.of_put h nofun).2, fun hj => ?_⟩
      have hne : j ≠ i := by
        rintro rfl
        exact absurd (hi.symm.trans hj) nofun
      exact (if_neg hne).trans hj
    refine ⟨?_, ?_, ha.stopped, fun j hj => ha.won j (StopCall.of_put hj nofun).2,
      fun _ _ => hs⟩
    · simpa [hkept] using ha.claimed
    · simpa [hkept] using ha.single
  · -- nobody has claimed it before, for the run state would be stopped
    have honly : ∀ j, StopCall.put calls i .publishing j = .publishing → j = i := by
      intro j hj
      by_cases hji : j = i
      · exact hji
      · have hj' : calls j = .publishing := (if_neg hji).symm.trans hj
        exact absurd (ha.stopped (.inl (ha.claimed.mpr ⟨j, hj'⟩))) hs
    exact ⟨⟨fun _ => ⟨i, if_pos rfl⟩, fun _ => rfl⟩,
      fun j k hj hk => (honly j hj).trans (honly k hk).symm, fun _ => rfl,
      fun j hj => ha.won j (StopCall.of_put hj nofun).2, fun _ _ => rfl⟩

theorem publish (ha : l.Agrees calls) (hi : calls i = .publishing) :
    l.publish.Agrees (StopCall.put calls i (.returned true)) := by
  have hs : l.state = .stopped := ha.stopped (.inl (ha.claimed.mpr ⟨i, hi⟩))
  have hnone : ∀ j, StopCall.put calls i (.returned true) j ≠ .publishing := by
    intro j hj
    obtain ⟨hne, hj'⟩ := StopCall.of_put hj nofun
    exact hne (ha.single j i hj' hi)
  exact ⟨⟨nofun, fun ⟨j, hj⟩ => absurd hj (hnone j)⟩, fun j _ hj => absurd hj (hnone j),
    fun _ => hs, fun _ _ => rfl, fun _ _ => hs⟩

end Agrees
end Lifecycle

/-- The loop has settled the run state. -/
def Position.settled : Position → Bool
  | .releasing .. | .confirming .. | .reporting .. | .late _ | .countingLate .. | .answeringLate ..
  | .finished => true
  | _ => false

theorem Position.stays_of_settled {p : Position} (h : p.settled = true) : p.stays = false := by
  cases p <;> first | rfl | cases h

namespace Loop.Step

variable {l l' : Loop} {h h' : Hub}

theorem keeps_lifecycle (hs : Step l h l' h') : h.lifecycle.Keeps h'.lifecycle := by
  cases hs with
  | settle => exact ⟨rfl, rfl, fun _ => rfl⟩
  | @finish n =>
    show h.lifecycle.Keeps (Hub.lifecycle (if 0 < n then _ else _))
    split <;> exact .refl _
  | confirm => exact ⟨rfl, rfl, id⟩
  | begin | seeClose | seeNone | stop | pick | exhaust | giveUp | reserve | findGone | place | count
  | stopAwaiting | seeTaken | loseReaders | abandon | countAbandoned | closeInbound | drain
  | endDrain | countDrained | release | report | takeLate | countLate | answerLate => exact .refl _

/-- Until it settles the run state, the loop leaves the lifecycle alone. -/
theorem settled_or_same (hs : Step l h l' h') : l'.position.settled = true ∨
    l.position.settled = false ∧ h'.lifecycle = h.lifecycle := by
  cases hs with
  | settle | release | confirm | report | takeLate | finish | countLate | answerLate =>
    exact .inl rfl
  | begin hp | seeClose hp | seeNone hp | stop hp | pick hp | exhaust hp | giveUp hp | reserve hp
  | findGone hp | place hp | count hp | stopAwaiting hp | seeTaken hp | loseReaders hp | abandon hp
  | countAbandoned hp | closeInbound hp | drain hp | endDrain hp | countDrained hp =>
    exact .inr ⟨by rw [hp]; rfl, rfl⟩

end Loop.Step

namespace Exchange

variable {w w' : Exchange} {m : Move}

/-- Who does not request a close leaves the requests alone. -/
theorem Step.keeps_lifecycle (hs : Step w m w') (hm : m.isStop = false) :
    w.hub.lifecycle.Keeps w'.hub.lifecycle := by
  cases hs with
  | loop hl => exact hl.keeps_lifecycle
  | markRunning => exact .markRunning _
  | claimStop | publish => cases hm
  | sending | shut | take | answer | addHandle | dropHandle | cloneSpare | dropSpare | note =>
    exact .refl _

theorem Step.settled (hs : Step w m w') (hd : w.loop.position.settled = true) :
    w'.loop.position.settled = true := by
  rcases hs.placed_cases with ⟨l, h, hl, rfl⟩ | ⟨-, -, hp⟩
  · refine hl.settled_or_same.resolve_right fun hn => ?_
    exact absurd (hn.1.symm.trans hd) nofun
  · rw [hp]
    exact hd

/-- Only a claim moves the run state to stopped, or the loop when it settles. -/
theorem Reachable.stopped_cases {label : String} {slots spare : Nat}
    (h : Reachable label slots spare w) (hs : w.hub.lifecycle.state = .stopped) :
    w.hub.lifecycle.claimed = true ∨ w.hub.lifecycle.closeRequested = true ∨
      w.loop.position.settled = true := by
  revert hs
  refine Reached.invariant (P := fun w => w.hub.lifecycle.state = .stopped →
    w.hub.lifecycle.claimed = true ∨ w.hub.lifecycle.closeRequested = true ∨
      w.loop.position.settled = true) h nofun fun m w w' hi hs hstopped => ?_
  cases step_cases hs with
  | @loop b l k hl =>
    rcases hl.settled_or_same with hd | ⟨hd, hsame⟩
    · exact .inr (.inr hd)
    · have hbefore : w.hub.lifecycle.state = .stopped := hsame ▸ hstopped
      have hi' := hi hbefore
      rw [hd, ← hsame] at hi'
      exact hi'.imp_right fun hc => .inl (hc.resolve_right nofun)
  | publish => exact .inr (.inl rfl)
  | claimStop =>
    by_cases hbefore : w.hub.lifecycle.state = .stopped
    · have hi' := hi hbefore
      simpa [Lifecycle.claimStop, hbefore] using hi'
    · refine .inl ?_
      cases hstate : w.hub.lifecycle.state <;> simp_all [Lifecycle.claimStop]
  | markRunning =>
    cases hstate : w.hub.lifecycle.state <;> simp_all [Lifecycle.markRunning]
  | sending | shut | take | answer | addHandle | dropHandle | cloneSpare | dropSpare | note =>
    exact hi hstopped

/-- Until the loop runs, only a claim moves the run state to stopped. -/
theorem Reachable.claimed_of_stopped {label : String} {slots spare : Nat}
    (h : Reachable label slots spare w) (hp : w.loop.position = .wired)
    (hs : w.hub.lifecycle.state = .stopped) :
    w.hub.lifecycle.claimed = true ∨ w.hub.lifecycle.closeRequested = true := by
  have hcases := h.stopped_cases hs
  rw [hp] at hcases
  exact hcases.imp_right fun hc => hc.resolve_right nofun

end Exchange

namespace Staging

/-- The steps of a close request. -/
def Move.isStop : Move → Bool
  | .other m => m.isStop
  | _ => false

variable {w w' : Staging} {m : Move}

theorem step_other_cases {m : Exchange.Move} (hs : step (.other m) w = some w') :
    w.permits m = true ∧ ∃ e, w.exchange.step m = some e ∧ w' = { w with exchange := e } := by
  simp only [step, Option.ite_none_right_eq_some, Option.map_eq_some_iff] at hs
  obtain ⟨hp, e, he, rfl⟩ := hs
  exact ⟨hp, e, he, rfl⟩

/-- What is not a step of a close request leaves the requests alone. -/
theorem keeps_lifecycle (hw : w.Sane) (hs : step m w = some w') (hm : m.isStop = false) :
    w.exchange.hub.lifecycle.Keeps w'.exchange.hub.lifecycle := by
  rcases step_simulates hw hs with he | ⟨m', hstop, he⟩
  · rw [he]
    exact .refl _
  · refine (Exchange.step_cases he).keeps_lifecycle (Bool.eq_false_iff.mpr fun h => ?_)
    rw [hstop h] at hm
    exact absurd (hm.symm.trans h) nofun

end Staging

/-- A stage, its start and everyone around, with the calls that stop it told apart. -/
structure Stopping where
  staging : Staging
  calls : Nat → StopCall

namespace Stopping

inductive Move
  | claim (caller : Nat)
  | publish (caller : Nat)
  /-- anything else that can happen -/
  | other (m : Staging.Move)
deriving Repr

/-- A stage to be started with an inbound channel of so many slots. Nobody has called. -/
def start (slots : Nat) : Stopping := { staging := .start slots, calls := fun _ => .idle }

def exchange (w : Stopping) : Exchange := w.staging.exchange

def lifecycle (w : Stopping) : Lifecycle := w.exchange.hub.lifecycle

/-- One step. The winner reports the request after it has published it. -/
def step (m : Move) (w : Stopping) : Option Stopping :=
  match m with
  | .claim i =>
    if w.calls i = .idle then
      (w.staging.step (.other .claimStop)).map fun s =>
        { staging := s, calls := StopCall.put w.calls i w.lifecycle.afterClaim }
    else none
  | .publish i =>
    if w.calls i = .publishing then
      (w.staging.step (.other .publish)).bind fun s =>
        (s.step (.other (.note .closeRequested))).map fun s =>
          { staging := s, calls := StopCall.put w.calls i (.returned true) }
    else none
  | .other m => if m.isStop then none else (w.staging.step m).map fun s => { w with staging := s }

variable {w w' : Stopping} {m : Move} {slots : Nat}

theorem step_other_cases {m : Exchange.Move} (hs : step (.other (.other m)) w = some w') :
    w.staging.permits m = true ∧ ∃ e, w.exchange.step m = some e ∧
      w' = { w with staging := { w.staging with exchange := e } } := by
  simp only [step, Option.ite_none_left_eq_some, Option.map_eq_some_iff] at hs
  obtain ⟨-, s, hs, rfl⟩ := hs
  obtain ⟨hp, e, he, rfl⟩ := Staging.step_other_cases hs
  exact ⟨hp, e, he, rfl⟩

theorem step_claim_cases {i : Nat} (hs : step (.claim i) w = some w') : w.calls i = .idle ∧
    w'.calls = StopCall.put w.calls i w.lifecycle.afterClaim ∧
      w'.staging.attachment = w.staging.attachment := by
  simp only [step, Option.ite_none_right_eq_some, Option.map_eq_some_iff] at hs
  obtain ⟨hi, s, hs, rfl⟩ := hs
  obtain ⟨-, e, -, rfl⟩ := Staging.step_other_cases hs
  exact ⟨hi, rfl, rfl⟩

theorem step_publish_cases {i : Nat} (hs : step (.publish i) w = some w') :
    w.calls i = .publishing ∧ w'.calls = StopCall.put w.calls i (.returned true) ∧
      w'.staging.attachment = w.staging.attachment := by
  simp only [step, Option.ite_none_right_eq_some, Option.bind_eq_some_iff,
    Option.map_eq_some_iff] at hs
  obtain ⟨hi, s, hs, s', hs', rfl⟩ := hs
  obtain ⟨-, e, -, rfl⟩ := Staging.step_other_cases hs
  obtain ⟨-, e', -, rfl⟩ := Staging.step_other_cases hs'
  exact ⟨hi, rfl, rfl⟩

/-- A step here is some steps of the stage and those around it. -/
theorem reached_of_step (hs : step m w = some w') :
    Reached Staging.step w.staging w'.staging := by
  cases m with
  | claim i =>
    simp only [step, Option.ite_none_right_eq_some, Option.map_eq_some_iff] at hs
    obtain ⟨-, s, hs, rfl⟩ := hs
    exact .single _ hs
  | publish i =>
    simp only [step, Option.ite_none_right_eq_some, Option.bind_eq_some_iff,
      Option.map_eq_some_iff] at hs
    obtain ⟨-, s, hs, s', hs', rfl⟩ := hs
    exact (Reached.single _ hs).trans (.single _ hs')
  | other m =>
    simp only [step, Option.ite_none_left_eq_some, Option.map_eq_some_iff] at hs
    obtain ⟨-, s, hs, rfl⟩ := hs
    exact .single _ hs

theorem reached_staging (h : Reached step w w') : Reached Staging.step w.staging w'.staging :=
  h.project staging fun _ _ _ hs => reached_of_step hs

/-- There is always somebody who has not called yet. -/
theorem exists_idle (h : Reached step (start slots) w) : ∃ n, ∀ i, n ≤ i → w.calls i = .idle := by
  refine h.invariant (P := fun v => ∃ n, ∀ i, n ≤ i → v.calls i = .idle) ⟨0, fun _ _ => rfl⟩ ?_
  rintro m v v' ⟨n, hn⟩ hs
  have hput (i : Nat) (c : StopCall) :
      ∃ n, ∀ j, n ≤ j → StopCall.put v.calls i c j = .idle := by
    refine ⟨max n (i + 1), fun j hj => ?_⟩
    exact (if_neg (by omega)).trans (hn j (by omega))
  cases m with
  | claim i => exact (step_claim_cases hs).2.1 ▸ hput i _
  | publish i => exact (step_publish_cases hs).2.1 ▸ hput i _
  | other m =>
    simp only [step, Option.ite_none_left_eq_some, Option.map_eq_some_iff] at hs
    obtain ⟨-, s, -, rfl⟩ := hs
    exact ⟨n, hn⟩

/-- What ties the calls to the stage. -/
structure Sane (w : Stopping) : Prop where
  staging : w.staging.Sane
  agrees : w.lifecycle.Agrees w.calls

theorem sane_start (slots : Nat) : (start slots).Sane :=
  ⟨Staging.sane_start slots, .fresh⟩

theorem sane_step (hw : w.Sane) (hs : step m w = some w') : w'.Sane := by
  refine ⟨(hw.staging.later (reached_of_step hs)).1, ?_⟩
  have ha := hw.agrees
  cases m with
  | claim i =>
    simp only [step, Option.ite_none_right_eq_some, Option.map_eq_some_iff] at hs
    obtain ⟨hi, s, hs, rfl⟩ := hs
    obtain ⟨-, e, he, rfl⟩ := Staging.step_other_cases hs
    cases he
    exact ha.claim hi
  | publish i =>
    simp only [step, Option.ite_none_right_eq_some, Option.bind_eq_some_iff,
      Option.map_eq_some_iff] at hs
    obtain ⟨hi, s, hs, s', hs', rfl⟩ := hs
    obtain ⟨-, e, he, rfl⟩ := Staging.step_other_cases hs
    obtain ⟨-, e', he', rfl⟩ := Staging.step_other_cases hs'
    cases he'
    cases Exchange.step_cases he with
    | publish => exact ha.publish hi
  | other m =>
    simp only [step, Option.ite_none_left_eq_some, Option.map_eq_some_iff] at hs
    obtain ⟨hm, s, hs, rfl⟩ := hs
    exact ha.keeps (Staging.keeps_lifecycle hw.staging hs (by simpa using hm))

theorem sane_of_reached (h : Reached step (start slots) w) : w.Sane :=
  h.invariant (sane_start slots) fun _ _ _ hw hs => sane_step hw hs

/-- The calls leave the loop and the readers alone, as a start does. -/
theorem call_frame (hw : w.Sane) (hs : step m w = some w') (hm : ∀ x, m ≠ .other (.other x)) :
    w'.exchange.loop.position = w.exchange.loop.position ∧
      w'.exchange.hub.outlet.handles = w.exchange.hub.outlet.handles ∧
      (w.lifecycle.closeRequested = true → w'.lifecycle.closeRequested = true) := by
  cases m with
  | claim i =>
    simp only [step, Option.ite_none_right_eq_some, Option.map_eq_some_iff] at hs
    obtain ⟨-, s, hs, rfl⟩ := hs
    obtain ⟨-, e, he, rfl⟩ := Staging.step_other_cases hs
    cases he
    exact ⟨rfl, rfl, fun hc => (Lifecycle.closeRequested_claimStop _).trans hc⟩
  | publish i =>
    simp only [step, Option.ite_none_right_eq_some, Option.bind_eq_some_iff,
      Option.map_eq_some_iff] at hs
    obtain ⟨-, s, hs, s', hs', rfl⟩ := hs
    obtain ⟨-, e, he, rfl⟩ := Staging.step_other_cases hs
    obtain ⟨-, e', he', rfl⟩ := Staging.step_other_cases hs'
    cases he'
    cases Exchange.step_cases he with
    | publish => exact ⟨rfl, rfl, fun _ => rfl⟩
  | other m =>
    simp only [step, Option.ite_none_left_eq_some, Option.map_eq_some_iff] at hs
    obtain ⟨-, s, hs, rfl⟩ := hs
    obtain ⟨hposition, hhandles, hrequested⟩ :=
      Staging.start_frame hw.staging hs fun x hx => hm x (congrArg _ hx)
    exact ⟨hposition, hhandles, fun hc => hrequested.trans hc⟩

/-- A call that returned before the start has its request published, or it lost and the one call
that won has yet to publish. -/
theorem published_or_pending (h : Reached step (start slots) w)
    (hd : w.exchange.loop.position = .wired) {i : Nat} {won : Bool}
    (hi : w.calls i = .returned won) :
    w.lifecycle.closeRequested = true ∨ won = false ∧ ∃! j, w.calls j = .publishing := by
  have ha := (sane_of_reached h).agrees
  cases won with
  | true => exact .inl (ha.won i hi)
  | false =>
    have hreachable := (Staging.reached_exchange (reached_staging h)).2
    rcases hreachable.claimed_of_stopped hd (ha.lost i hi) with hc | hc
    · obtain ⟨j, hj⟩ := ha.claimed.mp hc
      exact .inr ⟨rfl, j, hj, fun k hk => ha.single k j hk hj⟩
    · exact .inl hc

/-- An undisturbed call does to the stage what the stage does to itself when it is asked to
close. -/
theorem call_eq_requestClose {i : Nat} (hs : step (.claim i) w = some w') :
    ∃ w'', (w'' = w' ∨ step (.publish i) w' = some w'') ∧ w''.calls i ≠ .publishing ∧
      w''.staging.stage = w.staging.stage.requestClose := by
  simp only [step, Option.ite_none_right_eq_some, Option.map_eq_some_iff] at hs
  obtain ⟨-, s, hs, rfl⟩ := hs
  obtain ⟨-, e, he, rfl⟩ := Staging.step_other_cases hs
  cases he
  rcases w.lifecycle.claimStop_cases with ⟨-, hc⟩ | ⟨-, hc⟩
  · refine ⟨_, .inl rfl, ?_, ?_⟩
    · simp [StopCall.put, Lifecycle.afterClaim, hc]
    · simp only [lifecycle, exchange] at hc
      simp [Staging.stage, Stage.requestClose, Hub.requestClose, Lifecycle.requestClose, hc]
  · simp only [lifecycle, exchange] at hc
    simp [step, StopCall.put, Lifecycle.afterClaim, lifecycle, exchange, hc, Staging.step,
      Staging.permits, Exchange.step, Staging.stage, Stage.requestClose, Hub.requestClose,
      Lifecycle.requestClose]

/-- The loop of a stage can go on, once it was asked to close, until it has confirmed the close. -/
theorem exists_loop_step (hc : w.lifecycle.closeRequested = true)
    (hs : w.staging.hasLoop = true)
    (hp : w.exchange.loop.position.confirmed = false) :
    ∃ b, (step (.other (.other (.loop b))) w).isSome := by
  obtain ⟨b, hb⟩ := Exchange.exists_loop_step (w := w.exchange) (.inl hc) hp
  refine ⟨b, ?_⟩
  have hb' : (w.staging.exchange.step (.loop b)).isSome := hb
  simp [step, Staging.Move.isStop, Exchange.Move.isStop, Staging.step, Staging.permits, hs, hb']

/-- A call that stops the stage has returned before the start. If it won, the close request is
published, and otherwise one call that won may still have to publish it. Whenever it is published,
at most one more transaction is placed. If that is before the loop runs, none is placed at all, the
loop can go on until it has confirmed the close, and what it finds queued is answered. -/
theorem stop_before_start (h : Reached step (start slots) w)
    (hd : w.staging.attachment = .detached) {i : Nat} {won : Bool}
    (hi : w.calls i = .returned won) :
    (w.lifecycle.closeRequested = true ∨ won = false ∧ ∃! j, w.calls j = .publishing) ∧
      ∀ w₁, Reached step w w₁ → w₁.lifecycle.closeRequested = true →
        ∀ w₂, Reached step w₁ w₂ →
          (∃ more, w₂.exchange.placed = w₁.exchange.placed ++ more ∧ more.length ≤ 1) ∧
          (w₁.exchange.loop.position = .wired → w₂.exchange.placed = [] ∧
            (w₂.staging.attachment.isSpawned = true →
              w₂.exchange.loop.position.confirmed = false →
                ∃ b, (step (.other (.other (.loop b))) w₂).isSome) ∧
            (w₂.exchange.loop.position.confirmed = true →
              ∀ t ∈ w₁.exchange.loop.inbound.queue,
                t ∈ w₂.exchange.refused ∧ w₂.exchange.outcome t = some .stageClosed)) := by
  have hw := sane_of_reached h
  have hwired : w.exchange.loop.position = .wired := by
    have hloop := hw.staging.unspawned (by rw [hd]; rfl)
    exact congrArg Loop.position hloop
  refine ⟨published_or_pending h hwired hi, fun w₁ h₁ hc w₂ h₂ => ?_⟩
  obtain ⟨hsane, hreachable⟩ :=
    Staging.reached_exchange ((reached_staging h).trans (reached_staging h₁))
  obtain ⟨hsane₂, hlater⟩ := hsane.later (reached_staging h₂)
  refine ⟨?_, fun hp => ?_⟩
  · obtain ⟨more, he, hle⟩ := Exchange.placed_under_request hc hlater
    have hallowance := w₁.exchange.loop.position.allowance_le
    exact ⟨more, he, by omega⟩
  · obtain ⟨hplaced, hanswers⟩ :=
      hreachable.steady.refused_of_wired hc hp (hreachable.placed_of_wired hp) hlater
    have hc₂ : w₂.lifecycle.closeRequested = true := Exchange.closeRequested_later hc hlater
    have hcan := fun ha => exists_loop_step hc₂ (hsane₂.hasLoop.trans ha)
    exact ⟨hplaced, hcan, fun hq => hanswers (Position.drained_of_confirmed hq)⟩

/-- A caller that won has returned, with a transaction waiting: whatever happens then, the
transaction is not placed, and it is answered once the close is confirmed. -/
theorem stop_before_start_won : ∃ w, Reached step (start 4) w ∧
    w.staging.attachment = .detached ∧ w.calls 0 = .returned true ∧
      w.exchange.loop.inbound.queue.length = 1 ∧
      ∀ w', Reached step w w' → w'.exchange.placed = [] ∧
        (w'.exchange.loop.position.confirmed = true →
          ∀ t ∈ w.exchange.loop.inbound.queue, w'.exchange.outcome t = some .stageClosed) := by
  obtain ⟨w, hw, hd, hi, hq, hc, hp⟩ : ∃ w, [Move.other (.other (.sending (.issue ⟨[]⟩))),
      .other (.other (.sending (.send ⟨0, ⟨[]⟩⟩))), .claim 0, .publish 0].foldlM
        (fun w m => step m w) (start 4) = some w ∧ w.staging.attachment = .detached ∧
          w.calls 0 = .returned true ∧ w.exchange.loop.inbound.queue.length = 1 ∧
          w.lifecycle.closeRequested = true ∧ w.exchange.loop.position = .wired :=
    ⟨_, rfl, rfl, rfl, rfl, rfl, rfl⟩
  have hreached := Reached.of_moves hw
  refine ⟨w, hreached, hd, hi, hq, fun w' hl => ?_⟩
  obtain ⟨-, hlater⟩ := stop_before_start hreached hd hi
  obtain ⟨hplaced, -, hanswers⟩ := (hlater w .start hc w' hl).2 hp
  exact ⟨hplaced, fun hq t ht => (hanswers hq t ht).2⟩

/-- Caller 0 wins and does not get to publish, caller 1 loses and returns, and the stage is started
after that. The loop places the transaction that it finds queued, and a reader takes it. -/
theorem stop_before_start_lost : ∃ w, Reached step (start 4) w ∧
    w.staging.attachment = .detached ∧ w.calls 1 = .returned false ∧
      w.exchange.loop.inbound.queue.length = 1 ∧
      ∃ w', Reached step w w' ∧ w'.staging.attachment = .attached ∧
        w'.exchange.taken = w.exchange.loop.inbound.queue ∧ w'.exchange.refused = [] := by
  obtain ⟨w, hw, hd, hi, hq, w', hw', ha, ht, hr⟩ : ∃ w,
      [Move.other (.other (.sending (.issue ⟨[]⟩))),
        .other (.other (.sending (.send ⟨0, ⟨[]⟩⟩))), .claim 0, .claim 1].foldlM
          (fun w m => step m w) (start 4) = some w ∧ w.staging.attachment = .detached ∧
            w.calls 1 = .returned false ∧ w.exchange.loop.inbound.queue.length = 1 ∧
      ∃ w', [Move.other .cloneSender, .other .markRunning, .other .spawnLoop, .other .attach,
          .other (.other (.loop .channel)), .other (.other (.loop .channel)),
          .other (.other (.loop .channel)), .other (.other (.loop .channel)),
          .other (.other (.loop .channel)), .other (.other .take)].foldlM
            (fun w m => step m w) w = some w' ∧ w'.staging.attachment = .attached ∧
              w'.exchange.taken = w.exchange.loop.inbound.queue ∧ w'.exchange.refused = [] :=
    ⟨_, rfl, rfl, rfl, rfl, _, rfl, rfl, rfl, rfl⟩
  exact ⟨w, Reached.of_moves hw, hd, hi, hq, w', Reached.of_moves hw', ha, ht, hr⟩

end Stopping
end Handoff

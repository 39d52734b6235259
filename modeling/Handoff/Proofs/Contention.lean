import Handoff.Proofs.Stopping

/-!
# One lifecycle in the hands of many

Any number of callers start the stage, ask it to close, settle its run state and confirm its close,
one atomic step at a time. A close request is two steps, and everyone else may move between them.
The run state can become stopped by the claim of a close request or by settling it, so a caller that
loses its claim knows only that one of these came first. `no_stop_lost` says that it may rely on
that: the request is published, or the one call that won is about to publish it, or the stage has
settled by itself.
-/
namespace Handoff

/-- The call has won the claim, whether or not it has published the request. -/
def StopCall.hasWon : StopCall → Bool
  | .publishing | .returned true => true
  | _ => false

/-- Who has won after a caller was put in a new place is that caller, or had won before. -/
theorem StopCall.hasWon_put {calls : Nat → StopCall} {i j : Nat} {c : StopCall}
    (h : (put calls i c j).hasWon = true) :
    j = i ∧ c.hasWon = true ∨ (calls j).hasWon = true := by
  unfold put at h
  split at h
  · exact .inl ⟨‹_›, h⟩
  · exact .inr h

/-- A lifecycle with the calls that close the stage, and with what other calls returned. -/
structure Contention where
  lifecycle : Lifecycle := {}
  calls : Nat → StopCall := fun _ => .idle
  /-- What the calls that start the stage returned, in the order of their steps. -/
  starts : List Bool := []
  /-- How often the run state was settled. -/
  settles : Nat := 0
  /-- What the calls that confirm the close returned, in the order of their steps. -/
  confirms : List Bool := []

namespace Contention

inductive Move
  | markRunning
  | claim (caller : Nat)
  | publish (caller : Nat)
  | settle
  | confirm
deriving Repr

def state (w : Contention) : RunState := w.lifecycle.state

def step (m : Move) (w : Contention) : Option Contention :=
  match m with
  | .markRunning => some { w with
      lifecycle := w.lifecycle.markRunning.2, starts := w.starts ++ [w.lifecycle.markRunning.1] }
  | .claim i =>
    if w.calls i = .idle then some { w with
      lifecycle := w.lifecycle.claimStop.2
      calls := StopCall.put w.calls i w.lifecycle.afterClaim }
    else none
  | .publish i =>
    if w.calls i = .publishing then some { w with
      lifecycle := w.lifecycle.publish, calls := StopCall.put w.calls i (.returned true) }
    else none
  | .settle => some { w with lifecycle := w.lifecycle.settle, settles := w.settles + 1 }
  | .confirm => some { w with
      lifecycle := w.lifecycle.confirm.2, confirms := w.confirms ++ [w.lifecycle.confirm.1] }

/-- What each move comes to, by who came first. -/
inductive Step (w : Contention) : Move → Contention → Prop
  | start : w.state = .created → Step w .markRunning { w with
      lifecycle := { w.lifecycle with state := .running }, starts := w.starts ++ [true] }
  | startLate : w.state ≠ .created → Step w .markRunning { w with starts := w.starts ++ [false] }
  | win {i} : w.calls i = .idle → w.state ≠ .stopped → Step w (.claim i) { w with
      lifecycle := { w.lifecycle with state := .stopped, claimed := true }
      calls := StopCall.put w.calls i .publishing }
  | lose {i} : w.calls i = .idle → w.state = .stopped → Step w (.claim i) { w with
      calls := StopCall.put w.calls i (.returned false) }
  | publish {i} : w.calls i = .publishing → Step w (.publish i) { w with
      lifecycle := w.lifecycle.publish, calls := StopCall.put w.calls i (.returned true) }
  | settle : Step w .settle { w with
      lifecycle := w.lifecycle.settle, settles := w.settles + 1 }
  | confirm : w.lifecycle.closed = false → Step w .confirm { w with
      lifecycle := { w.lifecycle with closed := true }, confirms := w.confirms ++ [true] }
  | confirmLate : w.lifecycle.closed = true → Step w .confirm { w with
      confirms := w.confirms ++ [false] }

variable {w w' : Contention} {m : Move} {i : Nat}

theorem step_cases (hs : step m w = some w') : Step w m w' := by
  cases m with
  | markRunning =>
    cases hs
    cases hstate : w.lifecycle.state with
    | created =>
      have hstart := Step.start (w := w) hstate
      simpa only [Lifecycle.markRunning, hstate] using hstart
    | running | stopped =>
      have hlate := Step.startLate (w := w) (by simp [state, hstate])
      simpa only [Lifecycle.markRunning, hstate] using hlate
  | claim i =>
    simp only [step, Option.ite_none_right_eq_some, Option.some.injEq] at hs
    obtain ⟨hi, rfl⟩ := hs
    rcases w.lifecycle.claimStop_cases with ⟨hstopped, hc⟩ | ⟨hstate, hc⟩
    · simp only [Lifecycle.afterClaim, hc]
      exact .lose hi hstopped
    · simp only [Lifecycle.afterClaim, hc]
      exact .win hi hstate
  | publish i =>
    simp only [step, Option.ite_none_right_eq_some, Option.some.injEq] at hs
    obtain ⟨hi, rfl⟩ := hs
    exact .publish hi
  | settle =>
    cases hs
    exact .settle
  | confirm =>
    cases hs
    cases hclosed : w.lifecycle.closed with
    | false =>
      have hfirst := Step.confirm (w := w) hclosed
      simpa only [Lifecycle.confirm, hclosed, Bool.not_false] using hfirst
    | true =>
      have hlate := Step.confirmLate (w := w) hclosed
      have hsame : ({ w.lifecycle with closed := true } : Lifecycle) = w.lifecycle := by
        rw [← hclosed]
      simpa only [Lifecycle.confirm, hclosed, hsame, Bool.not_true] using hlate

/-- What is won, published or confirmed stays so, and the run state does not go back. -/
structure Onward (w w' : Contention) : Prop where
  state : w.state.code ≤ w'.state.code
  closeRequested : w.lifecycle.closeRequested = true → w'.lifecycle.closeRequested = true
  closed : w.lifecycle.closed = true → w'.lifecycle.closed = true
  returned : ∀ i won, w.calls i = .returned won → w'.calls i = .returned won

theorem Step.onward (hs : Step w m w') : w.Onward w' := by
  have hput : ∀ {i c}, (∀ won, w.calls i ≠ .returned won) → ∀ j won, w.calls j = .returned won →
      StopCall.put w.calls i c j = .returned won := by
    intro i c hi j won hj
    have hne : j ≠ i := by
      rintro rfl
      exact hi won hj
    exact (if_neg hne).trans hj
  cases hs with
  | start hc => exact ⟨by rw [hc]; exact Nat.zero_le _, id, id, fun _ _ => id⟩
  | win hi hne =>
    refine ⟨?_, id, id, hput (by simp [hi])⟩
    show w.state.code ≤ 2
    cases w.state <;> simp [RunState.code]
  | lose hi => exact ⟨Nat.le_refl _, id, id, hput (by simp [hi])⟩
  | publish hi => exact ⟨Nat.le_refl _, fun _ => rfl, id, hput (by simp [hi])⟩
  | settle =>
    refine ⟨?_, id, id, fun _ _ => id⟩
    show w.state.code ≤ 2
    cases w.state <;> simp [RunState.code]
  | confirm => exact ⟨Nat.le_refl _, id, fun _ => rfl, fun _ _ => id⟩
  | startLate | confirmLate => exact ⟨Nat.le_refl _, id, id, fun _ _ => id⟩

theorem onward_of_reached (hl : Reached step w w') : w.Onward w' := by
  refine hl.invariant (P := w.Onward) ⟨Nat.le_refl _, id, id, fun _ _ => id⟩ fun m v v' hv hs => ?_
  have hstep := (step_cases hs).onward
  exact ⟨Nat.le_trans hv.state hstep.state, fun hc => hstep.closeRequested (hv.closeRequested hc),
    fun hc => hstep.closed (hv.closed hc),
    fun i won hi => hstep.returned i won (hv.returned i won hi)⟩

theorem Onward.stopped (ho : w.Onward w') (hs : w.state = .stopped) : w'.state = .stopped := by
  have hcode := ho.state
  rw [hs] at hcode
  cases hs' : w'.state with
  | stopped => rfl
  | created | running =>
    rw [hs'] at hcode
    simp [RunState.code] at hcode

/-- What the lifecycle says about all that was called so far. -/
structure Consistent (w : Contention) : Prop where
  agrees : w.lifecycle.Agrees w.calls
  single : ∀ i j, (w.calls i).hasWon = true → (w.calls j).hasWon = true → i = j
  published : w.lifecycle.closeRequested = true → ∃ i, w.calls i = .returned true
  starts : w.starts.count true ≤ (decide (w.state ≠ .created)).toNat
  confirms : w.confirms.count true = w.lifecycle.closed.toNat
  stopped : w.state = .stopped →
    w.lifecycle.closeRequested = true ∨ w.lifecycle.claimed = true ∨ 0 < w.settles

namespace Consistent

theorem fresh : ({} : Contention).Consistent :=
  ⟨.fresh, nofun, nofun, Nat.zero_le _, rfl, nofun⟩

/-- Whoever has won has stopped the stage. -/
theorem stopped_of_hasWon (hw : w.Consistent) (hi : (w.calls i).hasWon = true) :
    w.state = .stopped := by
  cases hc : w.calls i with
  | publishing => exact hw.agrees.stopped (.inl (hw.agrees.claimed.mpr ⟨i, hc⟩))
  | returned won =>
    cases won with
    | true => exact hw.agrees.stopped (.inr (hw.agrees.won i hc))
    | false => rw [hc] at hi; cases hi
  | idle => rw [hc] at hi; cases hi

theorem step (hw : w.Consistent) (hs : Step w m w') : w'.Consistent := by
  have hagrees := hw.agrees
  have hstarts := hw.starts
  cases hs with
  | start hc =>
    rw [hc] at hstarts
    refine ⟨hagrees.keeps ⟨rfl, rfl, fun hs => by cases hc.symm.trans hs⟩, hw.single,
      hw.published, ?_, hw.confirms, fun hs => by cases hs⟩
    rw [List.count_append]
    exact Nat.add_le_add_right hstarts 1
  | startLate =>
    refine ⟨hagrees, hw.single, hw.published, ?_, hw.confirms, hw.stopped⟩
    rw [List.count_append]
    exact hstarts
  | @win i hi hne =>
    -- whoever had won before would have stopped the stage
    have hnone : ∀ j, (w.calls j).hasWon ≠ true := fun j hj => hne (hw.stopped_of_hasWon hj)
    have hc := (w.lifecycle.claimStop_cases.resolve_left fun hs => hne hs.1).2
    have hclaim := hagrees.claim hi
    simp only [Lifecycle.afterClaim, hc, if_true] at hclaim
    refine ⟨hclaim, fun j k hj hk => ?_, fun hr => ?_, ?_, hw.confirms, fun _ => .inr (.inl rfl)⟩
    · obtain ⟨rfl, -⟩ := (StopCall.hasWon_put hj).resolve_right (hnone j)
      obtain ⟨rfl, -⟩ := (StopCall.hasWon_put hk).resolve_right (hnone k)
      rfl
    · obtain ⟨j, hj⟩ := hw.published hr
      exact absurd (by rw [hj]; rfl) (hnone j)
    · exact Nat.le_trans hstarts (Bool.toNat_le _)
  | @lose i hi hstopped =>
    have hc := (w.lifecycle.claimStop_cases.resolve_right fun hs => hs.1 hstopped).2
    have hclaim := hagrees.claim hi
    simp only [Lifecycle.afterClaim, hc, Bool.false_eq_true, if_false] at hclaim
    have hbefore : ∀ j, (StopCall.put w.calls i (.returned false) j).hasWon = true →
        (w.calls j).hasWon = true := by
      intro j hj
      exact (StopCall.hasWon_put hj).resolve_left fun h => by cases h.2
    refine ⟨hclaim, fun j k hj hk => hw.single j k (hbefore j hj) (hbefore k hk), fun hr => ?_,
      hstarts, hw.confirms, hw.stopped⟩
    obtain ⟨j, hj⟩ := hw.published hr
    have hne : j ≠ i := by
      rintro rfl
      cases hi.symm.trans hj
    exact ⟨j, (if_neg hne).trans hj⟩
  | @publish i hi =>
    have hbefore : ∀ j, (StopCall.put w.calls i (.returned true) j).hasWon = true →
        (w.calls j).hasWon = true := by
      intro j hj
      rcases StopCall.hasWon_put hj with ⟨rfl, -⟩ | hj
      · rw [hi]
        rfl
      · exact hj
    exact ⟨hagrees.publish hi, fun j k hj hk => hw.single j k (hbefore j hj) (hbefore k hk),
      fun _ => ⟨i, if_pos rfl⟩, hstarts, hw.confirms, fun _ => .inl rfl⟩
  | settle =>
    exact ⟨hagrees.keeps ⟨rfl, rfl, fun _ => rfl⟩, hw.single, hw.published,
      Nat.le_trans hstarts (Bool.toNat_le _), hw.confirms, fun _ => .inr (.inr (Nat.succ_pos _))⟩
  | confirm hc =>
    have hconfirms := hw.confirms
    rw [hc] at hconfirms
    refine ⟨hagrees.keeps ⟨rfl, rfl, id⟩, hw.single, hw.published, hstarts, ?_, hw.stopped⟩
    rw [List.count_append, hconfirms]
    rfl
  | confirmLate =>
    refine ⟨hagrees, hw.single, hw.published, hstarts, ?_, hw.stopped⟩
    rw [List.count_append]
    exact hw.confirms

/-- A caller that finds the stage stopped finds the request published, or about to be by the only
call that won, or the run state settled. -/
theorem accounted (hw : w.Consistent) (hs : w.state = .stopped) :
    w.lifecycle.closeRequested = true ∨ (∃! i, w.calls i = .publishing) ∨ 0 < w.settles := by
  refine (hw.stopped hs).imp id (Or.imp (fun hc => ?_) id)
  obtain ⟨i, hi⟩ := hw.agrees.claimed.mp hc
  exact ⟨i, hi, fun j hj => hw.agrees.single j i hj hi⟩

end Consistent

/-- No call starts a stage that is stopped. -/
theorem starts_later (hs : w.state = .stopped) (hl : Reached step w w') :
    w'.starts.count true = w.starts.count true := by
  refine (hl.invariant (P := fun v => v.state = .stopped ∧
    v.starts.count true = w.starts.count true) ⟨hs, rfl⟩ ?_).2
  rintro m v v' ⟨hv, hcount⟩ hstep
  have hstep := step_cases hstep
  refine ⟨hstep.onward.stopped hv, ?_⟩
  cases hstep with
  | start hc => exact absurd (hv.symm.trans hc) nofun
  | startLate =>
    rw [List.count_append]
    exact hcount
  | win | lose | publish | settle | confirm | confirmLate => exact hcount

/-- A stage that stopped while no call had won is never asked to close. -/
theorem unrequested_later (hs : w.state = .stopped) (hr : w.lifecycle.closeRequested = false)
    (hn : ∀ i, (w.calls i).hasWon = false) (hl : Reached step w w') :
    w'.lifecycle.closeRequested = false ∧ ∀ i, (w'.calls i).hasWon = false := by
  refine (hl.invariant (P := fun v => v.state = .stopped ∧ v.lifecycle.closeRequested = false ∧
    ∀ i, (v.calls i).hasWon = false) ⟨hs, hr, hn⟩ ?_).2
  rintro m v v' ⟨hv, hr, hn⟩ hstep
  have hstep := step_cases hstep
  refine ⟨hstep.onward.stopped hv, ?_⟩
  cases hstep with
  | win _ hne => exact absurd hv hne
  | @lose i =>
    refine ⟨hr, fun j => Bool.eq_false_iff.mpr fun hj => ?_⟩
    rcases StopCall.hasWon_put hj with ⟨-, hnot⟩ | hj
    · cases hnot
    · exact absurd (hn j) (by simp [hj])
  | @publish i hi => exact absurd (hn i) (by simp [hi, StopCall.hasWon])
  | start | startLate | settle | confirm | confirmLate => exact ⟨hr, hn⟩

/-- An undisturbed call does what a close request does at once, and returns what it returns. -/
theorem call_eq_requestClose (hs : step (.claim i) w = some w') :
    (w'.lifecycle = w.lifecycle.requestClose.2 ∧
        w'.calls i = .returned w.lifecycle.requestClose.1) ∨
      ∃ w'', step (.publish i) w' = some w'' ∧ w''.lifecycle = w.lifecycle.requestClose.2 ∧
        w''.calls i = .returned w.lifecycle.requestClose.1 := by
  cases step_cases hs with
  | lose hi hstopped =>
    have hc := (w.lifecycle.claimStop_cases.resolve_right fun hs => hs.1 hstopped).2
    refine .inl ⟨?_, ?_⟩
    · simp only [Lifecycle.requestClose, hc]
    · simp only [Lifecycle.requestClose, hc, StopCall.put, if_true]
  | win hi hne =>
    have hc := (w.lifecycle.claimStop_cases.resolve_left fun hs => hne hs.1).2
    refine .inr ⟨_, if_pos (if_pos rfl), ?_, ?_⟩
    · simp only [Lifecycle.requestClose, hc]
    · simp only [Lifecycle.requestClose, hc, StopCall.put, if_true]

/-- What everyone may rely on who shares a lifecycle. -/
structure Lawful (w : Contention) : Prop where
  /-- The run state moves along created, running, stopped. -/
  forward : ∀ w', Reached step w w' → w.state.code ≤ w'.state.code
  started : w.starts.count true ≤ 1
  unstarted : w.state = .stopped → ∀ w', Reached step w w' →
    w'.starts.count true = w.starts.count true
  /-- At most one close request has won, whether or not it has returned. -/
  winner : ∀ i j, (w.calls i).hasWon = true → (w.calls j).hasWon = true → i = j
  /-- None wins after the stage has stopped by itself, and then it is not asked to close. -/
  natural : w.state ≠ .stopped → ∀ w₁, step .settle w = some w₁ → ∀ w₂, Reached step w₁ w₂ →
    w₂.lifecycle.closeRequested = false ∧ ∀ i, (w₂.calls i).hasWon = false
  /-- Only the winner publishes the request. -/
  publisher : ∀ m w', step m w = some w' → w.lifecycle.closeRequested = false →
    w'.lifecycle.closeRequested = true →
      ∃ i, m = .publish i ∧ w.calls i = .publishing ∧ w'.calls i = .returned true
  requested : w.lifecycle.closeRequested = true → w.state = .stopped ∧
    (∃ i, w.calls i = .returned true) ∧
      ∀ w', Reached step w w' → w'.lifecycle.closeRequested = true
  /-- The close is confirmed when one call has returned so, and not by more than one. -/
  confirms : w.confirms.count true = w.lifecycle.closed.toNat
  confirmed : w.lifecycle.closed = true → ∀ w', Reached step w w' → w'.lifecycle.closed = true
  stopped : w.state = .stopped →
    w.lifecycle.closeRequested = true ∨ (∃! i, w.calls i = .publishing) ∨ 0 < w.settles
  /-- Who lost knows of a stop, whatever has happened since. -/
  lost : ∀ i, w.calls i = .returned false →
    w.lifecycle.closeRequested = true ∨ (∃! i, w.calls i = .publishing) ∨ 0 < w.settles

/-- No close request is lost, and no signal is given twice, however many callers move between each
other's steps. -/
theorem no_stop_lost (h : Reached step {} w) : w.Lawful := by
  have hw : w.Consistent := h.invariant .fresh fun _ _ _ hw hs => hw.step (step_cases hs)
  refine ⟨fun w' hl => (onward_of_reached hl).state, Nat.le_trans hw.starts (Bool.toNat_le _),
    fun hs w' => starts_later hs, hw.single, fun hne w₁ hs w₂ hl => ?_,
    fun m w' hs hr hr' => ?_, fun hr => ⟨hw.agrees.stopped (.inr hr), hw.published hr,
      fun w' hl => (onward_of_reached hl).closeRequested hr⟩, hw.confirms,
    fun hc w' hl => (onward_of_reached hl).closed hc, hw.accounted,
    fun i hi => hw.accounted (hw.agrees.lost i hi)⟩
  · cases hs
    refine unrequested_later rfl ?_ ?_ hl
    · exact Bool.eq_false_iff.mpr fun hr => hne (hw.agrees.stopped (.inr hr))
    · exact fun i => Bool.eq_false_iff.mpr fun hi => hne (hw.stopped_of_hasWon hi)
  · cases step_cases hs with
    | publish hi => exact ⟨_, rfl, hi, if_pos rfl⟩
    | start | startLate | win | lose | settle | confirm | confirmLate =>
      exact absurd (hr.symm.trans hr') nofun

/-- A started stage is stopped by caller 0, who has yet to publish when caller 1 has lost and the
loop has settled. -/
theorem no_stop_lost_when_contended : ∃ w : Contention, Reached step {} w ∧
    w.calls 1 = .returned false ∧ w.lifecycle.closeRequested = false ∧ w.settles = 1 ∧
      w.starts = [true, false] ∧ w.Lawful := by
  obtain ⟨w, hw, hi, hr, hsettles, hstarts⟩ : ∃ w : Contention,
      [Move.markRunning, .claim 0, .markRunning, .claim 1, .settle].foldlM
        (fun w m => step m w) ({} : Contention) = some w ∧ w.calls 1 = .returned false ∧
          w.lifecycle.closeRequested = false ∧ w.settles = 1 ∧ w.starts = [true, false] :=
    ⟨_, rfl, rfl, rfl, rfl, rfl⟩
  have hreached := Reached.of_moves hw
  exact ⟨w, hreached, hi, hr, hsettles, hstarts, no_stop_lost hreached⟩

end Contention
end Handoff

import Handoff.Proofs.Dropping

/-!
# What a dropped stage leaves behind

From the moment when its close is asked for, a stage takes no part in what happens, and every move
is one of the exchange between the loop, the senders and the readers. What that exchange keeps
decides what becomes of the transactions: those that the loop has placed are read by whoever is left
or let go, and all others that were accepted are answered, early or late.

A stage that was never started leaves no loop and no sender, so its readers are at the end at once.
-/
namespace Handoff.Dropping

variable {w w' : Dropping} {m : Move} {slots : Nat}

/-- A move of the exchange: of the loop, or of those around the stage. -/
def Move.around (m : Exchange.Move) : Move := .other (.other (.other m))

/-- The moves of the loop. -/
def Move.isLoop : Move → Bool
  | .other (.other (.other m)) => m.isLoop
  | _ => false

/-- What a list of moves leads to, if all of them can be made. -/
def run (moves : List Move) (w : Dropping) : Option Dropping :=
  moves.foldlM (fun w m => step m w) w

/-- Once the close of a dropped stage is asked for, every move is one of the exchange. -/
theorem step_of_asked (hp : w.phase.asked = true) (hs : step m w = some w') :
    w'.phase.asked = true ∧ w'.attachment = w.attachment ∧
      ∃ x, Exchange.step x w.exchange = some w'.exchange ∧ x.isLoop = m.isLoop ∧
        (x = .take → m = .around .take) := by
  cases step_cases hs with
  | drop hq | publish hq | releaseSender hq => rw [hq] at hp; cases hp
  | releaseHandle hq ht =>
    obtain ⟨-, e, he, rfl⟩ := Stopping.step_other_cases ht
    exact ⟨rfl, rfl, _, he, rfl, nofun⟩
  | @other m s hpermits ht =>
    have hnot := DropPhase.ne_held hp
    cases m with
    | claim | publish => exact absurd (of_decide_eq_true hpermits) hnot
    | other x =>
      cases x with
      | cloneSender | markRunning | spawnLoop | attach =>
        exact absurd (of_decide_eq_true hpermits) hnot
      | other x =>
        obtain ⟨-, e, he, rfl⟩ := Stopping.step_other_cases ht
        exact ⟨hp, rfl, x, he, rfl, fun hx => congrArg Move.around hx⟩

theorem run_of_asked {moves : List Move} (hp : w.phase.asked = true)
    (hr : run moves w = some w') : w'.phase.asked = true ∧ w'.attachment = w.attachment ∧
      ∃ xs, Exchange.run xs w.exchange = some w'.exchange ∧
        xs.countP Exchange.Move.isLoop = moves.countP Move.isLoop := by
  induction moves generalizing w with
  | nil =>
    cases hr
    exact ⟨hp, rfl, [], rfl, rfl⟩
  | cons m moves ih =>
    simp only [run, List.foldlM_cons, Option.bind_eq_bind, Option.bind_eq_some_iff] at hr
    obtain ⟨w₁, hs, hr⟩ := hr
    obtain ⟨hp₁, ha₁, x, hx, hloop, -⟩ := step_of_asked hp hs
    obtain ⟨hp', ha', xs, hxs, hcount⟩ := ih hp₁ hr
    refine ⟨hp', ha'.trans ha₁, x :: xs, ?_, ?_⟩
    · simp only [Exchange.run, List.foldlM_cons, Option.bind_eq_bind, hx]
      exact hxs
    · rw [List.countP_cons, List.countP_cons, hcount, hloop]

theorem later_of_asked (hp : w.phase.asked = true) (hl : Reached step w w') :
    w'.phase.asked = true ∧ w'.attachment = w.attachment :=
  hl.invariant (P := fun v => v.phase.asked = true ∧ v.attachment = w.attachment) ⟨hp, rfl⟩
    fun _ _ _ hv hs => by
      obtain ⟨hp', ha', -⟩ := step_of_asked hv.1 hs
      exact ⟨hp', ha'.trans hv.2⟩

theorem run_cons {w₁ : Dropping} {moves : List Move} (hs : step m w = some w₁) :
    run (m :: moves) w = run moves w₁ := by
  simp only [run, List.foldlM_cons, hs, Option.bind_eq_bind, Option.bind_some]

/-- What the last two steps of a drop do to the stage. -/
theorem run_release {i : Nat} (hp : w.phase = .asking i) (hc : w.stopping.calls i ≠ .publishing)
    (hn : 0 < w.outlet.handles) :
    ∃ w', run [.releaseSender, .releaseHandle] w = some w' ∧ w'.phase = .gone ∧
      w'.stopping.staging.stage =
        { w.stopping.staging.stage with
          hub := (if w.attachment.isSpawned then w.exchange.hub
            else w.exchange.hub.dropOutboundSender).dropOutboundHandle } := by
  have hfirst : step .releaseSender w = some ⟨w.stopping.releaseSender, .released⟩ := by
    simp [step, hp, hc]
  obtain ⟨-, -, hhandles, -, -⟩ := w.stopping.releaseSender_frame
  obtain ⟨e, he, hhub, hloop⟩ : ∃ e, w.stopping.releaseSender.staging.exchange.step .dropHandle =
      some e ∧ e.hub = w.stopping.releaseSender.exchange.hub.dropOutboundHandle ∧
        e.loop = w.stopping.releaseSender.exchange.loop :=
    ⟨_, if_pos (Nat.lt_of_lt_of_eq hn hhandles.symm), rfl, rfl⟩
  have hsecond : step .releaseHandle ⟨w.stopping.releaseSender, .released⟩ =
      some ⟨{ w.stopping.releaseSender with
        staging := { w.stopping.releaseSender.staging with exchange := e } }, .gone⟩ := by
    simp [step, Stopping.step, Staging.Move.isStop, Exchange.Move.isStop, Staging.step,
      Staging.permits, he]
  refine ⟨_, (run_cons hfirst).trans (run_cons hsecond), rfl, ?_⟩
  simp only [Staging.stage, hhub, hloop]
  cases ha : w.stopping.staging.attachment.isSpawned <;>
    simp [Stopping.releaseSender, ha, attachment, exchange, Stopping.exchange]

/-- A drop that nothing comes between does to the stage what the stage does to itself. -/
theorem run_drop (hw : w.Sane slots) (hp : w.phase = .held)
    (hr : w.attachment.atRest = true) (hc : w.stopping.lifecycle.claimed = false) :
    ∃ moves w', run moves w = some w' ∧ w'.phase = .gone ∧
      w'.stopping.staging.stage = w.stopping.staging.stage.drop := by
  have hn := hw.handles
  rw [hp] at hn
  obtain ⟨i, hidle⟩ := Stopping.exists_idle (hw.live_of_not_asked (by rw [hp]; rfl))
  have hi := hidle i (Nat.le_refl i)
  obtain ⟨s, hs⟩ : ∃ s, w.stopping.step (.claim i) = some s :=
    ⟨_, by simp only [Stopping.step, hi, if_true, Staging.step, Staging.permits]; rfl⟩
  have hdrop : step (.drop i) w = some ⟨s, .asking i⟩ := by simp [step, hp, hr, hc, hs]
  obtain ⟨v, hv, hcalls, hstage⟩ := Stopping.call_eq_requestClose hs
  have hhandles : 0 < v.exchange.hub.outlet.handles := by
    have houtlet := Hub.outlet_requestClose w.exchange.hub
    have hhub : v.exchange.hub = w.exchange.hub.requestClose.2 := congrArg Stage.hub hstage
    rw [hhub, houtlet]
    exact hn
  obtain ⟨w', hw', hgone, hreleased⟩ := @run_release ⟨v, .asking i⟩ i rfl hcalls hhandles
  have hsame : w'.stopping.staging.stage = w.stopping.staging.stage.drop := by
    have hattachment : v.staging.attachment = w.attachment := congrArg Stage.attachment hstage
    have hhub : v.exchange.hub = w.stopping.staging.stage.requestClose.hub :=
      congrArg Stage.hub hstage
    rw [hreleased, Stage.drop_of_atRest hr, hstage]
    simp only [exchange, attachment, hhub, hattachment]
    rfl
  rcases hv with rfl | hv
  · exact ⟨_, w', (run_cons hdrop).trans hw', hgone, hsame⟩
  · have hpublish : step .publish ⟨s, .asking i⟩ = some ⟨v, .asking i⟩ := by simp [step, hv]
    exact ⟨_, w', ((run_cons hdrop).trans (run_cons hpublish)).trans hw', hgone, hsame⟩

/-- The loop is not part of what is dropped. -/
theorem exists_loop_step (ha : w.stopping.staging.hasLoop = true)
    (hs : ∃ b, (w.exchange.step (.loop b)).isSome) :
    ∃ b, (step (.around (.loop b)) w).isSome := by
  obtain ⟨b, hb⟩ := hs
  have hb' : (w.stopping.staging.exchange.step (.loop b)).isSome := hb
  refine ⟨b, ?_⟩
  simp [Move.around, step, permits, Stopping.step, Staging.Move.isStop, Exchange.Move.isStop,
    Staging.step, Staging.permits, ha, hb']

/-- What becomes of the transactions of a stage that was started and is dropped. -/
structure Accounted (slots : Nat) (w : Dropping) : Prop where
  order : w.exchange.accepted = w.exchange.placed ++ w.exchange.refused ++
    w.exchange.loop.position.hand ++ w.exchange.loop.inbound.queue
  /-- All that was accepted by now meets its fate within so many steps of the loop, whoever moves
  between them, and until then the loop has a step to make. -/
  answered : ∀ moves w', run moves w = some w' →
    ((∀ t ∈ w.exchange.accepted, w'.exchange.Fate t) ∨
      ∃ b, (step (.around (.loop b)) w').isSome) ∧
    (12 + 3 * slots ≤ moves.countP Move.isLoop → ∀ t ∈ w.exchange.accepted, w'.exchange.Fate t)
  /-- Whoever has a handle reads what is placed and not taken. -/
  readable : ∀ t ∈ w.exchange.slot, w.outlet.read.1 = .message t
  /-- It stays where it is until somebody takes it or the last handle goes. -/
  kept : ∀ m w', step m w = some w' → ∀ t ∈ w.exchange.slot, t ∈ w'.exchange.slot ∨
    (m = .around .take ∧ w'.exchange.taken = w.exchange.taken ++ [t]) ∨
      (w'.outlet.handles = 0 ∧ w'.exchange.outcome t = some .dropped)

/-- What a dropped stage leaves behind. -/
structure Lossless (slots : Nat) (w : Dropping) : Prop where
  /-- It can be dropped whenever no call is under way. -/
  droppable : w.phase = .held → w.attachment.atRest = true → w.stopping.lifecycle.claimed = false →
    ∃ moves w', run moves w = some w' ∧ w'.phase = .gone ∧
      w'.stopping.staging.stage = w.stopping.staging.stage.drop
  /-- If it was never started, readers find the end of the channel, at once and for good. -/
  ended : w.phase.asked = true → w.attachment.isSpawned = false →
    ∀ w', Reached step w w' → w'.outlet.read = (.ended, w'.outlet)
  /-- The close is requested, or the loop has settled before, while the stage still has its
  handle. -/
  requested : w.phase.asked = true → w.exchange.hub.lifecycle.closeRequested = true ∨
    w.exchange.loop.position.settled = true
  handle : w.phase ≠ .gone → 0 < w.outlet.handles
  /-- So the loop leaves for want of readers only under a close request. -/
  exit : w.exchange.loop.position.exit? = some .outboundGone →
    w.exchange.hub.lifecycle.closeRequested = true
  started : w.phase.asked = true → w.attachment.isSpawned = true → w.Accounted slots

namespace Sane

theorem reachable (hw : w.Sane slots) (ha : w.attachment.isSpawned = true) :
    w.stopping.staging.Sane ∧ Exchange.Reachable Stage.typeName slots 0 w.exchange := by
  have hlive := hw.live (by rw [emptied, ha, Bool.not_true, Bool.and_false])
  exact Staging.reached_exchange (Stopping.reached_staging hlive)

/-- A stage that was started and is dropped has no outbound sender but the one of its loop. -/
theorem senders_eq (hw : w.Sane slots) (hp : w.phase.asked = true)
    (ha : w.attachment.isSpawned = true) :
    w.outlet.channel.senders = w.exchange.loop.position.sends.toNat := by
  have hs := (hw.reachable ha).1
  have hsenders : w.outlet.channel.senders = _ := hs.steady.outflow.senders
  have hspare := Attachment.spare_of_atRest (hw.rest (DropPhase.ne_held hp))
  have hnone : w.stopping.staging.exchange.spare = 0 := hs.spare.trans hspare
  rw [hsenders, hnone, Nat.zero_add]
  rfl

theorem fate (hw : w.Sane slots) (hp : w.phase.asked = true) (ha : w.attachment.isSpawned = true)
    (hc : w.exchange.loop.position.confirmed = true) {t : Transaction}
    (ht : t ∈ w.exchange.placed ++ w.exchange.refused) : w.exchange.Fate t := by
  have hreachable := (hw.reachable ha).2
  refine hreachable.steady.fate hreachable.swept ?_ ht
  refine (hw.senders_eq hp ha).trans ?_
  rw [Position.sends_of_confirmed hc]
  rfl

theorem closing (hw : w.Sane slots) (hp : w.phase.asked = true) :
    w.exchange.loop.Closing w.exchange.hub := (hw.asked hp).imp_right Position.stays_of_settled

theorem later (hw : w.Sane slots) (hl : Reached Dropping.step w w') : w'.Sane slots :=
  hl.invariant hw fun _ _ _ hv hs => hv.step hs

/-- Until the loop has confirmed the close it can go on, and when it has, what it is done with has
met its fate. -/
theorem answered (hw : w.Sane slots) (hp : w.phase.asked = true)
    (ha : w.attachment.isSpawned = true) {moves : List Move} (hr : run moves w = some w') :
    ((∀ t ∈ w.exchange.accepted, w'.exchange.Fate t) ∨
      ∃ b, (Dropping.step (.around (.loop b)) w').isSome) ∧
    (12 + 3 * slots ≤ moves.countP Move.isLoop →
      ∀ t ∈ w.exchange.accepted, w'.exchange.Fate t) := by
  have hreachable := (hw.reachable ha).2
  have hattentive : w.exchange.Attentive slots := Exchange.attentive_of_reached hreachable
  have hw' := hw.later (Reached.of_moves hr)
  obtain ⟨hp', hattachment, xs, hxs, hcount⟩ := run_of_asked hp hr
  have ha' : w'.attachment.isSpawned = true := hattachment ▸ ha
  have hcan := exists_loop_step (hw'.hasLoop.trans ha')
  obtain ⟨hcleared, hbound⟩ :=
    Exchange.clears_in_bounded_steps hreachable.steady hattentive (hw.closing hp) hxs
  obtain ⟨-, -, hconfirms⟩ := Exchange.closing_run hattentive (hw.closing hp) hxs
  rw [hcount] at hbound hconfirms
  refine ⟨?_, fun hle t ht => ?_⟩
  · cases hc : w'.exchange.loop.position.confirmed with
    | false => exact .inr (hcan (Exchange.exists_loop_step (hw'.closing hp') hc))
    | true =>
      exact hcleared.imp (fun hfirst t ht => hw'.fate hp' ha' hc (hfirst.mem ht)) hcan
  · exact hw'.fate hp' ha' (hconfirms (by omega)) ((hbound hle).mem ht)

theorem accounted (hw : w.Sane slots) (hp : w.phase.asked = true)
    (ha : w.attachment.isSpawned = true) : w.Accounted slots := by
  have hsteady := (hw.reachable ha).2.steady
  refine ⟨hsteady.order, fun moves w' => hw.answered hp ha, fun t ht => ?_,
    fun m w' hs t ht => ?_⟩
  · -- the slot holds one transaction at most
    have hsingle := hsteady.outflow.single
    rcases w.outlet.read_cases with ⟨u, rest, hq, hread⟩ | ⟨hq, -⟩ | ⟨hq, -⟩
    · have hslot : w.exchange.slot = u :: rest := hq
      rw [hslot, List.length_cons] at hsingle
      have hrest : rest = [] := List.eq_nil_of_length_eq_zero (by omega)
      rw [hslot, hrest, List.mem_singleton] at ht
      rw [hread, ht]
    all_goals
      have hslot : w.exchange.slot = [] := hq
      rw [hslot] at ht
      exact absurd ht List.not_mem_nil
  · obtain ⟨-, -, x, hx, -, htake⟩ := step_of_asked hp hs
    rcases hsteady.leaves_slot hx ht with hslot | ⟨rfl, htaken, -⟩ | hdropped
    · exact .inl hslot
    · exact .inr (.inl ⟨htake rfl, htaken⟩)
    · exact .inr (.inr hdropped)

end Sane

/-- A stage may be dropped wherever it is. If it was never started, whoever has a handle finds the
end of its channel at once. If it was, the close is requested before the stage's own handle goes,
unless the loop has settled by then, so the loop leaves for want of readers only after a request;
what is queued or in the hand of the loop and not placed is answered `stageClosed` in a bounded
number of its steps, late deliveries too; and what is placed and not taken can be read through a
handle that is left, and is answered `dropped` if there is none. -/
theorem drop_keeps_answers (h : Reached step (start slots) w) : w.Lossless slots := by
  have hw := sane_of_reached h
  refine ⟨run_drop hw, fun hp ha w' hl => ?_, hw.asked, fun hp => ?_, hw.gone, hw.accounted⟩
  · obtain ⟨hp', ha'⟩ := later_of_asked hp hl
    refine Outlet.read_of_vacant ((hw.later hl).vacant ?_)
    rw [emptied, hp', ha', ha]
    rfl
  · have hhandles := hw.handles
    cases hphase : w.phase with
    | gone => exact absurd hphase hp
    | held | asking | released =>
      rw [hphase] at hhandles
      exact hhandles

/-- The stage is dropped with a transaction in the slot, another one queued and a slot set aside,
while somebody else has a handle. The queued one and the one that comes late are answered by the
loop, and the first one is let go with the last handle. -/
theorem drop_keeps_answers_mid_hand_off : ∃ w, Reached step (start 2) w ∧ w.phase = .gone ∧
    w.attachment.isSpawned = true ∧ w.exchange.slot.length = 1 ∧
      w.exchange.loop.inbound.queue.length = 1 ∧ w.exchange.loop.inbound.permits = 1 ∧
      w.Lossless 2 ∧
      ∃ w', Reached step w w' ∧ w'.exchange.loop.position = .late 1 ∧ w'.outlet.handles = 0 ∧
        w'.exchange.placed = w.exchange.slot ∧
        (w'.exchange.accepted.map w'.exchange.outcome) =
          [some .dropped, some .stageClosed, some .stageClosed] := by
  obtain ⟨w, hw, hp, ha, hslot, hq, hpermits, w', hw', hlate, hn, hplaced, houtcomes⟩ :
      ∃ w, run (List.map .around [.addHandle, .sending (.issue ⟨[]⟩), .sending (.issue ⟨[]⟩),
            .sending (.issue ⟨[]⟩), .sending (.send ⟨0, ⟨[]⟩⟩)] ++
          [.other (.other .cloneSender), .other (.other .markRunning),
            .other (.other .spawnLoop), .other (.other .attach)] ++
          List.replicate 5 (.around (.loop .channel)) ++
          List.map .around [.sending (.send ⟨1, ⟨[]⟩⟩), .sending .reserve] ++
          [.drop 0, .publish, .releaseSender, .releaseHandle]) (start 2) = some w ∧
        w.phase = .gone ∧ w.attachment.isSpawned = true ∧ w.exchange.slot.length = 1 ∧
          w.exchange.loop.inbound.queue.length = 1 ∧ w.exchange.loop.inbound.permits = 1 ∧
      ∃ w', run (List.map .around [.loop .channel, .loop .close] ++
          List.replicate 8 (.around (.loop .channel)) ++
          [.around (.sending (.spend ⟨2, ⟨[]⟩⟩))] ++
          List.replicate 3 (.around (.loop .channel)) ++ [.around .dropHandle]) w = some w' ∧
          w'.exchange.loop.position = .late 1 ∧ w'.outlet.handles = 0 ∧
          w'.exchange.placed = w.exchange.slot ∧
          (w'.exchange.accepted.map w'.exchange.outcome) =
            [some .dropped, some .stageClosed, some .stageClosed] :=
    ⟨_, rfl, rfl, rfl, rfl, rfl, rfl, _, rfl, rfl, rfl, rfl, rfl⟩
  have hreached := Reached.of_moves hw
  exact ⟨w, hreached, hp, ha, hslot, hq, hpermits, drop_keeps_answers hreached, w',
    Reached.of_moves hw', hlate, hn, hplaced, houtcomes⟩

end Handoff.Dropping

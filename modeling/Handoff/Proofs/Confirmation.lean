import Handoff.Proofs.Starting

/-!
# What a confirmed close says about the outbound channel

The loop confirms the close after it gave up its own outbound sender, so with a confirmed close the
only outbound sender left is the one that a start in progress has yet to give up. Once the start is
over there is none, and a reader that has read everything finds the end. Between the spawning of the
loop and the end of the start, a stop or the end of the input can bring the loop to its confirmation
with the sender of the stage alive: then such a reader finds nothing, as if more could come.
-/
namespace Handoff

/-- A reader of an empty channel finds the end when no sender is left, and nothing when one is. -/
theorem Outlet.read_of_empty {o : Outlet} (hq : o.channel.queue = [])
    (ha : o.channel.accepting = true) (hp : o.channel.permits = 0) (hl : o.channel.line = []) :
    o.read.1 = if o.channel.senders = 0 then .ended else .nothing := by
  have he : o.channel.ended = decide (o.channel.senders = 0) := by
    obtain ⟨h₁, h₂⟩ := Channel.line_eq_nil.mp hl
    simp [Channel.ended, Channel.deserted, hq, ha, hp, h₁, h₂]
  have ht : o.channel.take? = none := by
    unfold Channel.take?
    rw [hq]
  simp [Outlet.read, ht, he]

namespace Exchange

variable {w w' : Exchange} {m : Move} {l : Loop} {h : Hub}

/-- A step of the loop that leaves it with an outbound sender confirms nothing. -/
theorem closed_of_sends (hs : w.loop.Step w.hub l h) (hp : l.position.sends = true) :
    w.loop.position.sends = true ∧ h.lifecycle.closed = w.hub.lifecycle.closed := by
  cases hs with
  | release | confirm | report | takeLate | countLate | answerLate | finish => cases hp
  | begin hq | seeClose hq | seeNone hq | stop hq | pick hq | exhaust hq | giveUp hq | reserve hq
  | findGone hq | place hq | count hq | stopAwaiting hq | seeTaken hq | loseReaders hq | abandon hq
  | countAbandoned hq | closeInbound hq | drain hq | endDrain hq | countDrained hq | settle hq =>
    exact ⟨by rw [hq]; rfl, rfl⟩

/-- Where the close is confirmed, the loop has no outbound sender. -/
theorem Reachable.sends_of_closed {label : String} {slots spare : Nat}
    (h : Reachable label slots spare w) (hc : w.hub.lifecycle.closed = true) :
    w.loop.position.sends = false := by
  revert hc
  refine Reached.invariant
    (P := fun w => w.hub.lifecycle.closed = true → w.loop.position.sends = false) h nofun ?_
  intro m w w' hi hs hc
  rcases (step_cases hs).position_cases with ⟨b, rfl⟩ | ⟨hp, he⟩
  · cases step_cases hs with
    | loop hl =>
      refine Bool.eq_false_iff.mpr fun hsends => ?_
      obtain ⟨hold, he⟩ := closed_of_sends hl hsends
      exact absurd (hold.symm.trans (hi (he.symm.trans hc))) nofun
  · rw [hp]
    exact hi (he.symm.trans hc)

end Exchange

namespace Staging

variable {w : Staging} {slots : Nat}

/-- With a confirmed close the loop is spawned, and the outbound senders left are those that the
start has yet to give up: none once it is over. A reader of the empty channel finds the end exactly
then. -/
theorem senders_of_closed (h : Reached step (start slots) w)
    (hc : w.stage.hub.lifecycle.closed = true) :
    (w.attachment = .spawned ∧ w.stage.hub.outlet.channel.senders = 1 ∨
      w.attachment = .attached ∧ w.stage.hub.outlet.channel.senders = 0) ∧
    (w.stage.hub.outlet.channel.queue = [] → 0 < w.stage.hub.outlet.handles →
      w.stage.hub.outlet.read.1 = if w.stage.isAttached then .ended else .nothing) := by
  obtain ⟨hw, he⟩ := reached_exchange h
  have ho := hw.steady.outflow
  have hsends := he.sends_of_closed hc
  have hpermits : w.stage.hub.outlet.channel.permits = 0 := by
    refine ho.permits.trans ?_
    cases hp : w.exchange.loop.position <;> first | rfl | simp [hp, Position.sends] at hsends
  have hsenders : w.stage.hub.outlet.channel.senders = w.attachment.spare := by
    refine ho.senders.trans ?_
    rw [hsends, hw.spare]
    rfl
  have hspawned : w.attachment = .spawned ∨ w.attachment = .attached := by
    have hloop := hw.unspawned
    cases ha : w.attachment with
    | spawned => exact .inl rfl
    | attached => exact .inr rfl
    -- not spawned, the loop has not run and still counts as an outbound sender
    | detached | cloned | marked =>
      rw [hloop (by rw [ha]; rfl)] at hsends
      cases hsends
  have hread := fun hq hn => Outlet.read_of_empty (o := w.stage.hub.outlet) hq
    (ho.accepting.trans (decide_eq_true hn)) hpermits ho.line
  rcases hspawned with ha | ha <;> rw [ha] at hsenders
  · refine ⟨.inl ⟨ha, hsenders⟩, fun hq hn => ?_⟩
    rw [hread hq hn, hsenders]
    simp [Attachment.spare, stage, Stage.isAttached, ha]
  · refine ⟨.inr ⟨ha, hsenders⟩, fun hq hn => ?_⟩
    rw [hread hq hn, hsenders]
    simp [Attachment.spare, stage, Stage.isAttached, ha]

/-- The steps of a loop that was asked to close before it ran, up to its confirmation. -/
def closingSteps : List Move :=
  [.other (.loop .channel), .other (.loop .channel), .other (.loop .channel),
    .other (.loop .channel), .other (.loop .channel), .other (.loop .channel),
    .other (.loop .channel), .other (.loop .channel)]

/-- After a start that is over, a stopped stage has no outbound sender left. -/
theorem senders_of_closed_attached : ∃ w, Reached step (start 4) w ∧
    w.stage.hub.lifecycle.closed = true ∧ w.stage.hub.outlet.channel.senders = 0 ∧
      w.stage.hub.outlet.read.1 = .ended := by
  obtain ⟨w, hw, ha, hc, hq, hn⟩ : ∃ w, ([Move.other .claimStop, .other .publish, .cloneSender,
      .markRunning, .spawnLoop, .attach] ++ closingSteps).foldlM (fun w m => step m w) (start 4) =
        some w ∧ w.attachment = .attached ∧ w.stage.hub.lifecycle.closed = true ∧
          w.stage.hub.outlet.channel.queue = [] ∧ 0 < w.stage.hub.outlet.handles :=
    ⟨_, rfl, rfl, rfl, rfl, Nat.one_pos⟩
  have hreached := Reached.of_moves hw
  obtain ⟨hsenders, hread⟩ := senders_of_closed hreached hc
  refine ⟨w, hreached, hc, (hsenders.resolve_left fun h => ?_).2, ?_⟩
  · rw [ha] at h
    cases h.1
  · rw [hread hq hn]
    simp [stage, Stage.isAttached, ha]

/-- A stop before the start, and a loop that closes before the start is over. The close is
confirmed, the sender of the stage is alive, and a reader finds nothing. -/
theorem sender_left_when_closed : ∃ w, Reached step (start 4) w ∧
    w.stage.hub.lifecycle.closed = true ∧ w.stage.hub.outlet.channel.senders = 1 ∧
      w.stage.hub.outlet.tryRead.1 = .nothing := by
  obtain ⟨w, hw, hc, hs, hr⟩ : ∃ w, ([Move.other .claimStop, .other .publish, .cloneSender,
      .markRunning, .spawnLoop] ++ closingSteps).foldlM (fun w m => step m w) (start 4) =
        some w ∧ w.stage.hub.lifecycle.closed = true ∧
          w.stage.hub.outlet.channel.senders = 1 ∧ w.stage.hub.outlet.tryRead.1 = .nothing :=
    ⟨_, rfl, rfl, rfl, rfl⟩
  exact ⟨w, Reached.of_moves hw, hc, hs, hr⟩

end Staging
end Handoff

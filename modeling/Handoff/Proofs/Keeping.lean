import Handoff.Proofs.Exchange
import Handoff.Proofs.Outlet

/-!
# What every move keeps, whatever the outbound channel holds

Custody is sound, the inbound channel is what the position of the loop says, and so is the outbound
channel, which may have any number of slots. Nobody waits for one of them, one is set aside while
the loop is about to place, and the loop counts as a sender until it has given up its own handle.
From the last reader on what is placed is lost, and nothing is lost before.

What a single slot adds to this is not said here.
-/
namespace Handoff.Exchange

/-- What the position of the loop says about the outbound channel, about what was lost there and
about what the loop answered. -/
structure Outgoing (w : Exchange) : Prop where
  line : w.hub.outlet.channel.line = []
  permits : w.hub.outlet.channel.permits = w.loop.position.reserves.toNat
  senders : w.hub.outlet.channel.senders = w.spare + w.loop.position.sends.toNat
  accepting : w.hub.outlet.channel.accepting = decide (0 < w.hub.outlet.handles)
  receiver : w.hub.outlet.channel.receiver = decide (0 < w.hub.outlet.handles)
  intact : 0 < w.hub.outlet.handles → w.lost = []
  forward : w.loop.position.forwards = true → w.refused = []

/-- What every move keeps: sound custody, and a channel on either side that is as the position of
the loop has it. -/
structure Kept (w : Exchange) : Prop where
  sound : w.custody.Sound
  inflow : w.loop.Inflow
  outgoing : w.Outgoing

/-- A loop that has not run, with so many inbound slots, so many outbound slots and so many other
outbound senders. -/
def wide (label : String) (slots width spare : Nat) : Exchange :=
  { loop := { label, inbound := { capacity := slots } }
    hub := { outlet := { channel := { capacity := width, senders := spare + 1 } } }
    spare }

variable {w w' : Exchange} {l : Loop} {h : Hub} {t : Transaction}

section Sound

/-- Nothing changes hands in a step that leaves both queues, the hand and the ledger alone. -/
theorem sound_of_still (hw : w.custody.Sound) (hq : l.inbound = w.loop.inbound)
    (hh : l.position.hand = w.loop.position.hand) (ho : h.outlet.channel.queue = w.slot)
    (hr : h.replies = w.hub.replies) (hp : w.loop.places = []) (ha : w.loop.answers = [])
    (hl : w.loop.strands w.hub = []) : (w.afterLoop l h).custody.Sound := by
  have hc : (w.afterLoop l h).custody = w.custody := by
    simp only [custody, afterLoop, slot, hq, hh, ho, hr, hp, ha, hl, List.append_nil]
  exact hc ▸ hw

theorem writes_answer (hw : w.custody.Sound) (ht : t ∈ w.custody.pending) (o : Outcome) :
    Writes w.hub.replies.outcome (w.hub.replies.answer t.serial o).outcome [t] o :=
  Replies.writes_answer (hw.issued t (List.mem_append_left _ ht)) (hw.unanswered t ht) o

/-- Writing for what stands at one end of the pending transactions. -/
theorem writes_releaseAll {ts : List Transaction} (hw : w.custody.Sound)
    (ht : ts.Sublist w.custody.pending) :
    Writes w.hub.replies.outcome (w.hub.replies.releaseAll ts).outcome ts .dropped :=
  Replies.writes_releaseAll (fun u hu => hw.issued u (List.mem_append_left _ (ht.mem hu)))
    (fun u hu => hw.unanswered u (ht.mem hu))
    (((ht.trans (List.sublist_append_left ..)).map _).nodup hw.distinct)

/-- When inbound is closed, those in line are turned away and let go of what they have. -/
theorem sound_close (hw : w.custody.Sound) :
    ({ w.custody with
      senders := w.unsent
      outcome := (w.hub.replies.releaseAll w.loop.inbound.line).outcome } : Custody).Sound := by
  have hline : w.loop.inbound.line.Sublist w.custody.pending := by
    simp only [Custody.pending, custody, List.append_assoc]
    exact (List.sublist_append_left ..).trans (List.sublist_append_right ..)
  exact hw.turnAway List.perm_append_comm (writes_releaseAll hw hline)

/-- What stands in the slot is lost when nobody is left to read it. -/
theorem sound_lose (hw : w.custody.Sound) :
    ({ w.custody with
      slot := []
      lost := w.lost ++ w.slot
      outcome := (w.hub.replies.releaseAll w.slot).outcome } : Custody).Sound := by
  refine hw.lose (writes_releaseAll hw ?_)
  simp only [Custody.pending]
  exact (List.sublist_append_right ..).trans (List.sublist_append_left ..)

theorem sound_leave (hw : w.custody.Sound) :
    ({ w.custody with
      slot := w.hub.outlet.channel.leave.sweep.queue
      lost := w.lost ++ w.hub.outlet.channel.leave.orphans
      outcome := (w.hub.replies.releaseAll w.hub.outlet.channel.leave.orphans).outcome } :
      Custody).Sound := by
  unfold Channel.sweep Channel.orphans
  split
  · exact sound_lose hw
  · rw [List.append_nil]
    exact hw

end Sound

namespace Outgoing

/-- A step that leaves the outbound side alone, to a place that promises no more about it. -/
theorem of_still (ho : w.Outgoing) (hh : h.outlet = w.hub.outlet)
    (hr : l.position.reserves = w.loop.position.reserves)
    (hs : l.position.sends = w.loop.position.sends)
    (hf : l.position.forwards = true → w.loop.position.forwards = true ∧ w.loop.answers = [])
    (hd : w.loop.strands w.hub = []) : (w.afterLoop l h).Outgoing := by
  constructor <;> simp only [Exchange.afterLoop, hh, hr, hs, hd, List.append_nil]
  · exact ho.line
  · exact ho.permits
  · exact ho.senders
  · exact ho.accepting
  · exact ho.receiver
  · exact ho.intact
  · intro hp
    rw [(hf hp).2, List.append_nil]
    exact ho.forward (hf hp).1

theorem handles_pos (ho : w.Outgoing) (ha : w.hub.outlet.channel.accepting = true) :
    0 < w.hub.outlet.handles := by
  rw [ho.accepting] at ha
  exact of_decide_eq_true ha

/-- While there is a reader, an outbound sender goes away without a loss. -/
theorem orphans_eq_nil (ho : w.Outgoing) (hn : 0 < w.hub.outlet.handles) :
    w.hub.outlet.channel.leave.orphans = [] :=
  (Channel.sweep_of_receiver (c := w.hub.outlet.channel.leave)
    (ho.receiver.trans (decide_eq_true hn))).2

theorem afterLoop (ho : w.Outgoing) (hs : w.loop.Step w.hub l h) : (w.afterLoop l h).Outgoing := by
  have hpermits := ho.permits
  have hsenders := ho.senders
  have hintact := ho.intact
  have hforward := ho.forward
  cases hs with
  | begin hp | seeClose hp | seeNone hp | stop hp | pick hp | exhaust hp | giveUp hp | findGone hp
  | count hp | stopAwaiting hp | seeTaken hp | loseReaders hp | abandon hp | countAbandoned hp
  | closeInbound hp | drain hp | endDrain hp | countDrained hp | settle hp | confirm hp | report hp
  | takeLate hp | countLate hp | answerLate hp =>
    apply ho.of_still
    · rfl
    all_goals simp [hp, Loop.goto, Position.forwards, Position.sends, Position.reserves,
      Loop.answers, Loop.strands]
  | finish hp =>
    apply ho.of_still
    · show (Hub.outlet (if _ then _ else _)) = _
      split <;> rfl
    all_goals simp [hp, Position.forwards, Position.sends, Position.reserves, Loop.strands]
  | reserve hp | place hp =>
    rw [hp] at hpermits hsenders hforward
    have hd : w.lost ++ w.loop.strands w.hub = w.lost := by rw [Loop.strands, hp, List.append_nil]
    have hr : w.refused ++ w.loop.answers = w.refused := by rw [Loop.answers, hp, List.append_nil]
    exact
      { ho with
        permits := by simp [Exchange.afterLoop, Loop.goto, Hub.setOutbound, Channel.spend,
          Position.reserves, hpermits]
        senders := hsenders
        intact := fun hn => hd.trans (hintact hn)
        forward := fun _ => hr.trans (hforward rfl) }
  | release hp =>
    rw [hp] at hpermits hsenders
    have hd : w.loop.strands w.hub = w.hub.outlet.channel.leave.orphans := by
      rw [Loop.strands, hp]
    exact
      { line := (Channel.line_sweep _).trans ho.line
        permits := (Channel.permits_sweep _).trans hpermits
        senders := by
          refine (Channel.senders_sweep _).trans ?_
          rw [Channel.leave, hsenders]
          rfl
        accepting := (Channel.accepting_sweep _).trans ho.accepting
        receiver := (Channel.receiver_sweep _).trans ho.receiver
        intact := by
          intro hn
          show w.lost ++ w.loop.strands w.hub = []
          rw [hd, hintact hn, ho.orphans_eq_nil hn]
          rfl
        forward := fun hf => by cases hf }

end Outgoing

namespace Kept

theorem order (hw : w.Kept) :
    w.accepted = w.placed ++ w.refused ++ w.loop.position.hand ++ w.loop.inbound.queue :=
  hw.sound.order

theorem passage (hw : w.Kept) : w.placed = w.taken ++ w.lost ++ w.slot := hw.sound.passage

theorem sound_afterLoop (hw : w.Kept) (hs : w.loop.Step w.hub l h) :
    (w.afterLoop l h).custody.Sound := by
  have hsound := hw.sound
  cases hs with
  | begin hp | seeClose hp | seeNone hp | stop hp | exhaust hp | giveUp hp | reserve hp
  | findGone hp | count hp | stopAwaiting hp | seeTaken hp | loseReaders hp | countAbandoned hp
  | countDrained hp | settle hp | confirm hp | report hp | countLate hp =>
    exact sound_of_still hsound rfl (by rw [hp]; rfl) rfl rfl (by rw [Loop.places, hp])
      (by rw [Loop.answers, hp]) (by rw [Loop.strands, hp])
  | endDrain hp hq =>
    exact sound_of_still hsound rfl (by rw [hp]; rfl) rfl rfl (by rw [Loop.places, hp])
      (by rw [Loop.answers, hp, hq]; rfl) (by rw [Loop.strands, hp])
  | pick hp hq hc | takeLate hp hq hc =>
    subst hc
    have hs := hsound.pick hq (by rw [custody, hp]; rfl)
    simpa only [custody, afterLoop, slot, Loop.places, Loop.answers, Loop.strands, hp,
      Channel.line_taken, Channel.queue_grant, List.append_nil, Position.hand] using hs
  | @place t hp =>
    have hs := hsound.place (t := t) (by rw [custody, hp]; rfl)
      (hw.outgoing.forward (by rw [hp]; rfl))
    simpa only [custody, afterLoop, slot, Loop.places, Loop.answers, Loop.strands, hp, Loop.goto,
      Hub.setOutbound, Channel.spend, List.append_nil, Position.hand] using hs
  | @abandon t e hp | @answerLate t n hp =>
    have hhand : w.custody.hand = [t] := by rw [custody, hp]; rfl
    have hmem : t ∈ w.custody.pending := by simp [Custody.pending, hhand]
    have hs := hsound.refuse hhand (writes_answer hsound hmem .stageClosed)
    simpa only [custody, afterLoop, slot, Loop.places, Loop.answers, Loop.strands, hp, Loop.goto,
      Hub.answer, Replies.next_answer, List.append_nil, Position.hand] using hs
  | closeInbound hp =>
    have hs := sound_close hsound
    simpa only [custody, afterLoop, slot, Loop.places, Loop.answers, Loop.strands, hp, Loop.goto,
      Hub.release, Replies.next_releaseAll, Channel.close, Channel.line, List.append_nil,
      Position.hand] using hs
  | @drain e n t c rest hp hq hc =>
    subst hc
    have hhand : w.custody.hand = [] := by rw [custody, hp]; rfl
    have hmem : t ∈ w.custody.pending := by simp [Custody.pending, custody, hq]
    have hs := (hsound.pick hq hhand).refuse (t := t) rfl (writes_answer hsound hmem .stageClosed)
    simpa only [custody, afterLoop, slot, Loop.places, Loop.answers, Loop.strands, hp, hq,
      Loop.goto, Hub.answer, Replies.next_answer, Channel.line_taken, Channel.queue_grant,
      List.append_nil, Position.hand, List.take_succ_cons, List.take_zero] using hs
  | release hp =>
    have hs := sound_leave hsound
    simpa only [custody, afterLoop, slot, Loop.places, Loop.answers, Loop.strands, hp, Loop.goto,
      Hub.dropOutboundSender, Hub.release, Hub.setOutbound, Replies.next_releaseAll,
      List.append_nil, Position.hand] using hs
  | @finish n hp he =>
    -- inbound has ended, so the loop goes with nothing in its queue and no one in line
    obtain ⟨hq, hl, -⟩ := hw.inflow.guarded.ended_iff.mp he
    have hr : ∀ h : Hub, (h.release (w.loop.inbound.line ++ w.loop.inbound.queue)) = h := by
      intro h
      rw [hl, hq]
      rfl
    rw [hr]
    have hn : (if 0 < n then w.hub.note (.lateAnswered w.loop.label n) else w.hub).replies =
        w.hub.replies := by split <;> rfl
    have ho : (if 0 < n then w.hub.note (.lateAnswered w.loop.label n) else w.hub).outlet =
        w.hub.outlet := by split <;> rfl
    simpa only [custody, afterLoop, slot, Loop.places, Loop.answers, Loop.strands, hp, hn, ho,
      Channel.line_detach, Channel.queue_detach, List.append_nil, hq, hl,
      Position.hand] using hsound

theorem loop (hw : w.Kept) (hs : w.loop.Step w.hub l h) : (w.afterLoop l h).Kept :=
  ⟨hw.sound_afterLoop hs, hw.inflow.step hs, hw.outgoing.afterLoop hs⟩

theorem sending {i : Inlet} (hw : w.Kept) (hs : w.inlet.Step i) : (w.afterSending i).Kept :=
  ⟨hs.sound (c := w.custody) hw.inflow.guarded hw.sound, inflow_sending hw.inflow hs,
    { hw.outgoing with }⟩

theorem shut (hw : w.Kept) (hp : w.loop.position = .wired) :
    Kept { w with
      loop := { w.loop with inbound := w.loop.inbound.close.2 }
      hub := w.hub.release w.loop.inbound.close.1 } := by
  refine ⟨?_, inflow_shut hw.inflow hp, { hw.outgoing with }⟩
  have hs := sound_close hw.sound
  simpa only [custody, slot, Hub.release, Replies.next_releaseAll, Channel.close, Channel.line,
    List.append_nil] using hs

theorem take {rest : List Transaction} (hw : w.Kept) (hn : 0 < w.hub.outlet.handles)
    (hq : w.slot = t :: rest) :
    Kept { w with
      hub := w.hub.setOutbound { w.hub.outlet.channel with queue := rest }.grant
      held := w.held ++ [t], taken := w.taken ++ [t] } :=
  have ho := hw.outgoing
  ⟨hw.sound.take hq (ho.intact hn), hw.inflow,
    { ho with line := (Channel.line_taken ..).trans ho.line }⟩

theorem answer (hw : w.Kept) (ht : t ∈ w.held) (o : Outcome) :
    Kept { w with
      hub := w.hub.answer t o, held := w.held.erase t, returned := w.returned ++ [(t, o)] } := by
  have hmem : t ∈ w.custody.pending := by simp [Custody.pending, custody, ht]
  have hs := hw.sound.answer (List.perm_cons_erase ht) (writes_answer hw.sound hmem o)
  refine ⟨?_, hw.inflow, { hw.outgoing with }⟩
  simpa only [custody, slot, Hub.answer, Replies.next_answer] using hs

theorem addHandle (hw : w.Kept) (hn : 0 < w.hub.outlet.handles) :
    Kept { w with hub := { w.hub with outlet := w.hub.outlet.addHandle } } := by
  have ho := hw.outgoing
  have hd : decide (0 < w.hub.outlet.addHandle.handles) = decide (0 < w.hub.outlet.handles) := by
    simp [Outlet.addHandle, hn]
  exact ⟨hw.sound, hw.inflow,
    { ho with
      accepting := ho.accepting.trans hd.symm
      receiver := ho.receiver.trans hd.symm
      intact := fun _ => ho.intact hn }⟩

/-- With the last handle goes what is placed and not taken. -/
theorem dropHandle (hw : w.Kept) (hn : 0 < w.hub.outlet.handles) :
    Kept { w with
      hub := w.hub.dropOutboundHandle, lost := w.lost ++ w.hub.outlet.dropHandle.2.1 } := by
  have ho := hw.outgoing
  simp only [Hub.dropOutboundHandle]
  by_cases hlast : w.hub.outlet.handles ≤ 1
  · rw [Outlet.dropHandle_last hlast]
    simp only [ho.line, List.nil_append]
    refine ⟨?_, hw.inflow,
      { ho with line := rfl, accepting := rfl, receiver := rfl, intact := fun hn => by cases hn }⟩
    have hs := sound_lose hw.sound
    simpa only [custody, slot, Hub.release, Replies.next_releaseAll, Channel.queue_detach] using hs
  · rw [Outlet.dropHandle_more (by omega)]
    simp only [List.append_nil]
    have hd : decide (0 < w.hub.outlet.handles - 1) = decide (0 < w.hub.outlet.handles) := by
      rw [decide_eq_true hn]
      exact decide_eq_true (by omega)
    exact ⟨hw.sound, hw.inflow,
      { ho with
        accepting := ho.accepting.trans hd.symm
        receiver := ho.receiver.trans hd.symm
        intact := fun _ => ho.intact hn }⟩

theorem cloneSpare (hw : w.Kept) :
    Kept { w with
      hub := w.hub.setOutbound
        { w.hub.outlet.channel with senders := w.hub.outlet.channel.senders + 1 }
      spare := w.spare + 1 } := by
  refine ⟨hw.sound, hw.inflow, { hw.outgoing with senders := ?_ }⟩
  show w.hub.outlet.channel.senders + 1 = w.spare + 1 + w.loop.position.sends.toNat
  have hs := hw.outgoing.senders
  omega

theorem dropSpare (hw : w.Kept) (hn : 0 < w.spare) :
    Kept { w with
      hub := w.hub.dropOutboundSender
      spare := w.spare - 1
      lost := w.lost ++ w.hub.outlet.channel.leave.orphans } := by
  have ho := hw.outgoing
  refine ⟨?_, hw.inflow, ?_⟩
  · have hs := sound_leave hw.sound
    simpa only [custody, slot, Hub.dropOutboundSender, Hub.release, Hub.setOutbound,
      Replies.next_releaseAll] using hs
  · exact
      { ho with
        line := (Channel.line_sweep _).trans ho.line
        permits := (Channel.permits_sweep _).trans ho.permits
        senders := by
          refine (Channel.senders_sweep _).trans ?_
          show w.hub.outlet.channel.senders - 1 = w.spare - 1 + w.loop.position.sends.toNat
          have hs := ho.senders
          omega
        accepting := (Channel.accepting_sweep _).trans ho.accepting
        receiver := (Channel.receiver_sweep _).trans ho.receiver
        intact := by
          intro hm
          show w.lost ++ w.hub.outlet.channel.leave.orphans = []
          rw [ho.intact hm, ho.orphans_eq_nil hm]
          rfl }

/-- No move of any party breaks what is kept. -/
theorem step {m : Move} (hw : w.Kept) (hs : Step w m w') : w'.Kept := by
  cases hs with
  | sending hi => exact hw.sending hi
  | shut hp => exact hw.shut hp
  | loop hl => exact hw.loop hl
  | take hn hq => exact hw.take hn hq
  | answer ht => exact hw.answer ht _
  | addHandle hn => exact hw.addHandle hn
  | dropHandle hn => exact hw.dropHandle hn
  | cloneSpare => exact hw.cloneSpare
  | dropSpare hn => exact hw.dropSpare hn
  | markRunning | claimStop | publish | note =>
    exact ⟨hw.sound, hw.inflow, { hw.outgoing with }⟩

theorem wide (label : String) (slots width spare : Nat) :
    (Exchange.wide label slots width spare).Kept where
  sound := by
    constructor <;> simp [Exchange.wide, custody, slot, Custody.pending, Custody.settled,
      Channel.line, Position.hand]
  inflow := ⟨.of_accepting (Nat.zero_le _) rfl rfl, rfl, nofun⟩
  outgoing := by
    constructor <;> simp [Exchange.wide, Channel.line, Position.reserves, Position.sends]

/-- A finished loop has nothing left to place or to answer. -/
theorem accepted_of_finished (hw : w.Kept) (hp : w.loop.position = .finished) :
    w.accepted = w.placed ++ w.refused := by
  have hr := hw.inflow.receiver
  rw [hp] at hr
  have hq := (hw.inflow.guarded.gone hr).2.1
  have horder := hw.order
  simpa only [hp, hq, Position.hand, List.append_nil] using horder

end Kept
end Handoff.Exchange

import Handoff.Proofs.Keeping

/-!
# What every move of an exchange keeps

Custody is sound, the inbound channel is what the position of the loop says, and so is the outbound
channel. The slot rules are the heart of it: a slot is set aside only while the loop holds a
transaction and the slot is empty, and the loop goes back to its inbound channel only after it saw
the slot free with a reader alive, so by then whatever it placed is taken. From the last handle on
what is placed is lost, and nothing is lost before.
-/
namespace Handoff.Exchange

/-- What the position of the loop says about the outbound channel, about what was lost there and
about what the loop answered. -/
structure Outflow (w : Exchange) : Prop where
  capacity : w.hub.outlet.channel.capacity = 1
  line : w.hub.outlet.channel.line = []
  permits : w.hub.outlet.channel.permits = w.loop.position.reserves.toNat
  single : w.slot.length + w.hub.outlet.channel.permits ≤ 1
  senders : w.hub.outlet.channel.senders = w.spare + w.loop.position.sends.toNat
  accepting : w.hub.outlet.channel.accepting = decide (0 < w.hub.outlet.handles)
  receiver : w.hub.outlet.channel.receiver = decide (0 < w.hub.outlet.handles)
  intact : 0 < w.hub.outlet.handles → w.lost = []
  clear : w.loop.position.isClear = true → w.slot = [] ∧ w.lost = []
  forward : w.loop.position.forwards = true → w.refused = []

/-- What every move keeps. -/
structure Steady (w : Exchange) : Prop where
  sound : w.custody.Sound
  inflow : w.loop.Inflow
  outflow : w.Outflow

/-- What a single outbound slot adds to what any number of them keeps. -/
structure OneSlot (w : Exchange) : Prop where
  capacity : w.hub.outlet.channel.capacity = 1
  single : w.slot.length + w.hub.outlet.channel.permits ≤ 1
  clear : w.loop.position.isClear = true → w.slot = [] ∧ w.lost = []

variable {w w' : Exchange} {l : Loop} {h : Hub} {m : Move}

namespace OneSlot

/-- A step that leaves the outbound side alone, to a place that promises no more about it. -/
theorem of_still (ho : w.OneSlot) (hh : h.outlet = w.hub.outlet)
    (hc : l.position.isClear = true → w.loop.position.isClear = true)
    (hd : w.loop.strands w.hub = []) : (w.afterLoop l h).OneSlot := by
  constructor <;> simp only [Exchange.afterLoop, slot, hh, hd, List.append_nil]
  · exact ho.capacity
  · exact ho.single
  · exact fun hp => ho.clear (hc hp)

/-- A free slot was read. -/
theorem slot_eq_nil (ho : w.OneSlot) (hf : 0 < w.hub.outlet.channel.free) : w.slot = [] := by
  have hc := ho.capacity
  simp only [Channel.free, Channel.used] at hf
  exact List.eq_nil_of_length_eq_zero (by simp only [slot]; omega)

theorem single_leave (ho : w.OneSlot) :
    w.hub.outlet.channel.leave.sweep.queue.length +
      w.hub.outlet.channel.leave.sweep.permits ≤ 1 := by
  have hs := ho.single
  rw [Channel.permits_sweep]
  rcases Channel.queue_sweep w.hub.outlet.channel.leave with hq | hq
  · rw [hq]
    exact Nat.le_trans (Nat.add_le_add_right (Nat.zero_le _) _) hs
  · rw [hq]
    exact hs

theorem afterLoop (hw : w.Outgoing) (ho : w.OneSlot) (hs : w.loop.Step w.hub l h) :
    (w.afterLoop l h).OneSlot := by
  have hpermits := hw.permits
  have hclear := ho.clear
  cases hs with
  | begin hp | seeClose hp | seeNone hp | stop hp | pick hp | exhaust hp | giveUp hp | findGone hp
  | count hp | stopAwaiting hp | loseReaders hp | abandon hp | countAbandoned hp | closeInbound hp
  | drain hp | endDrain hp | countDrained hp | settle hp | confirm hp | report hp | takeLate hp
  | countLate hp | answerLate hp =>
    apply ho.of_still
    · rfl
    all_goals simp [hp, Loop.goto, Position.isClear, Loop.strands]
  | finish hp =>
    apply ho.of_still
    · show (Hub.outlet (if _ then _ else _)) = _
      split <;> rfl
    all_goals simp [hp, Position.isClear, Loop.strands]
  | seeTaken hp ha hf =>
    -- a free slot and a reader alive: what was placed is taken, and nothing is lost so far
    have hd : w.lost ++ w.loop.strands w.hub = w.lost := by rw [Loop.strands, hp, List.append_nil]
    exact
      { ho with
        clear := fun _ => ⟨ho.slot_eq_nil hf, hd.trans (hw.intact (hw.handles_pos ha))⟩ }
  | reserve hp ha hf =>
    rw [hp] at hpermits hclear
    have hd : w.lost ++ w.loop.strands w.hub = w.lost := by rw [Loop.strands, hp, List.append_nil]
    exact
      { ho with
        single := by
          show w.slot.length + (w.hub.outlet.channel.permits + 1) ≤ 1
          rw [(hclear rfl).1, hpermits]
          exact Nat.le_refl 1
        clear := fun _ => ⟨(hclear rfl).1, hd.trans (hclear rfl).2⟩ }
  | @place t hp =>
    rw [hp] at hpermits hclear
    exact
      { ho with
        single := by
          show (w.slot ++ [t]).length + (w.hub.outlet.channel.permits - 1) ≤ 1
          rw [(hclear rfl).1, hpermits]
          exact Nat.le_refl 1
        clear := fun hc => by cases hc }
  | release hp =>
    exact
      { capacity := (Channel.capacity_sweep _).trans ho.capacity
        single := ho.single_leave
        clear := fun hc => by cases hc }

theorem step (hw : w.Outgoing) (ho : w.OneSlot) (hs : Step w m w') : w'.OneSlot := by
  have hsingle := ho.single
  cases hs with
  | loop hl => exact ho.afterLoop hw hl
  | @take t rest hn hq =>
    have hlength : w.slot.length = rest.length + 1 := by rw [hq, List.length_cons]
    have hrest : rest = [] := List.eq_nil_of_length_eq_zero (by omega)
    subst hrest
    exact
      { ho with
        single := by
          show 0 + w.hub.outlet.channel.permits ≤ 1
          omega
        clear := fun _ => ⟨rfl, hw.intact hn⟩ }
  | dropHandle =>
    simp only [Hub.dropOutboundHandle]
    by_cases hlast : w.hub.outlet.handles ≤ 1
    · rw [Outlet.dropHandle_last hlast]
      exact
        { ho with
          single := by
            show 0 + w.hub.outlet.channel.permits ≤ 1
            omega
          clear := by
            intro hp
            obtain ⟨hs, hl⟩ := ho.clear hp
            exact ⟨rfl, by rw [hl]; exact hs⟩ }
    · rw [Outlet.dropHandle_more (by omega)]
      simp only [List.append_nil]
      exact { ho with }
  | dropSpare =>
    exact
      { capacity := (Channel.capacity_sweep _).trans ho.capacity
        single := ho.single_leave
        clear := by
          intro hp
          obtain ⟨hs, hl⟩ := ho.clear hp
          obtain ⟨hq, horphans⟩ := Hub.dropOutboundSender_of_queue_nil hs
          exact ⟨hq, by rw [hl, horphans, List.append_nil]⟩ }
  | sending | shut | answer | addHandle | cloneSpare | markRunning | claimStop | publish | note =>
    exact { ho with }

end OneSlot

theorem Outflow.outgoing (ho : w.Outflow) : w.Outgoing := { ho with }

theorem Outflow.oneSlot (ho : w.Outflow) : w.OneSlot := { ho with }

namespace Steady

theorem kept (hw : w.Steady) : w.Kept := ⟨hw.sound, hw.inflow, hw.outflow.outgoing⟩

theorem of_kept (hw : w.Kept) (ho : w.OneSlot) : w.Steady :=
  ⟨hw.sound, hw.inflow, { hw.outgoing, ho with }⟩

theorem order (hw : w.Steady) :
    w.accepted = w.placed ++ w.refused ++ w.loop.position.hand ++ w.loop.inbound.queue :=
  hw.sound.order

theorem passage (hw : w.Steady) : w.placed = w.taken ++ w.lost ++ w.slot := hw.sound.passage

/-- No move of any party breaks what is kept. -/
theorem step (m : Move) (hw : w.Steady) (hs : Exchange.step m w = some w') : w'.Steady :=
  have hs := step_cases hs
  of_kept (hw.kept.step hs) (hw.outflow.oneSlot.step hw.outflow.outgoing hs)

theorem later (hw : w.Steady) (hl : Reached Exchange.step w w') : w'.Steady :=
  hl.invariant hw fun m _ _ hw hs => hw.step m hs

theorem start (label : String) (slots spare : Nat) : (Exchange.start label slots spare).Steady :=
  of_kept (.wide label slots 1 spare) ⟨rfl, Nat.zero_le 1, fun _ => ⟨rfl, rfl⟩⟩

/-- A finished loop has nothing left to place or to answer. -/
theorem accepted_of_finished (hw : w.Steady) (hp : w.loop.position = .finished) :
    w.accepted = w.placed ++ w.refused := hw.kept.accepted_of_finished hp

end Steady

theorem Reachable.steady {label : String} {slots spare : Nat} (h : Reachable label slots spare w) :
    w.Steady :=
  Steady.later (.start label slots spare) h

end Handoff.Exchange

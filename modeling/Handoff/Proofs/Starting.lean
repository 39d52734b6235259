import Handoff.Proofs.Steady
import Handoff.Stage

/-!
# A stage while it is started

A start is four steps that nothing but the lock of the attachment holds together: the loop runs from
the third of them on, on its own, while the stage still has the sender that the fourth gives up. The
stage is followed here step by step, with everyone else in between: the senders of the inbound
channel, readers, and callers that stop the stage.

Until the loop has a sender of its own the one of the stage stands for it, and from then on the one
of the stage is the spare one. So each step of a start is a move of an exchange, and what every
exchange keeps holds of the stage.
-/
namespace Handoff

/-- The loop has been spawned. -/
def Attachment.isSpawned : Attachment → Bool
  | .spawned | .attached => true
  | _ => false

/-- Outbound senders of the stage besides the one of the loop. -/
def Attachment.spare : Attachment → Nat
  | .cloned _ | .marked _ | .spawned => 1
  | _ => 0

@[simp] theorem Stage.loop_cloneSender (s : Stage) (c : Channel Transaction) :
    (s.cloneSender c).loop = s.loop := rfl

@[simp] theorem Stage.loop_attach (s : Stage) : s.attach.loop = s.loop := rfl

@[simp] theorem Stage.loop_markRunning (s : Stage) (c : Channel Transaction) :
    (s.markRunning c).loop = s.loop := by
  unfold Stage.markRunning
  split <;> rfl

structure Staging where
  attachment : Attachment := .detached
  /-- The stage has a loop. -/
  hasLoop : Bool := false
  /-- The hub of the stage, its loop if it has one, and who has which transaction. Before, the loop
  stands for the inbound channel to attach. -/
  exchange : Exchange
deriving Repr

namespace Staging

inductive Move
  | cloneSender
  | markRunning
  | spawnLoop
  | attach
  /-- an act of another party -/
  | other (m : Exchange.Move)
deriving Repr

/-- A stage to be started with an inbound channel of so many slots. -/
def start (slots : Nat) : Staging := { exchange := .start Stage.typeName slots 0 }

def stage (w : Staging) : Stage :=
  { hub := w.exchange.hub
    attachment := w.attachment
    loop := if w.hasLoop then some w.exchange.loop else none }

/-- The stage has made a step of its start. -/
def follow (w : Staging) (s : Stage) : Staging :=
  { attachment := s.attachment
    hasLoop := s.loop.isSome
    exchange :=
      { w.exchange with
        loop := s.loop.getD w.exchange.loop
        hub := s.hub
        spare := s.attachment.spare } }

/-- What other parties may do: the loop runs once the stage has one, and the inbound channel is out
of reach once it is spawned. Senders of the outbound channel and the run state are left to the
start. -/
def permits (w : Staging) : Exchange.Move → Bool
  | .loop _ => w.hasLoop
  | .shut => !w.attachment.isSpawned
  | .cloneSpare | .dropSpare | .markRunning => false
  | _ => true

def step (m : Move) (w : Staging) : Option Staging :=
  match m, w.attachment with
  | .cloneSender, .detached => some (w.follow (w.stage.cloneSender w.exchange.loop.inbound))
  | .markRunning, .cloned _ => some (w.follow (w.stage.markRunning w.exchange.loop.inbound))
  | .spawnLoop, .marked _ => some (w.follow (w.stage.spawnLoop w.exchange.loop.inbound))
  | .attach, .spawned =>
    let w' := w.follow w.stage.attach
    some { w' with
      exchange := { w'.exchange with
        lost := w.exchange.lost ++ w.exchange.hub.outlet.channel.leave.orphans } }
  | .other m, _ =>
    if w.permits m then (w.exchange.step m).map fun e => { w with exchange := e } else none
  | _, _ => none

/-- What ties a stage to its exchange. -/
structure Sane (w : Staging) : Prop where
  steady : w.exchange.Steady
  spare : w.exchange.spare = w.attachment.spare
  hasLoop : w.hasLoop = w.attachment.isSpawned
  unspawned : w.attachment.isSpawned = false →
    w.exchange.loop = { label := Stage.typeName, inbound := w.exchange.loop.inbound }

variable {w w' : Staging} {m : Move}

/-- A step of a start that leaves the loop to itself. -/
theorem follow_of_loop {s : Stage} (h : s.loop = w.stage.loop) : w.follow s =
    { attachment := s.attachment
      hasLoop := w.hasLoop
      exchange := { w.exchange with hub := s.hub, spare := s.attachment.spare } } := by
  rw [follow, h, stage]
  cases w.hasLoop <;> rfl

/-- Every step of a start, and every other move, is nothing or one move of the exchange. No step of
a start is one of a close request. -/
theorem step_simulates (hw : w.Sane) (hs : step m w = some w') :
    w'.exchange = w.exchange ∨ ∃ m', (m'.isStop = true → m = .other m') ∧
      Exchange.step m' w.exchange = some w'.exchange := by
  unfold step at hs
  split at hs
  · rename_i ha
    cases hs
    have hspare : w.exchange.spare = 0 := by rw [hw.spare, ha]; rfl
    have hpos : 0 < w.exchange.hub.outlet.channel.senders := by
      rw [hw.steady.outflow.senders, hw.unspawned (by rw [ha]; rfl)]
      exact Nat.succ_pos _
    refine .inr ⟨.cloneSpare, (fun hstop => by cases hstop), ?_⟩
    rw [Exchange.step, if_pos hpos, follow_of_loop (Stage.loop_cloneSender ..)]
    simp [stage, hspare, Stage.cloneSender, Attachment.spare]
  · rename_i c ha
    cases hs
    rw [follow_of_loop (Stage.loop_markRunning ..)]
    have hspare : w.exchange.spare = 1 := by rw [hw.spare, ha]; rfl
    by_cases hc : w.exchange.hub.lifecycle.state = .created
    · refine .inr ⟨.markRunning, (fun hstop => by cases hstop), ?_⟩
      simp [Exchange.step, stage, hspare, hc, Stage.markRunning, Lifecycle.markRunning,
        Attachment.spare]
    · refine .inr ⟨.note (.stoppedBeforeStart Stage.typeName), (fun hstop => by cases hstop), ?_⟩
      simp [Exchange.step, stage, hspare, Stage.markRunning, Lifecycle.markRunning,
        Attachment.spare]
  · rename_i c ha
    cases hs
    have hspare : w.exchange.spare = 1 := by rw [hw.spare, ha]; rfl
    have hloop := hw.unspawned (by rw [ha]; rfl)
    -- the loop that is spawned is the one that stood for its inbound channel
    refine .inl ?_
    simp only [follow, stage, Stage.spawnLoop, Option.getD_some, Attachment.spare]
    rw [← hloop, ← hspare]
  · rename_i ha
    cases hs
    have hspare : w.exchange.spare = 1 := by rw [hw.spare, ha]; rfl
    refine .inr ⟨.dropSpare, (fun hstop => by cases hstop), ?_⟩
    rw [Exchange.step, if_pos (by omega), follow_of_loop (Stage.loop_attach _)]
    simp [stage, hspare, Stage.attach, Attachment.spare]
  · rename_i m
    split at hs
    · simp only [Option.map_eq_some_iff] at hs
      obtain ⟨e, he, rfl⟩ := hs
      exact .inr ⟨m, fun _ => rfl, he⟩
    · cases hs
  · cases hs

/-- What other parties leave alone: the senders of the outbound channel, and a loop that is not
spawned. -/
theorem permits_frame {m : Exchange.Move} {e : Exchange} (hw : w.Sane) (hp : w.permits m = true)
    (hs : w.exchange.step m = some e) : e.spare = w.exchange.spare ∧
      (w.attachment.isSpawned = false →
        e.loop = { w.exchange.loop with inbound := e.loop.inbound }) := by
  cases Exchange.step_cases hs with
  | loop => exact ⟨rfl, fun hn => absurd ((hw.hasLoop.trans hn).symm.trans hp) nofun⟩
  | cloneSpare | dropSpare | markRunning => cases hp
  | sending | shut | take | answer | addHandle | dropHandle | claimStop | publish | note =>
    exact ⟨rfl, fun _ => rfl⟩

theorem sane_start (slots : Nat) : (start slots).Sane := ⟨.start .., rfl, rfl, fun _ => rfl⟩

theorem sane_step (hw : w.Sane) (hs : step m w = some w') : w'.Sane := by
  have hsteady : w'.exchange.Steady := by
    rcases step_simulates hw hs with he | ⟨m', -, he⟩
    · rw [he]
      exact hw.steady
    · exact hw.steady.step m' he
  have hloop := hw.unspawned
  have hhas := hw.hasLoop
  unfold step at hs
  split at hs
  · rename_i ha
    cases hs
    rw [ha] at hloop hhas
    rw [follow_of_loop (Stage.loop_cloneSender ..)] at hsteady ⊢
    exact ⟨hsteady, rfl, hhas, fun _ => hloop rfl⟩
  · rename_i c ha
    cases hs
    rw [ha] at hloop hhas
    have hmarked : (w.stage.markRunning w.exchange.loop.inbound).attachment.isSpawned = false := by
      unfold Stage.markRunning
      split <;> rfl
    rw [follow_of_loop (Stage.loop_markRunning ..)] at hsteady ⊢
    exact ⟨hsteady, rfl, hhas.trans hmarked.symm, fun _ => hloop rfl⟩
  · cases hs
    exact ⟨hsteady, rfl, rfl, nofun⟩
  · rename_i ha
    cases hs
    rw [ha] at hhas
    rw [follow_of_loop (Stage.loop_attach _)] at hsteady ⊢
    exact ⟨hsteady, rfl, hhas, nofun⟩
  · split at hs
    · simp only [Option.map_eq_some_iff] at hs
      obtain ⟨e, he, rfl⟩ := hs
      obtain ⟨hspare, hkept⟩ := permits_frame hw ‹_› he
      refine ⟨hsteady, hspare.trans hw.spare, hhas, fun hn => ?_⟩
      have hk := hkept hn
      rw [hloop hn] at hk
      exact hk
    · cases hs
  · cases hs

/-- What a step of a start leaves to the loop and to the readers. -/
theorem start_frame (hw : w.Sane) (hs : step m w = some w') (hm : ∀ x, m ≠ .other x) :
    w'.exchange.loop.position = w.exchange.loop.position ∧
      w'.exchange.hub.outlet.handles = w.exchange.hub.outlet.handles ∧
      w'.exchange.hub.lifecycle.closeRequested = w.exchange.hub.lifecycle.closeRequested := by
  have hloop := hw.unspawned
  unfold step at hs
  split at hs
  · rename_i ha
    cases hs
    rw [follow_of_loop (Stage.loop_cloneSender ..)]
    exact ⟨rfl, rfl, rfl⟩
  · rename_i ha
    cases hs
    rw [follow_of_loop (Stage.loop_markRunning ..)]
    rcases hl : w.exchange.hub.lifecycle.markRunning with ⟨won, l⟩
    have hkept : l.closeRequested = _ :=
      hl ▸ Lifecycle.closeRequested_markRunning w.exchange.hub.lifecycle
    cases won <;> simp [stage, Stage.markRunning, hl, Hub.note, hkept]
  · rename_i ha
    cases hs
    have hwired := congrArg Loop.position (hloop (by rw [ha]; rfl))
    exact ⟨hwired.symm, rfl, rfl⟩
  · rename_i ha
    cases hs
    rw [follow_of_loop (Stage.loop_attach _)]
    simp [stage, Stage.attach, Hub.dropOutboundSender, Hub.setOutbound, Hub.release]
  · exact absurd rfl (hm _)
  · cases hs

/-- Whatever a stage comes to, its exchange can come to. -/
theorem Sane.later (hw : w.Sane) (h : Reached step w w') :
    w'.Sane ∧ Reached Exchange.step w.exchange w'.exchange := by
  refine h.invariant (P := fun v => v.Sane ∧ Reached Exchange.step w.exchange v.exchange)
    ⟨hw, .start⟩ fun m v v' hv hs => ⟨sane_step hv.1 hs, ?_⟩
  rcases step_simulates hv.1 hs with he | ⟨m', -, he⟩
  · rw [he]
    exact hv.2
  · exact .move m' hv.2 he

theorem reached_exchange {slots : Nat} (h : Reached step (start slots) w) :
    w.Sane ∧ Exchange.Reachable Stage.typeName slots 0 w.exchange := (sane_start slots).later h

end Staging
end Handoff

import Handoff.Proofs.Clearing

/-!
# A stage that is dropped

Whoever owns a stage may drop it at any time when none of its calls is under way, started or not,
stopped or not, wherever its loop is. A drop asks for the close as one more caller does, then lets
go of the attachment, with the outbound sender if the stage was never started, then of the stage's
own handle. The loop, the senders of the inbound channel and the readers that have handles of their
own go on between these steps and after them.

The order of the steps is what counts. When the handle goes, the request is in force or the loop has
settled before, so a loop that finds no reader left has been asked to close. From then on it clears
its inbound channel.
-/
namespace Handoff

namespace Exchange

variable {w w' : Exchange} {m : Move} {l : Loop} {h : Hub}

/-- A loop that has left for want of readers found none when it had yet to settle. -/
theorem gone_cases (hs : w.loop.Step w.hub l h) (he : l.position.exit? = some .outboundGone) :
    w.loop.position.exit? = some .outboundGone ∨
      w.hub.outlet.channel.accepting = false ∧ w.loop.position.settled = false := by
  cases hs with
  | findGone hp ha | loseReaders hp ha => exact .inr ⟨ha, by rw [hp]; rfl⟩
  | begin hp | seeClose hp | seeNone hp | stop hp | pick hp | exhaust hp | giveUp hp | reserve hp
  | place hp | count hp | stopAwaiting hp | seeTaken hp | abandon hp | countAbandoned hp
  | closeInbound hp | drain hp | endDrain hp | countDrained hp | settle hp | release hp | confirm hp
  | report hp | takeLate hp | finish hp | countLate hp | answerLate hp =>
    simp_all [Loop.goto, Position.exit?]

/-- So it left under a close request, if there was one whenever that could happen. -/
theorem Step.requested_of_gone (hs : Step w m w')
    (hn : w.hub.outlet.channel.accepting = false → w.loop.position.settled = false →
      w.hub.lifecycle.closeRequested = true)
    (hi : w.loop.position.exit? = some .outboundGone → w.hub.lifecycle.closeRequested = true)
    (he : w'.loop.position.exit? = some .outboundGone) :
    w'.hub.lifecycle.closeRequested = true := by
  refine hs.closeRequested ?_
  rcases hs.placed_cases with ⟨l, h, hl, rfl⟩ | ⟨-, -, hp⟩
  · rcases gone_cases hl he with hbefore | ⟨ha, hsettled⟩
    · exact hi hbefore
    · exact hn ha hsettled
  · exact hi (hp ▸ he)

/-- Handles go one at a time. -/
theorem Step.handles_le (hs : Step w m w') :
    w.hub.outlet.handles ≤ w'.hub.outlet.handles ∨
      m = .dropHandle ∧ w'.hub.outlet.handles = w.hub.outlet.handles - 1 := by
  cases hs with
  | loop hl => exact .inl (Nat.le_of_eq hl.leaves.handles.symm)
  | dropHandle => exact .inr ⟨rfl, Hub.handles_dropOutboundHandle _⟩
  | addHandle => exact .inl (Nat.le_succ _)
  | sending | shut | take | answer | cloneSpare | dropSpare | markRunning | claimStop | publish
  | note => exact .inl (Nat.le_refl _)

end Exchange

/-- Those around a stage that has no loop neither send to a vacant channel nor clone its sender. -/
theorem Staging.vacant_step {w : Staging} {m : Exchange.Move} {e : Exchange}
    (hv : w.exchange.hub.outlet.channel.Vacant) (hp : w.permits m = true)
    (ha : w.hasLoop = false) (hs : w.exchange.step m = some e) :
    e.hub.outlet.channel.Vacant := by
  cases Exchange.step_cases hs with
  | loop => exact absurd (ha.symm.trans hp) nofun
  | take _ hq => exact absurd (hv.queue.symm.trans hq) nofun
  | dropHandle =>
    show w.exchange.hub.outlet.dropHandle.2.2.channel.Vacant
    by_cases hlast : w.exchange.hub.outlet.handles ≤ 1
    · rw [Outlet.dropHandle_last hlast]
      exact hv.detach
    · rw [Outlet.dropHandle_more (by omega)]
      exact hv
  | cloneSpare | dropSpare | markRunning => cases hp
  | sending | shut | answer | addHandle | claimStop | publish | note => exact hv

/-- A start is not under way. -/
def Attachment.atRest : Attachment → Bool
  | .detached | .attached => true
  | _ => false

theorem Attachment.spare_of_atRest {a : Attachment} (h : a.atRest = true) : a.spare = 0 := by
  cases a with
  | detached | attached => rfl
  | cloned | marked | spawned => cases h

/-- The steps of a drop, for a stage that is not being started. -/
theorem Stage.drop_of_atRest {s : Stage} (hr : s.attachment.atRest = true) : s.drop =
    { s.requestClose with
      hub := (if s.attachment.isSpawned then s.requestClose.hub
        else s.requestClose.hub.dropOutboundSender).dropOutboundHandle } := by
  cases ha : s.attachment with
  | detached | attached => simp [drop, requestClose, ha, Attachment.isSpawned]
  | cloned | marked | spawned => rw [ha] at hr; cases hr

/-- The attachment of a stage goes away, and the outbound sender that it has until it is started. -/
def Stopping.releaseSender (w : Stopping) : Stopping :=
  if w.staging.attachment.isSpawned then w
  else
    { w with
      staging :=
        { w.staging with
          exchange :=
            { w.staging.exchange with hub := w.staging.exchange.hub.dropOutboundSender } } }

namespace Stopping

variable {w w' : Stopping} {m : Move}

theorem releaseSender_frame (w : Stopping) : w.releaseSender.exchange.loop = w.exchange.loop ∧
    w.releaseSender.exchange.hub.lifecycle = w.exchange.hub.lifecycle ∧
    w.releaseSender.exchange.hub.outlet.handles = w.exchange.hub.outlet.handles ∧
    w.releaseSender.staging.attachment = w.staging.attachment ∧
    w.releaseSender.staging.hasLoop = w.staging.hasLoop := by
  unfold releaseSender
  split <;> exact ⟨rfl, rfl, rfl, rfl, rfl⟩

/-- A stage that was never started leaves its outbound channel without a sender. -/
theorem vacant_releaseSender (hw : w.Sane) (ha : w.staging.attachment.isSpawned = false)
    (hr : w.staging.attachment.atRest = true) :
    w.releaseSender.exchange.hub.outlet.channel.Vacant := by
  have ho := hw.staging.steady.outflow
  have hp : w.staging.exchange.loop.position = .wired :=
    congrArg Loop.position (hw.staging.unspawned ha)
  have hsenders := ho.senders
  have hpermits := ho.permits
  have hempty := (ho.clear (by rw [hp]; rfl)).1
  rw [hw.staging.spare, Attachment.spare_of_atRest hr, hp] at hsenders
  rw [hp] at hpermits
  have hchannel : w.releaseSender.exchange.hub.outlet.channel =
      w.staging.exchange.hub.outlet.channel.leave := by
    rw [releaseSender, ha]
    exact (Channel.sweep_of_queue_nil (c := w.staging.exchange.hub.outlet.channel.leave) hempty).1
  rw [hchannel]
  refine ⟨hempty, Channel.deserted_iff.mpr ⟨?_, hpermits, ho.line⟩⟩
  rw [Channel.leave, hsenders]
  rfl

end Stopping

/-- How far the drop of a stage has come. -/
inductive DropPhase
  /-- somebody owns the stage -/
  | held
  /-- asks for the close, as this caller -/
  | asking (caller : Nat)
  /-- the attachment is gone, the stage's own handle is not -/
  | released
  | gone
deriving DecidableEq, Repr

/-- The close has been asked for. -/
def DropPhase.asked : DropPhase → Bool
  | .released | .gone => true
  | _ => false

theorem DropPhase.ne_held {p : DropPhase} (h : p.asked = true) : p ≠ .held := by
  rintro rfl
  cases h

/-- Handles that the stage itself has. -/
def DropPhase.own : DropPhase → Nat
  | .gone => 0
  | _ => 1

theorem DropPhase.own_of_not_asked {p : DropPhase} (h : p.asked = false) : p.own = 1 := by
  cases p with
  | held | asking => rfl
  | released | gone => cases h

/-- A stage with its calls and everyone around, and its owner. -/
structure Dropping where
  stopping : Stopping
  phase : DropPhase := .held

namespace Dropping

inductive Move
  /-- the owner begins to drop the stage, which makes it one more caller that stops it -/
  | drop (caller : Nat)
  | publish
  | releaseSender
  | releaseHandle
  /-- anything else that can happen -/
  | other (m : Stopping.Move)
deriving Repr

/-- A stage to be started with an inbound channel of so many slots. -/
def start (slots : Nat) : Dropping := { stopping := .start slots }

def exchange (w : Dropping) : Exchange := w.stopping.exchange

def attachment (w : Dropping) : Attachment := w.stopping.staging.attachment

def outlet (w : Dropping) : Outlet := w.exchange.hub.outlet

/-- What others may do. Nobody reads with the stage's own handle or lets go of it, only the owner
calls the stage or hands out handles in its name, and the senders, the readers and the loop need
nothing of it. -/
def permits (w : Dropping) : Stopping.Move → Bool
  | .other (.other .take) | .other (.other .dropHandle) => w.phase.own < w.outlet.handles
  | .other (.other .addHandle) => w.phase = .held || w.phase.own < w.outlet.handles
  | .other (.other _) => true
  | _ => w.phase = .held

/-- One step. A drop begins when no call is under way. -/
def step (m : Move) (w : Dropping) : Option Dropping :=
  match m, w.phase with
  | .drop i, .held =>
    if w.attachment.atRest && !w.stopping.lifecycle.claimed then
      (w.stopping.step (.claim i)).map fun s => { stopping := s, phase := .asking i }
    else none
  | .publish, .asking i => (w.stopping.step (.publish i)).map fun s => { w with stopping := s }
  | .releaseSender, .asking i =>
    if w.stopping.calls i = .publishing then none
    else some { stopping := w.stopping.releaseSender, phase := .released }
  | .releaseHandle, .released =>
    (w.stopping.step (.other (.other .dropHandle))).map fun s => { stopping := s, phase := .gone }
  | .other m, _ =>
    if w.permits m then (w.stopping.step m).map fun s => { w with stopping := s } else none
  | _, _ => none

/-- The steps with their conditions. -/
inductive Step (w : Dropping) : Move → Dropping → Prop
  | drop {i s} : w.phase = .held → w.attachment.atRest = true →
      w.stopping.lifecycle.claimed = false → w.stopping.step (.claim i) = some s →
      Step w (.drop i) ⟨s, .asking i⟩
  | publish {i s} : w.phase = .asking i → w.stopping.step (.publish i) = some s →
      Step w .publish ⟨s, .asking i⟩
  | releaseSender {i} : w.phase = .asking i → w.stopping.calls i ≠ .publishing →
      Step w .releaseSender ⟨w.stopping.releaseSender, .released⟩
  | releaseHandle {s} : w.phase = .released →
      w.stopping.step (.other (.other .dropHandle)) = some s → Step w .releaseHandle ⟨s, .gone⟩
  | other {m s} : w.permits m = true → w.stopping.step m = some s →
      Step w (.other m) ⟨s, w.phase⟩

variable {w w' : Dropping} {m : Move} {slots : Nat}

/-- The function makes no other steps. -/
theorem step_cases (hs : step m w = some w') : Step w m w' := by
  unfold step at hs
  split at hs
  · rename_i hp
    simp only [Option.ite_none_right_eq_some, Option.map_eq_some_iff, Bool.and_eq_true,
      Bool.not_eq_true'] at hs
    obtain ⟨⟨hr, hc⟩, s, hs, rfl⟩ := hs
    exact .drop hp hr hc hs
  · rename_i hp
    simp only [Option.map_eq_some_iff] at hs
    obtain ⟨s, hs, rfl⟩ := hs
    exact hp ▸ .publish hp hs
  · rename_i hp
    simp only [Option.ite_none_left_eq_some, Option.some.injEq] at hs
    obtain ⟨hc, rfl⟩ := hs
    exact .releaseSender hp hc
  · rename_i hp
    simp only [Option.map_eq_some_iff] at hs
    obtain ⟨s, hs, rfl⟩ := hs
    exact .releaseHandle hp hs
  · simp only [Option.ite_none_right_eq_some, Option.map_eq_some_iff] at hs
    obtain ⟨hp, s, hs, rfl⟩ := hs
    exact .other hp hs
  · cases hs

/-- The stage was never started, and its outbound sender is gone. -/
def emptied (w : Dropping) : Bool := w.phase.asked && !w.attachment.isSpawned

/-- What ties a stage to its owner. -/
structure Sane (slots : Nat) (w : Dropping) : Prop where
  handles : w.phase.own ≤ w.outlet.handles
  rest : w.phase ≠ .held → w.attachment.atRest = true
  /-- Nobody else stops the stage while it is dropped. -/
  alone : ∀ i, w.phase = .asking i → w.stopping.calls i ≠ .idle ∧
    ∀ j, w.stopping.calls j = .publishing → j = i
  asked : w.phase.asked = true → w.exchange.hub.lifecycle.closeRequested = true ∨
    w.exchange.loop.position.settled = true
  gone : w.exchange.loop.position.exit? = some .outboundGone →
    w.exchange.hub.lifecycle.closeRequested = true
  live : w.emptied = false → Reached Stopping.step (.start slots) w.stopping
  vacant : w.emptied = true → w.outlet.channel.Vacant
  hasLoop : w.stopping.staging.hasLoop = w.attachment.isSpawned

namespace Sane

theorem start (slots : Nat) : (Dropping.start slots).Sane slots where
  handles := Nat.le_refl 1
  rest := absurd rfl
  alone := nofun
  asked := nofun
  gone := nofun
  live _ := .start
  vacant := nofun
  hasLoop := rfl

theorem live_of_not_asked (hw : w.Sane slots) (hp : w.phase.asked = false) :
    Reached Stopping.step (.start slots) w.stopping := hw.live (by rw [emptied, hp]; rfl)

theorem stopping (hw : w.Sane slots) (hp : w.phase.asked = false) : w.stopping.Sane :=
  Stopping.sane_of_reached (hw.live_of_not_asked hp)

/-- When readers can be gone, the close has been asked for. -/
theorem requested (hw : w.Sane slots) (ha : w.outlet.channel.accepting = false)
    (hs : w.exchange.loop.position.settled = false) :
    w.exchange.hub.lifecycle.closeRequested = true := by
  cases hp : w.phase.asked with
  | true => exact (hw.asked hp).resolve_right fun hd => absurd (hs.symm.trans hd) nofun
  | false =>
    -- the stage has its own handle until then
    have hown := DropPhase.own_of_not_asked hp
    have hhandles := hw.handles
    have haccepting : w.outlet.channel.accepting = _ :=
      (hw.stopping hp).staging.steady.outflow.accepting
    rw [ha] at haccepting
    have hzero : ¬ 0 < w.outlet.handles := of_decide_eq_false haccepting.symm
    omega

/-- A call, or a step of a start, before the close is asked for. -/
theorem call {m : Stopping.Move} {s : Stopping} {phase : DropPhase} (hw : w.Sane slots)
    (hp : w.phase.asked = false) (hphase : phase.asked = false)
    (hs : w.stopping.step m = some s) (hm : ∀ x, m ≠ .other (.other x))
    (hrest : phase ≠ .held → s.staging.attachment.atRest = true)
    (halone : ∀ i, phase = .asking i → s.calls i ≠ .idle ∧
      ∀ j, s.calls j = .publishing → j = i) : Sane slots ⟨s, phase⟩ := by
  obtain ⟨hposition, hsame, hrequested⟩ := Stopping.call_frame (hw.stopping hp) hs hm
  have hhandles := hw.handles
  rw [DropPhase.own_of_not_asked hp, ← DropPhase.own_of_not_asked hphase] at hhandles
  have hnot : Dropping.emptied ⟨s, phase⟩ = false := by rw [emptied, hphase]; rfl
  have hlive := (hw.live_of_not_asked hp).trans (.single _ hs)
  exact ⟨Nat.le_trans hhandles (Nat.le_of_eq hsame.symm), hrest, halone,
    fun ha => absurd (hphase.symm.trans ha) nofun,
    fun hexit => hrequested (hw.gone (hposition ▸ hexit)),
    fun _ => hlive, fun he => absurd (hnot.symm.trans he) nofun,
    (Stopping.sane_of_reached hlive).staging.hasLoop⟩

theorem drop {i : Nat} {s : Stopping} (hw : w.Sane slots) (hp : w.phase = .held)
    (hr : w.attachment.atRest = true) (hc : w.stopping.lifecycle.claimed = false)
    (hs : w.stopping.step (.claim i) = some s) : Sane slots ⟨s, .asking i⟩ := by
  have hasked : w.phase.asked = false := by rw [hp]; rfl
  have hnone : ∀ j, w.stopping.calls j ≠ .publishing := by
    intro j hj
    have hclaimed := (hw.stopping hasked).agrees.claimed.mpr ⟨j, hj⟩
    exact absurd (hc.symm.trans hclaimed) nofun
  obtain ⟨-, hcalls, hattachment⟩ := Stopping.step_claim_cases hs
  refine hw.call hasked rfl hs nofun (fun _ => hattachment ▸ hr) ?_
  rintro _ ⟨⟩
  rw [hcalls]
  refine ⟨?_, fun j hj => ?_⟩
  · rw [StopCall.put, if_pos rfl]
    exact w.stopping.lifecycle.afterClaim_ne_idle
  · by_cases hji : j = i
    · exact hji
    · exact absurd ((if_neg hji).symm.trans hj) (hnone j)

theorem publish {i : Nat} {s : Stopping} (hw : w.Sane slots) (hp : w.phase = .asking i)
    (hs : w.stopping.step (.publish i) = some s) : Sane slots ⟨s, .asking i⟩ := by
  have hrest := hw.rest (by rw [hp]; nofun)
  obtain ⟨-, honly⟩ := hw.alone i hp
  obtain ⟨-, hcalls, hattachment⟩ := Stopping.step_publish_cases hs
  refine hw.call (by rw [hp]; rfl) rfl hs nofun (fun _ => hattachment ▸ hrest) ?_
  rintro _ ⟨⟩
  rw [hcalls]
  exact ⟨by simp [StopCall.put], fun j hj => honly j (StopCall.of_put hj nofun).2⟩

/-- A drop goes on when the close is requested, unless the loop has settled by itself. -/
theorem asked_of_returned {i : Nat} (hw : w.Sane slots) (hp : w.phase = .asking i)
    (hc : w.stopping.calls i ≠ .publishing) :
    w.exchange.hub.lifecycle.closeRequested = true ∨
      w.exchange.loop.position.settled = true := by
  have hasked : w.phase.asked = false := by rw [hp]; rfl
  obtain ⟨hidle, honly⟩ := hw.alone i hp
  have ha := (hw.stopping hasked).agrees
  cases hi : w.stopping.calls i with
  | idle => exact absurd hi hidle
  | publishing => exact absurd hi hc
  | returned won =>
    cases won with
    | true => exact .inl (ha.won i hi)
    | false =>
      have hreached := Stopping.reached_staging (hw.live_of_not_asked hasked)
      have hreachable := (Staging.reached_exchange hreached).2
      refine (hreachable.stopped_cases (ha.lost i hi)).resolve_left fun hclaimed => ?_
      -- a claim without a publication would be the one of this caller, which has returned
      obtain ⟨j, hj⟩ := ha.claimed.mp hclaimed
      exact hc (honly j hj ▸ hj)

theorem releaseSender {i : Nat} (hw : w.Sane slots) (hp : w.phase = .asking i)
    (hc : w.stopping.calls i ≠ .publishing) :
    Sane slots ⟨w.stopping.releaseSender, .released⟩ := by
  have hasked : w.phase.asked = false := by rw [hp]; rfl
  have hhandles := hw.handles
  rw [hp] at hhandles
  have hrest := hw.rest (by rw [hp]; nofun)
  have hrequested := hw.asked_of_returned hp hc
  have hsane := hw.stopping hasked
  obtain ⟨hloop, hlifecycle, hsame, hattachment, hhas⟩ := w.stopping.releaseSender_frame
  have hemptied : Dropping.emptied ⟨w.stopping.releaseSender, .released⟩ =
      !w.attachment.isSpawned := by
    simp only [emptied, attachment, hattachment]
    rfl
  refine ⟨?_, fun _ => ?_, nofun, fun _ => ?_, fun hexit => ?_, fun he => ?_, fun he => ?_, ?_⟩
  · exact Nat.le_trans hhandles (Nat.le_of_eq hsame.symm)
  · exact (congrArg Attachment.atRest hattachment).trans hrest
  · rw [exchange, hloop, hlifecycle]
    exact hrequested
  · rw [exchange, hloop] at hexit
    rw [exchange, hlifecycle]
    exact hw.gone hexit
  · rw [hemptied, Bool.not_eq_false'] at he
    have hkept : w.stopping.releaseSender = w.stopping := if_pos he
    rw [hkept]
    exact hw.live_of_not_asked hasked
  · rw [hemptied, Bool.not_eq_true'] at he
    exact Stopping.vacant_releaseSender hsane he hrest
  · exact hhas.trans (hw.hasLoop.trans (congrArg Attachment.isSpawned hattachment).symm)

/-- A move of those around the stage, or the last step of a drop. -/
theorem move {m : Exchange.Move} {s : Stopping} {phase : DropPhase} (hw : w.Sane slots)
    (hs : w.stopping.step (.other (.other m)) = some s)
    (hphase : phase.asked = w.phase.asked)
    (halone : ∀ i, phase = .asking i → w.phase = .asking i)
    (hrest : phase ≠ .held → w.attachment.atRest = true)
    (hown : phase.own ≤ s.exchange.hub.outlet.handles) : Sane slots ⟨s, phase⟩ := by
  have hlive := hw.live
  have hvacant := hw.vacant
  obtain ⟨hp, e, he, rfl⟩ := Stopping.step_other_cases hs
  have hmove := Exchange.step_cases he
  have hemptied : Dropping.emptied ⟨{ w.stopping with
      staging := { w.stopping.staging with exchange := e } }, phase⟩ = w.emptied := by
    rw [emptied, hphase]
    rfl
  refine ⟨hown, hrest, fun i hi => hw.alone i (halone i hi), fun ha => ?_, ?_,
    fun hn => ?_, fun hn => ?_, hw.hasLoop⟩
  · rw [hphase] at ha
    exact (hw.asked ha).imp hmove.closeRequested hmove.settled
  · exact hmove.requested_of_gone hw.requested hw.gone
  · exact (hlive (hemptied.symm.trans hn)).trans (.single _ hs)
  · rw [hemptied] at hn
    refine Staging.vacant_step (hvacant hn) hp ?_ he
    rw [emptied, Bool.and_eq_true, Bool.not_eq_true'] at hn
    exact hw.hasLoop.trans hn.2

theorem step (hw : w.Sane slots) (hs : Dropping.step m w = some w') : w'.Sane slots := by
  cases step_cases hs with
  | drop hp hr hc ht => exact hw.drop hp hr hc ht
  | publish hp ht => exact hw.publish hp ht
  | releaseSender hp hc => exact hw.releaseSender hp hc
  | releaseHandle hp ht =>
    exact hw.move ht (by rw [hp]; rfl) nofun (fun _ => hw.rest (by rw [hp]; nofun))
      (Nat.zero_le _)
  | @other m s hpermits ht =>
    by_cases hm : ∃ x, m = .other (.other x)
    · obtain ⟨x, rfl⟩ := hm
      refine hw.move ht rfl (fun _ => id) hw.rest ?_
      have hhandles := hw.handles
      obtain ⟨-, e, he, rfl⟩ := Stopping.step_other_cases ht
      rcases (Exchange.step_cases he).handles_le with hle | ⟨rfl, hle⟩
      · exact Nat.le_trans hhandles hle
      · -- others let go of handles of their own
        have hmore : w.phase.own < w.outlet.handles := of_decide_eq_true hpermits
        have hleft : w.phase.own ≤ w.outlet.handles - 1 := by omega
        exact Nat.le_trans hleft (Nat.le_of_eq hle.symm)
    · have hheld : w.phase = .held := by
        cases m with
        | claim | publish => exact of_decide_eq_true hpermits
        | other x =>
          cases x with
          | other y => exact absurd ⟨y, rfl⟩ hm
          | cloneSender | markRunning | spawnLoop | attach => exact of_decide_eq_true hpermits
      rw [hheld]
      exact hw.call (by rw [hheld]; rfl) rfl ht (fun x hx => hm ⟨x, hx⟩) (absurd rfl) nofun

end Sane

theorem sane_of_reached (h : Reached step (start slots) w) : w.Sane slots :=
  h.invariant (.start slots) fun _ _ _ hw hs => hw.step hs

end Dropping
end Handoff

import Handoff.Forwarding
import Handoff.Proofs.Channel
import Handoff.Proofs.Replies

/-!
# What one step of the loop does

`Loop.Step` lists the transitions of the loop, each with the condition under which it is taken and
all that it changes. `Loop.step_cases` says that the loop makes no other step, so that later proofs
go by cases over the transitions and never open the step function.

Beside it stand the readings of a position that the proofs need: what the loop has in hand, whether
it still forwards, whether it means to go on, whether inbound is open, whether the loop still has
its outbound sender, and for which exit it has left.
-/
namespace Handoff

namespace Position

/-- The transaction that the loop has taken and neither placed nor answered. -/
def hand : Position → List Transaction
  | .holding t | .placing t | .abandoning t _ | .countingLate t _ | .answeringLate t _ => [t]
  | _ => []

/-- The loop has given up no transaction yet. -/
def forwards : Position → Bool
  | .wired | .checking | .receiving | .holding _ | .placing _ | .counting | .awaitingTake
  | .abandoning .. => true
  | _ => false

/-- The loop has not decided to leave. -/
def stays : Position → Bool
  | .wired | .checking | .receiving | .holding _ | .placing _ | .counting | .awaitingTake => true
  | _ => false

/-- Every transaction placed so far is known to be taken. -/
def isClear : Position → Bool
  | .wired | .checking | .receiving | .holding _ | .placing _ | .abandoning .. => true
  | _ => false

/-- The loop has a slot set aside for what it holds. -/
def reserves : Position → Bool
  | .placing _ => true
  | _ => false

/-- The loop has not closed inbound. -/
def accepts : Position → Bool
  | .wired | .checking | .receiving | .holding _ | .placing _ | .counting | .awaitingTake
  | .abandoning .. | .countingAbandoned _ | .closingInbound _ => true
  | _ => false

/-- The loop has its outbound sender. -/
def sends : Position → Bool
  | .confirming .. | .reporting .. | .late _ | .countingLate .. | .answeringLate ..
  | .finished => false
  | _ => true

/-- The exit for which the loop has left, up to its report. -/
def exit? : Position → Option Exit
  | .abandoning _ e | .countingAbandoned e | .closingInbound e | .draining e _
  | .countingDrained e _ | .settling e _ | .releasing e _ | .confirming e _ | .reporting e _ =>
    some e
  | _ => none

def isFinished : Position → Bool
  | .finished => true
  | _ => false

/-- The loop keeps its outbound sender for as long as it means to go on. -/
theorem stays_of_sends {p : Position} (h : p.sends = false) : p.stays = false := by
  cases p <;> first | rfl | cases h

end Position

namespace Loop

/-- What the next step places in the outbound channel. -/
def places (l : Loop) : List Transaction :=
  match l.position with
  | .placing t => [t]
  | _ => []

/-- What the next step answers. -/
def answers (l : Loop) : List Transaction :=
  match l.position with
  | .abandoning t _ | .answeringLate t _ => [t]
  | .draining .. => l.inbound.queue.take 1
  | _ => []

/-- What nobody can read any more after the next step. -/
def strands (l : Loop) (h : Hub) : List Transaction :=
  match l.position with
  | .releasing .. => h.outlet.channel.leave.orphans
  | _ => []

/-- The transitions of the loop. -/
inductive Step (l : Loop) (h : Hub) : Loop → Hub → Prop
  | begin : l.position = .wired → Step l h (l.goto .checking) (h.note (.loopStarted l.label))
  | seeClose : l.position = .checking → h.lifecycle.closeRequested = true →
      Step l h (l.goto (.closingInbound .closeRequested)) h
  | seeNone : l.position = .checking → h.lifecycle.closeRequested = false →
      Step l h (l.goto .receiving) h
  | stop : l.position = .receiving → h.lifecycle.closeRequested = true →
      Step l h (l.goto (.closingInbound .closeRequested)) h
  | pick {t c rest} : l.position = .receiving → l.inbound.queue = t :: rest →
      c = { l.inbound with queue := rest }.grant →
      Step l h { l with inbound := c, position := .holding t } h
  | exhaust : l.position = .receiving → l.inbound.ended = true →
      Step l h (l.goto (.closingInbound .inboundClosed)) h
  | giveUp {t} : l.position = .holding t → h.lifecycle.closeRequested = true →
      Step l h (l.goto (.abandoning t .closeRequested)) h
  | reserve {t} : l.position = .holding t → h.outlet.channel.accepting = true →
      0 < h.outlet.channel.free → Step l h (l.goto (.placing t))
        (h.setOutbound { h.outlet.channel with permits := h.outlet.channel.permits + 1 })
  | findGone {t} : l.position = .holding t → h.outlet.channel.accepting = false →
      Step l h (l.goto (.abandoning t .outboundGone)) h
  | place {t} : l.position = .placing t →
      Step l h (l.goto .counting) (h.setOutbound (h.outlet.channel.spend t))
  | count : l.position = .counting → Step l h (l.goto .awaitingTake)
      ({ h with forwarded := h.forwarded + 1 }.note (.handedOff l.label))
  | stopAwaiting : l.position = .awaitingTake → h.lifecycle.closeRequested = true →
      Step l h (l.goto (.closingInbound .closeRequested)) h
  | seeTaken : l.position = .awaitingTake → h.outlet.channel.accepting = true →
      0 < h.outlet.channel.free → Step l h (l.goto .checking) h
  | loseReaders : l.position = .awaitingTake → h.outlet.channel.accepting = false →
      Step l h (l.goto (.closingInbound .outboundGone)) h
  | abandon {t e} : l.position = .abandoning t e →
      Step l h (l.goto (.countingAbandoned e)) (h.answer t .stageClosed)
  | countAbandoned {e} : l.position = .countingAbandoned e →
      Step l h (l.goto (.closingInbound e)) { h with abandoned := h.abandoned + 1 }
  | closeInbound {e} : l.position = .closingInbound e →
      Step l h { l with inbound := l.inbound.close.2, position := .draining e 0 }
        (h.release l.inbound.line)
  | drain {e n t c rest} : l.position = .draining e n → l.inbound.queue = t :: rest →
      c = { l.inbound with queue := rest }.grant →
      Step l h { l with inbound := c, position := .draining e (n + 1) } (h.answer t .stageClosed)
  | endDrain {e n} : l.position = .draining e n → l.inbound.queue = [] →
      Step l h (l.goto (.countingDrained e n)) h
  | countDrained {e n} : l.position = .countingDrained e n →
      Step l h (l.goto (.settling e n)) { h with abandoned := h.abandoned + n }
  | settle {e n} : l.position = .settling e n →
      Step l h (l.goto (.releasing e n)) { h with lifecycle := h.lifecycle.settle }
  | release {e n} : l.position = .releasing e n →
      Step l h (l.goto (.confirming e n)) h.dropOutboundSender
  | confirm {e n} : l.position = .confirming e n →
      Step l h (l.goto (.reporting e n)) { h with lifecycle := h.lifecycle.confirm.2 }
  | report {e n} : l.position = .reporting e n →
      Step l h (l.goto (.late 0)) (h.note (.loopClosed l.label e n))
  | takeLate {n t c rest} : l.position = .late n → l.inbound.queue = t :: rest →
      c = { l.inbound with queue := rest }.grant →
      Step l h { l with inbound := c, position := .countingLate t n } h
  | finish {n} : l.position = .late n → l.inbound.ended = true →
      Step l h { l with inbound := l.inbound.detach.2.2, position := .finished }
        ((if 0 < n then h.note (.lateAnswered l.label n) else h).release
          (l.inbound.line ++ l.inbound.queue))
  | countLate {t n} : l.position = .countingLate t n →
      Step l h (l.goto (.answeringLate t n)) { h with abandoned := h.abandoned + 1 }
  | answerLate {t n} : l.position = .answeringLate t n →
      Step l h (l.goto (.late (n + 1))) (h.answer t .stageClosed)

variable {l l' : Loop} {h h' : Hub} {b : Branch}

private theorem onClose_cases {p : Position} (hs : l.onClose h p = some (l', h')) :
    h.lifecycle.closeRequested = true ∧ l' = l.goto p ∧ h' = h := by
  unfold onClose at hs
  split at hs
  · cases hs
    exact ⟨‹_›, rfl, rfl⟩
  · cases hs

/-- Every step of the loop is one of its transitions. -/
theorem step_cases (hs : l.step b h = some (l', h')) : Step l h l' h' := by
  unfold step at hs
  cases hp : l.position <;> simp only [hp] at hs
  case wired => cases hs; exact .begin hp
  case checking =>
    split at hs
    · cases hs; exact .seeClose hp ‹_›
    · rename_i hc
      cases hs
      exact .seeNone hp (by simpa using hc)
  case receiving =>
    split at hs
    · obtain ⟨hc, rfl, rfl⟩ := onClose_cases hs
      exact .stop hp hc
    · split at hs
      · cases hs
        obtain ⟨rest, hq, hc⟩ := Channel.take?_eq_some ‹_›
        exact .pick hp hq hc
      · split at hs
        · cases hs; exact .exhaust hp ‹_›
        · cases hs
  case holding =>
    split at hs
    · obtain ⟨hc, rfl, rfl⟩ := onClose_cases hs
      exact .giveUp hp hc
    · split at hs
      · rename_i c hr
        cases hs
        obtain ⟨ha, hf, rfl⟩ := Channel.reserve_eq_accepted hr
        exact .reserve hp ha hf
      · cases hs; exact .findGone hp (Channel.reserve_eq_closed ‹_›)
      · cases hs
  case placing => cases hs; exact .place hp
  case counting => cases hs; exact .count hp
  case awaitingTake =>
    split at hs
    · obtain ⟨hc, rfl, rfl⟩ := onClose_cases hs
      exact .stopAwaiting hp hc
    · split at hs
      · rename_i hr
        cases hs
        obtain ⟨ha, hf, -⟩ := Channel.reserve_eq_accepted hr
        exact .seeTaken hp ha hf
      · cases hs; exact .loseReaders hp (Channel.reserve_eq_closed ‹_›)
      · cases hs
  case abandoning => cases hs; exact .abandon hp
  case countingAbandoned => cases hs; exact .countAbandoned hp
  case closingInbound => cases hs; exact .closeInbound hp
  case draining =>
    split at hs
    · cases hs
      obtain ⟨rest, hq, hc⟩ := Channel.take?_eq_some ‹_›
      exact .drain hp hq hc
    · cases hs; exact .endDrain hp (Channel.take?_eq_none ‹_›)
  case countingDrained => cases hs; exact .countDrained hp
  case settling => cases hs; exact .settle hp
  case releasing => cases hs; exact .release hp
  case confirming => cases hs; exact .confirm hp
  case reporting => cases hs; exact .report hp
  case late =>
    split at hs
    · cases hs
      obtain ⟨rest, hq, hc⟩ := Channel.take?_eq_some ‹_›
      exact .takeLate hp hq hc
    · split at hs
      · cases hs; exact .finish hp ‹_›
      · cases hs
  case countingLate => cases hs; exact .countLate hp
  case answeringLate => cases hs; exact .answerLate hp
  case finished => cases hs

/-- What the position of the loop says about its inbound channel. -/
structure Inflow (l : Loop) : Prop where
  guarded : l.inbound.Guarded
  receiver : l.inbound.receiver = !l.position.isFinished
  closed : l.position.accepts = false → l.inbound.accepting = false

/-- Taking from the queue, closing and leaving keep the channel guarded. All other steps leave it
alone, and none of them crosses the place where inbound is closed or the loop ends. -/
theorem Inflow.step (hi : l.Inflow) (hs : Step l h l' h') : l'.Inflow := by
  have hr := hi.receiver
  have hc := hi.closed
  cases hs with
  | pick hp hq hi' | drain hp hq hi' | takeLate hp hq hi' =>
    subst hi'
    rw [hp] at hr hc
    exact ⟨hi.guarded.take hr hq, hr, hc⟩
  | closeInbound hp =>
    rw [hp] at hr
    exact ⟨hi.guarded.close hr, hr, fun _ => rfl⟩
  | finish hp he => exact ⟨hi.guarded.detach he, rfl, fun _ => rfl⟩
  | begin hp | seeClose hp | seeNone hp | stop hp | exhaust hp | giveUp hp | reserve hp
  | findGone hp | place hp | count hp | stopAwaiting hp | seeTaken hp | loseReaders hp | abandon hp
  | countAbandoned hp | endDrain hp | countDrained hp | settle hp | release hp | confirm hp
  | report hp | countLate hp | answerLate hp =>
    rw [hp] at hr hc
    exact ⟨hi.guarded, hr, hc⟩

/-- What a step of the loop leaves to the other parties: handles, permits, the close request, and
outcomes that are known. It adds nothing to its inbound channel and does not open it again. -/
structure Leaves (l : Loop) (h : Hub) (l' : Loop) (h' : Hub) : Prop where
  senders : l'.inbound.senders = l.inbound.senders
  permits : l'.inbound.permits = l.inbound.permits
  queue : l'.inbound.queue.length ≤ l.inbound.queue.length
  closed : l.inbound.accepting = false → l'.inbound.accepting = false
  handles : h'.outlet.handles = h.outlet.handles
  closeRequested : h'.lifecycle.closeRequested = h.lifecycle.closeRequested
  replies : h.replies.Keeps h'.replies

namespace Step

theorem leaves (hs : Step l h l' h') : l.Leaves h l' h' := by
  cases hs with
  | begin | seeClose | seeNone | stop | exhaust | giveUp | reserve | findGone | place | count
  | stopAwaiting | seeTaken | loseReaders | countAbandoned | endDrain | countDrained | settle
  | confirm | report | countLate =>
    exact ⟨rfl, rfl, Nat.le_refl _, id, rfl, rfl, .refl _⟩
  | pick hp hq hc | takeLate hp hq hc =>
    subst hc
    exact ⟨rfl, rfl, by rw [hq]; exact Nat.le_succ _, id, rfl, rfl, .refl _⟩
  | drain hp hq hc =>
    subst hc
    exact ⟨rfl, rfl, by rw [hq]; exact Nat.le_succ _, id, rfl, rfl, .answer ..⟩
  | abandon | answerLate => exact ⟨rfl, rfl, Nat.le_refl _, id, rfl, rfl, .answer ..⟩
  | closeInbound => exact ⟨rfl, rfl, Nat.le_refl _, fun _ => rfl, rfl, rfl, .releaseAll ..⟩
  | release => exact ⟨rfl, rfl, Nat.le_refl _, id, rfl, rfl, .releaseAll ..⟩
  | @finish n hp he =>
    refine ⟨rfl, rfl, Nat.zero_le _, fun _ => rfl, ?_, ?_, ?_⟩
    · show (Hub.outlet (if 0 < n then _ else _)).handles = _
      split <;> rfl
    · show (Hub.lifecycle (if 0 < n then _ else _)).closeRequested = _
      split <;> rfl
    · refine .trans ?_ (.releaseAll ..)
      split <;> exact .refl _

/-- The line of waiting senders stays as it is, or all of them are turned away for good. -/
theorem line_cases (hg : l.inbound.Guarded) (hs : Step l h l' h') :
    l'.inbound.line = l.inbound.line ∨ (l'.inbound.line = [] ∧ l'.inbound.accepting = false ∧
      h'.replies = h.replies.releaseAll l.inbound.line) := by
  cases hs with
  | closeInbound hp => exact .inr ⟨rfl, rfl, rfl⟩
  | finish hp he => exact .inl (hg.ended_iff.mp he).2.1.symm
  | pick hp hq hc | takeLate hp hq hc | drain hp hq hc =>
    subst hc
    exact .inl (Channel.line_taken ..)
  | begin | seeClose | seeNone | stop | exhaust | giveUp | reserve | findGone | place | count
  | stopAwaiting | seeTaken | loseReaders | countAbandoned | endDrain | countDrained | settle
  | confirm | report | countLate | abandon | answerLate | release => exact .inl rfl

/-- A loop that has not closed inbound leaves it open. -/
theorem accepts (hs : Step l h l' h') (hp : l'.position.accepts = true) :
    l.position.accepts = true ∧ l'.inbound.accepting = l.inbound.accepting := by
  cases hs with
  | closeInbound | drain | endDrain | countDrained | settle | release | confirm | report | takeLate
  | finish | countLate | answerLate => cases hp
  | pick hq _ hc =>
    subst hc
    exact ⟨by rw [hq]; rfl, rfl⟩
  | begin hq | seeClose hq | seeNone hq | stop hq | exhaust hq | giveUp hq | reserve hq
  | findGone hq | place hq | count hq | stopAwaiting hq | seeTaken hq | loseReaders hq | abandon hq
  | countAbandoned hq => exact ⟨by rw [hq]; rfl, rfl⟩

/-- A loop decides to leave for the close request, for the loss of its readers, or because its input
has ended. -/
theorem stays_cases (hs : Step l h l' h') (hp : l'.position.stays = false) :
    l.position.stays = false ∨ h.lifecycle.closeRequested = true ∨
      h.outlet.channel.accepting = false ∨
        (l.position = .receiving ∧ l.inbound.ended = true ∧
          l' = l.goto (.closingInbound .inboundClosed) ∧ h' = h) := by
  cases hs with
  | begin | seeNone | pick | reserve | place | count | seeTaken => cases hp
  | seeClose _ hc | stop _ hc | giveUp _ hc | stopAwaiting _ hc => exact .inr (.inl hc)
  | findGone _ ha | loseReaders _ ha => exact .inr (.inr (.inl ha))
  | exhaust hq he => exact .inr (.inr (.inr ⟨hq, he, rfl, rfl⟩))
  | abandon hq | countAbandoned hq | closeInbound hq | drain hq | endDrain hq | countDrained hq
  | settle hq | release hq | confirm hq | report hq | takeLate hq | finish hq | countLate hq
  | answerLate hq => exact .inl (by rw [hq]; rfl)

end Step
end Loop
end Handoff

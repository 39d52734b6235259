import Handoff.Pipeline.Run
import Handoff.Proofs.Forwarding
import Handoff.Proofs.Outlet

/-!
# What one move of a run does

`Run.Step` lists the transitions of a run by party: those of the producer, those of the consumer and
the few that are left. `Run.step_cases` says that a run makes no other move.
-/
namespace Handoff.Pipeline.Run

variable {r r' : Run}

/-- The transitions of the producer. -/
inductive Produces (r : Run) : Run → Prop
  | read {text feed} : r.producer = .reading → r.feed.next = .line text feed → Produces r { r with
      feed
      hub := (r.hub.issue (.ofBytes text)).2
      producer := .offering (r.hub.issue (.ofBytes text)).1 }
  | endInput : r.producer = .reading → r.feed.next = .finished → Produces r r.finishProducer
  | failInput {text} : r.producer = .reading → r.feed.next = .failed text →
      Produces r (r.note (.readFailed text)).finishProducer
  | reserve {t c} : r.producer = .offering t → r.inbound.request t = (.accepted, c) →
      Produces r { r.setInbound c with producer := .sending t }
  | lineUp {t c} : r.producer = .offering t → r.inbound.request t = (.waits, c) →
      Produces r { r.setInbound c with producer := .waiting t }
  | refuse {t} : r.producer = .offering t → r.inbound.accepting = false →
      Produces r (r.turnedAway t)
  | claim {t u c} : r.producer = .waiting t → r.inbound.claim? = some (u, c) →
      Produces r { r.setInbound c with producer := .sending t }
  | turnAway {t} : r.producer = .waiting t → r.inbound.awaits (· = t) = false →
      Produces r (r.turnedAway t)
  | push {t} : r.producer = .sending t → Produces r (r.push t)
  | cancel : r.producer = .reading → r.cancelRequested = true → Produces r r.endProducer
  | cancelOffer {t} : r.producer = .offering t → r.cancelRequested = true →
      Produces r { r with hub := r.hub.release [t] }.endProducer
  | cancelWait {t} : r.producer = .waiting t → r.cancelRequested = true → Produces r
      { r.setInbound (r.inbound.withdraw (· = t)) with hub := r.hub.release [t] }.endProducer
  | cancelSend {t} : r.producer = .sending t → r.cancelRequested = true →
      Produces r (r.push t).endProducer

/-- The transitions of the consumer. -/
inductive Consumes (r : Run) : Run → Prop
  | take {t outlet} : r.consumer = .selecting → r.hub.outlet.read = (.message t, outlet) →
      Consumes r { r with hub := { r.hub with outlet }, consumer := .writing t }
  | findEnd : r.consumer = .selecting → r.hub.outlet.read.1 = .ended →
      Consumes r { r with consumer := .flushing }
  | write {t writer} : r.consumer = .writing t →
      r.writer.writeMessage t.payload = (.ok (), writer) → Consumes r { r with
        writer
        hub := r.hub.answer t .delivered
        summary := { r.summary with delivered := r.summary.delivered + 1 }
        consumer := .selecting }
  | failWrite {t text writer} : r.consumer = .writing t →
      r.writer.writeMessage t.payload = (.error text, writer) → Consumes r { r with
        writer
        hub := (r.hub.note (.writeFailed text)).answer t (.rejected text)
        consumer := .selecting }
  | flush : r.consumer = .flushing → Consumes r { r with consumer := .cancelling }
  | failFlush {text} : r.consumer = .flushing → Consumes r (r.finish (.error (.flush text)))
  | askCancel : r.consumer = .cancelling →
      Consumes r { r with cancelRequested := true, consumer := .stopping }
  | stop : r.consumer = .stopping → Consumes r
      { r.stop.count fun c => { c with waits := c.waits + 1 } with consumer := .waiting }
  | confirm : r.consumer = .waiting →
      Consumes r ((r.note (.pipelineClosed r.summary.delivered)).finish (.ok r.summary))
  | interrupt : r.consumer = .selecting → Consumes r
      ({ r.note .shutdownReceived with
        summary := { r.summary with interrupted := true } }).stop
  | expire {e text} : r.consumer = .waiting →
      Consumes r ((r.note (.notClosedInTime text)).finish (.error (.shutdown e)))

/-- The transitions of a run. -/
inductive Step (r : Run) : Run → Prop
  | arrive : Step r { r with feed := r.feed.arrive }
  | signal : Step r { r with signalled := true }
  | learn (watched : List Nat) : Step r { r with watched }
  | report (watched : List Nat) (text : String) :
      Step r ({ r with watched }.note (.notDelivered text))
  | loop {b l h} : r.loop.step b r.hub = some (l, h) → Step r { r with loop := l, hub := h }
  | produce {next : Run} : Produces r next → Step r next
  | consume {next : Run} : Consumes r next → Step r next

theorem produce_cases (hs : r.produce = some r') : Produces r r' := by
  unfold produce at hs
  split at hs
  · rename_i hp
    split at hs
    · cases hs
      exact .read hp ‹_›
    · cases hs
      exact .endInput hp ‹_›
    · cases hs
      exact .failInput hp ‹_›
    · cases hs
  · rename_i t hp
    split at hs
    · cases hs
      exact .reserve hp ‹_›
    · cases hs
      exact .lineUp hp ‹_›
    · rename_i a hw
      cases hs
      refine .refuse hp ?_
      rcases hd : r.inbound.request t with ⟨o, c⟩
      cases o with
      | accepted => exact absurd hd (a c)
      | waits => exact absurd hd (hw c)
      | full => exact absurd hd Channel.request_ne_full
      | closed => exact Channel.request_eq_closed hd
  · rename_i t hp
    split at hs
    · cases hs
      exact .claim hp ‹_›
    · split at hs
      · cases hs
      · cases hs
        exact .turnAway hp (Bool.eq_false_iff.mpr ‹_›)
  · cases hs
    exact .push ‹_›
  · cases hs

theorem cancel_cases (hs : r.cancel = some r') : Produces r r' := by
  unfold cancel at hs
  split at hs
  · cases hs
  · rename_i hn
    have hc : r.cancelRequested = true := by simpa using hn
    split at hs
    · cases hs
    · cases hs
      exact .cancel ‹_› hc
    · cases hs
      exact .cancelOffer ‹_› hc
    · cases hs
      exact .cancelWait ‹_› hc
    · cases hs
      exact .cancelSend ‹_› hc

theorem consume_cases (hs : r.consume = some r') : Consumes r r' := by
  unfold consume at hs
  split at hs
  · rename_i hp
    split at hs
    · cases hs
      exact .take hp ‹_›
    · rename_i he
      cases hs
      exact .findEnd hp (by rw [he])
    · cases hs
  · rename_i t hp
    split at hs
    · cases hs
      exact .write hp ‹_›
    · cases hs
      exact .failWrite hp ‹_›
  · split at hs
    · cases hs
      exact .flush ‹_›
    · cases hs
      exact .failFlush ‹_›
  · cases hs
    exact .askCancel ‹_›
  · cases hs
    exact .stop ‹_›
  · split at hs
    · cases hs
      exact .confirm ‹_›
    · cases hs
  · cases hs

theorem interrupt_cases (hs : r.interrupt = some r') : Consumes r r' := by
  unfold interrupt at hs
  split at hs
  · split at hs
    · cases hs
      exact .interrupt ‹_›
    · cases hs
  · cases hs

theorem expire_cases (hs : r.expire = some r') : Consumes r r' := by
  unfold expire at hs
  split at hs
  · split at hs
    · cases hs
    · cases hs
      exact .expire ‹_›
  · cases hs

theorem watch_cases {serial : Nat} (hs : r.watch serial = some r') : Step r r' := by
  unfold watch at hs
  split at hs
  · split at hs
    · cases hs
    · dsimp only at hs
      split at hs
      · cases hs
        exact .learn _
      · cases hs
        exact .report _ _
  · cases hs

/-- A watcher changes nothing but the log and what it watches. -/
theorem watch_frame {serial : Nat} (hs : r.watch serial = some r') :
    ∃ watched hub, r' = { r with watched, hub } := by
  unfold watch at hs
  split at hs
  · split at hs
    · cases hs
    · dsimp only at hs
      split at hs
      · cases hs
        exact ⟨_, r.hub, rfl⟩
      · cases hs
        exact ⟨_, _, rfl⟩
  · cases hs

/-- Every move of a run is one of its transitions. -/
theorem step_cases {m : Move} (hs : r.step m = some r') : Step r r' := by
  unfold step at hs
  split at hs
  · split at hs
    · cases hs
    · cases hs
      exact .arrive
  · split at hs
    · cases hs
    · cases hs
      exact .signal
  · exact .produce (produce_cases hs)
  · exact .produce (cancel_cases hs)
  · simp only [Option.map_eq_some_iff, Prod.exists] at hs
    obtain ⟨l, h, hl, rfl⟩ := hs
    exact .loop hl
  · exact .consume (consume_cases hs)
  · exact .consume (interrupt_cases hs)
  · exact .consume (expire_cases hs)
  · exact watch_cases hs

/-- What the producer leaves as it is: everything on the way from the loop to the end of the run. -/
structure Produces.Leaves (r r' : Run) : Prop where
  consumer : r'.consumer = r.consumer
  summary : r'.summary = r.summary
  cancelRequested : r'.cancelRequested = r.cancelRequested
  outlet : r'.hub.outlet = r.hub.outlet
  lifecycle : r'.hub.lifecycle = r.hub.lifecycle
  position : r'.loop.position = r.loop.position
  accepting : r'.inbound.accepting = r.inbound.accepting

theorem Produces.leaves (hs : Produces r r') : Produces.Leaves r r' := by
  cases hs with
  | read | push => exact ⟨rfl, rfl, rfl, rfl, rfl, rfl, rfl⟩
  | reserve hp hc =>
    obtain ⟨-, -, rfl⟩ := Channel.reserve_eq_accepted (Channel.request_eq_accepted hc)
    exact ⟨rfl, rfl, rfl, rfl, rfl, rfl, rfl⟩
  | lineUp hp hc =>
    obtain ⟨-, -, rfl⟩ := Channel.send_eq_waits (Channel.request_eq_waits hc)
    exact ⟨rfl, rfl, rfl, rfl, rfl, rfl, rfl⟩
  | claim hp hd =>
    obtain ⟨rest, -, rfl⟩ := Channel.claim?_eq_some hd
    exact ⟨rfl, rfl, rfl, rfl, rfl, rfl, rfl⟩
  | endInput | failInput | refuse | turnAway | cancel | cancelOffer | cancelWait | cancelSend =>
    exact ⟨rfl, rfl, rfl, rfl, rfl, rfl, Channel.accepting_sweep _⟩

theorem Produces.not_done (hs : Produces r r') : r.producer ≠ .done := by
  cases hs with
  | read hp | endInput hp | failInput hp | reserve hp | lineUp hp | refuse hp | claim hp
  | turnAway hp | push hp | cancel hp | cancelOffer hp | cancelWait hp | cancelSend hp =>
    rw [hp]
    exact Producer.noConfusion

theorem count_eq (r : Run) (f : Calls → Calls) : ∃ calls, r.count f = { r with calls } := by
  unfold count
  split
  · exact ⟨_, rfl⟩
  · exact ⟨r.calls, rfl⟩

/-- The run returns through two handles and a close request, in a stage that can be stopped. -/
theorem finish_cases (r : Run) (result : Except Failure Summary) :
    ∃ h, (h = r.hub.dropOutboundHandle ∨ h = r.hub.dropOutboundHandle.requestClose.2) ∧
      r.finish result = { r with hub := h.dropOutboundHandle, consumer := .returned result } := by
  unfold finish leaveStage
  dsimp only
  split
  · exact ⟨_, .inr rfl, rfl⟩
  · exact ⟨_, .inl rfl, rfl⟩

/-- What the consumer leaves as it is: everything on the way from the input to the loop. -/
structure Consumes.Leaves (r r' : Run) : Prop where
  producer : r'.producer = r.producer
  loop : r'.loop = r.loop
  feed : r'.feed = r.feed
  next : r'.hub.replies.next = r.hub.replies.next
  cancelRequested : r.cancelRequested = true → r'.cancelRequested = true
  closeRequested : r.hub.lifecycle.closeRequested = true →
    r'.hub.lifecycle.closeRequested = true

theorem finish_leaves (r : Run) (result : Except Failure Summary) :
    Consumes.Leaves r (r.finish result) := by
  obtain ⟨h, hh, he⟩ := finish_cases r result
  rw [he]
  have hfirst := (Hub.replies_dropOutboundHandle r.hub).next
  have hlast := (Hub.replies_dropOutboundHandle h).next
  rcases hh with rfl | rfl
  · exact ⟨rfl, rfl, rfl, hlast.trans hfirst, id, id⟩
  · rw [Hub.replies_requestClose] at hlast
    exact ⟨rfl, rfl, rfl, hlast.trans hfirst, id,
      Hub.closeRequested_requestClose (h := r.hub.dropOutboundHandle)⟩

/-- Stopping the stage changes nothing of the run itself. -/
theorem stop_frame (r : Run) : ∃ hub calls, r.stop = { r with hub, calls } := by
  obtain ⟨calls, hc⟩ := r.count_eq fun c => { c with stops := c.stops + 1 }
  unfold stop
  rw [hc]
  dsimp only
  split
  · exact ⟨_, calls, rfl⟩
  · exact ⟨_, calls, rfl⟩

theorem stop_leaves (r : Run) : Consumes.Leaves r r.stop := by
  obtain ⟨calls, hc⟩ := r.count_eq fun c => { c with stops := c.stops + 1 }
  unfold stop
  rw [hc]
  dsimp only
  split
  · exact ⟨rfl, rfl, rfl, congrArg Replies.next (Hub.replies_requestClose _), id,
      Hub.closeRequested_requestClose⟩
  · exact ⟨rfl, rfl, rfl, rfl, id, id⟩

theorem Consumes.leaves (hs : Consumes r r') : Consumes.Leaves r r' := by
  cases hs with
  | take | findEnd | flush => exact ⟨rfl, rfl, rfl, rfl, id, id⟩
  | askCancel => exact ⟨rfl, rfl, rfl, rfl, fun _ => rfl, id⟩
  | write | failWrite => exact ⟨rfl, rfl, rfl, Replies.next_answer .., id, id⟩
  | failFlush => exact finish_leaves r _
  | confirm | expire => exact { finish_leaves (r.note _) _ with }
  | interrupt => exact { stop_leaves _ with }
  | stop =>
    have hl := stop_leaves r
    obtain ⟨calls, hc⟩ := r.stop.count_eq fun c => { c with waits := c.waits + 1 }
    rw [hc]
    exact { hl with }

end Handoff.Pipeline.Run

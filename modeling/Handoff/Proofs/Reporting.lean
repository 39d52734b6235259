import Handoff.Proofs.Delivery

/-!
# No input is left out in silence

A producer ends by itself when it has read the whole input, or when it cannot read on: at a line
that is not UTF-8, or where the input fails. Only in the second case it says so, and only then it
leaves something out. A run that returns in order and was not interrupted has a producer that ended
by itself, so it has delivered the whole input, or the log tells that it has not.
-/
namespace Handoff

/-- The event tells that the input could not be read on. -/
def Event.isReadFailure : Event → Bool
  | .readFailed _ => true
  | _ => false

/-- The log tells that the input could not be read on. -/
def Hub.reported (h : Hub) : Bool := h.log.any Event.isReadFailure

@[simp] theorem Hub.reported_requestClose (h : Hub) : h.requestClose.2.reported = h.reported := by
  unfold Hub.requestClose
  split <;> rfl

theorem Loop.Step.reported_eq {l l' : Loop} {h h' : Hub} (hs : l.Step h l' h') :
    h'.reported = h.reported := by
  cases hs with
  | @finish n =>
    show (Hub.reported (if 0 < n then _ else _)) = _
    split <;> rfl
  | begin | seeClose | seeNone | stop | pick | exhaust | giveUp | reserve | findGone | place | count
  | stopAwaiting | seeTaken | loseReaders | abandon | countAbandoned | closeInbound | drain
  | endDrain | countDrained | settle | release | confirm | report | takeLate | countLate
  | answerLate => rfl

namespace Pipeline.Run

variable {r r' : Run} {source : Feed} {past past' : Past}

theorem reported_finish (r : Run) (result : Except Failure Summary) :
    (r.finish result).hub.reported = r.hub.reported := by
  obtain ⟨h, hh, he⟩ := finish_cases r result
  rw [he]
  rcases hh with rfl | rfl
  · rfl
  · exact Hub.reported_requestClose r.hub.dropOutboundHandle

theorem reported_stop (r : Run) : r.stop.hub.reported = r.hub.reported := by
  obtain ⟨calls, hc⟩ := r.count_eq fun c => { c with stops := c.stops + 1 }
  unfold stop
  rw [hc]
  dsimp only
  split
  · exact Hub.reported_requestClose r.hub
  · rfl

/-- The consumer tells nothing about the input. -/
theorem Consumes.reported_eq (hs : Consumes r r') : r'.hub.reported = r.hub.reported := by
  cases hs with
  | take | findEnd | write | failWrite | flush | askCancel => rfl
  | failFlush => exact reported_finish r _
  | confirm | expire => exact reported_finish (r.note _) _
  | interrupt => exact reported_stop _
  | stop =>
    obtain ⟨calls, hc⟩ := r.stop.count_eq fun c => { c with waits := c.waits + 1 }
    rw [hc]
    exact reported_stop r

/-- A producer that ended by itself has read all of a readable input, and reported any other. -/
structure Concluded (source : Feed) (r : Run) : Prop where
  done : r.producer = .done
  whole : source.Readable → r.feed.rest = [] ∧ r.feed.ended = true
  reported : r.hub.reported = true ↔ ¬ source.Readable

/-- What is known of the input at each moment, and why a producer has ended. -/
structure Reports (source : Feed) (r : Run) : Prop where
  silent : r.producer ≠ .done → r.hub.reported = false
  ahead : r.producer ≠ .done → (r.feed.Readable ↔ source.Readable)
  done : r.producer = .done →
    Concluded source r ∨ r.cancelRequested = true ∨ r.inbound.accepting = false

theorem Concluded.step (h : Concluded source r) (hs : Step r r') : Concluded source r' := by
  cases hs with
  | arrive =>
    refine { h with whole := fun hr => ?_ }
    obtain ⟨hrest, hended⟩ := h.whole hr
    exact ⟨(Feed.rest_arrive r.feed).trans hrest, Feed.ended_arrive hended⟩
  | signal | learn | report => exact { h with }
  | loop hl =>
    exact { h with reported := by rw [(Loop.step_cases hl).reported_eq]; exact h.reported }
  | produce hp => exact absurd h.done hp.not_done
  | consume hc =>
    have hl := hc.leaves
    exact
      { done := hl.producer.trans h.done
        whole := by rw [hl.feed]; exact h.whole
        reported := by rw [hc.reported_eq]; exact h.reported }

namespace Reports

/-- Another party moves, which leaves the input and what was said of it alone. -/
theorem of_other (h : Reports source r) (hp : r'.producer = r.producer)
    (hreported : r'.hub.reported = r.hub.reported)
    (hfeed : r'.feed.Readable ↔ r.feed.Readable)
    (hstep : Concluded source r → Concluded source r')
    (hcancel : r.cancelRequested = true → r'.cancelRequested = true)
    (hclosed : r.inbound.accepting = false → r'.inbound.accepting = false) :
    Reports source r' where
  silent := by
    rw [hp, hreported]
    exact h.silent
  ahead hn := by
    rw [hp] at hn
    exact hfeed.trans (h.ahead hn)
  done hd := by
    rw [hp] at hd
    exact (h.done hd).imp hstep (Or.imp hcancel hclosed)

/-- The producer ends. -/
theorem endProducer {r₀ : Run} (h : Concluded source r₀.endProducer ∨ r₀.cancelRequested = true ∨
    r₀.inbound.accepting = false) : Reports source r₀.endProducer where
  silent hn := absurd rfl hn
  ahead hn := absurd rfl hn
  done _ := h.imp_right (Or.imp_right (Channel.accepting_sweep _).trans)

/-- The producer goes on with the same input. -/
theorem goesOn (h : Reports source r) (hp : r.producer ≠ .done) (hp' : r'.producer ≠ .done)
    (hreported : r'.hub.reported = r.hub.reported) (hfeed : r'.feed = r.feed) :
    Reports source r' where
  silent _ := hreported.trans (h.silent hp)
  ahead _ := by
    rw [hfeed]
    exact h.ahead hp
  done hd := absurd hd hp'

theorem produce (h : Reports source r) (ho : r.feed.Orderly) (ht : Tracks r past)
    (hs : Produces r r') : Reports source r' := by
  have hp := hs.not_done
  cases hs with
  | read hq hn =>
    exact
      { silent := fun _ => h.silent hp
        ahead := fun _ => (Feed.readable_of_line ho hn).trans (h.ahead hp)
        done := nofun }
  | endInput hq hn =>
    obtain ⟨-, hreadable, hrest, hended⟩ := Feed.lines_of_finished ho hn
    have hsource := (h.ahead hp).mp hreadable
    refine endProducer (.inl ⟨rfl, fun _ => ⟨hrest, hended⟩, ?_⟩)
    show r.hub.reported = true ↔ _
    rw [h.silent hp]
    exact ⟨nofun, fun hn => absurd hsource hn⟩
  | failInput hq hn =>
    have hsource : ¬ source.Readable := fun hr =>
      (Feed.lines_of_failed ho hn).2 ((h.ahead hp).mpr hr)
    exact endProducer (.inl ⟨rfl, fun hr => absurd hr hsource, fun _ => hsource, fun _ => rfl⟩)
  | reserve | lineUp | claim | push => exact h.goesOn hp nofun rfl rfl
  | refuse hq hc => exact endProducer (.inr (.inr hc))
  | turnAway hq ha => exact endProducer (.inr (.inr (ht.turned_away hq ha).2.1))
  | cancel hq hc | cancelOffer hq hc | cancelWait hq hc | cancelSend hq hc =>
    exact endProducer (.inr (.inl hc))

theorem step (h : Reports source r) (ho : r.feed.Orderly) (ht : Tracks r past) (hs : Step r r') :
    Reports source r' := by
  have hstep : Concluded source r → Concluded source r' := fun hc => hc.step hs
  cases hs with
  | arrive => exact h.of_other rfl rfl (Feed.readable_arrive r.feed) hstep id id
  | signal | learn | report => exact h.of_other rfl rfl .rfl hstep id id
  | loop hl =>
    have hloop := Loop.step_cases hl
    exact h.of_other rfl hloop.reported_eq .rfl hstep id hloop.leaves.closed
  | produce hp => exact h.produce ho ht hp
  | consume hc =>
    have hl := hc.leaves
    refine h.of_other hl.producer hc.reported_eq (by rw [hl.feed]) hstep hl.cancelRequested ?_
    rw [inbound, inbound, hl.loop]
    exact id

end Reports
end Pipeline.Run

namespace Pipeline.Journal

variable {source : Feed} {before : Bytes} {slots : Nat} {j j' : Journal} {past : Past}

/-- A run on its way, with what is known of its input. -/
structure Reporting (source : Feed) (before : Bytes) (slots : Nat) (j : Journal) (past : Past) :
    Prop extends Underway source.lines before slots j past where
  reports : Run.Reports source j.run
  concluding : Run.Returning (fun r _ => Run.Concluded source r) j.run past

/-- The loop leaves for the end of its input when the producer has ended by itself. -/
theorem Reporting.step {m : Move} (h : Reporting source before slots j past)
    (hs : Journal.step m j = some j') : ∃ past', Reporting source before slots j' past' := by
  obtain ⟨past', hu, hr⟩ := h.toUnderway.advance hs
  simp only [Journal.step, Option.map_eq_some_iff] at hs
  obtain ⟨run, hs, rfl⟩ := hs
  have hstep := Run.step_cases hs
  have hw := h.reachable.steady
  have ht := h.follows.toTracks
  refine ⟨past', hu, h.reports.step h.reads.orderly ht hstep,
    h.concluding.step ht hw hstep hr (fun hc => hc.step hstep) fun hp he _ => ?_⟩
  obtain ⟨hdone, hc, ha⟩ := h.concluding.done_of_ended ht hw hp he
  have hconcluded := (h.reports.done hdone).resolve_right (not_or.mpr ⟨hc, ha⟩)
  exact hconcluded.step hstep

section Runs

variable {settings : PipelineSettings} {registry : Registry Buffer} {buffer : Buffer}
  {pieces : List Bytes} {ending : Ending} {writer : Writer} {s : Summary}

/-- Constructing a stage says nothing about an input. -/
theorem reported_construct (settings : BufferSettings) :
    (registry.construct settings).2.reverse.any Event.isReadFailure = false := by
  rw [List.any_reverse]
  unfold Registry.construct
  split
  · rfl
  · split <;> rfl

theorem reporting_launched {calls : Calls} (hc : buffer.conduct = .passThrough)
    (hw : writer.NeverFails) (ho : source.Orderly) : Reporting source writer.output
      settings.inboundCapacity ⟨.launched settings buffer source writer
        (.pipelineRunning settings.buffer.typeName settings.inboundCapacity ::
          (registry.construct settings.buffer).2.reverse) calls, []⟩ {} where
  reachable := Run.reachable_launched
  accepted := rfl
  follows := Run.follows_launched hc hw
  reads := Run.reads_launched source ho
  returning := Run.returning_launched _
  reports :=
    { silent := fun _ => reported_construct settings.buffer
      ahead := fun _ => .rfl
      done := nofun }
  concluding := Run.returning_launched _

/-- A run over the pass-through stage with a writer that never fails, whatever its input does, if it
returns in order and was not interrupted, has delivered the lines of its input up to the first that
is not UTF-8, less an unfinished one where the input fails. If these are not all there are, it has
said so; else it has delivered all, read the input to its end, and said nothing. -/
theorem whole_or_reported (hb : (registry.construct settings.buffer).1 = .ok buffer)
    (hc : buffer.conduct = .passThrough) (hw : writer.NeverFails)
    (h : Reached Journal.step
      { run := .start settings registry { coming := pieces, ending } writer } j)
    (hs : j.run.result? = some (.ok s)) (hi : s.interrupted = false) :
    s.delivered = (Feed.lines { coming := pieces, ending }).length ∧
      (Feed.Readable { coming := pieces, ending } →
        s.delivered = (Feed.contents { coming := pieces, ending }).length ∧
          j.run.feed.rest = [] ∧ j.run.feed.ended = true) ∧
      (j.run.hub.reported = true ↔ ¬ Feed.Readable { coming := pieces, ending }) := by
  have hreturned := Run.consumer_of_result hs
  rcases Run.stillborn_or_launched hb hc with hdead | ⟨calls, he⟩
  · obtain ⟨e, he⟩ := hdead.consumer
    cases (returned_later he h).symm.trans hreturned
  · rw [he] at h
    obtain ⟨past, hr⟩ := h.invariant
      (P := fun j => ∃ past, Reporting { coming := pieces, ending } writer.output
        settings.inboundCapacity j past)
      ⟨{}, reporting_launched hc hw nofun⟩ fun m j j' ⟨past, hr⟩ hs => hr.step hs
    have hwhole := (hr.toUnderway.delivers hs).whole hi
    have hread : j.run.consumer.reads = false := by rw [hreturned]; rfl
    have hresult := hr.returning.result s hreturned
    have hconcluded : Run.Concluded { coming := pieces, ending } j.run := by
      refine (hr.concluding.complete hread).resolve_left fun hn => ?_
      rw [← hresult, hi] at hn
      cases hn
    refine ⟨hwhole, fun hreadable => ⟨?_, hconcluded.whole hreadable⟩, hconcluded.reported⟩
    rw [hwhole, Feed.lines_of_readable hreadable]

end Runs

/-- A run over these bytes, which end in this way. -/
def overInput (piece : Bytes) (ending : Ending) : Journal where
  run := .start {} Buffer.defaultRegistry { coming := [piece], ending } {}

/-- The moves that take the first line of such an input through, and end the run. -/
def upToReturn : List Move :=
  [.arrive, .produce, .produce, .produce, .arrive, .produce] ++ List.replicate 6 (.loop .channel) ++
    [.consume .channel, .consume .channel] ++ List.replicate 11 (.loop .channel) ++
      List.replicate 5 (.consume .channel)

/-- An input fails behind half a line: the half is lost, and the log tells. -/
theorem whole_or_reported_when_input_fails : ∃ j,
    Reached Journal.step (overInput [97, 10, 104, 97] (.failure "disk gone")) j ∧
      j.run.result? = some (.ok ⟨1, false⟩) ∧ j.run.hub.reported = true ∧
        1 = (Feed.lines
          { coming := [[97, 10, 104, 97]], ending := .failure "disk gone" }).length := by
  obtain ⟨j, hj, hs⟩ : ∃ j, upToReturn.foldlM (fun j m => Journal.step m j)
      (overInput [97, 10, 104, 97] (.failure "disk gone")) = some j ∧
        j.run.result? = some (.ok ⟨1, false⟩) := ⟨_, rfl, rfl⟩
  have hb : (Buffer.defaultRegistry.construct {}).1 = .ok Buffer.passThrough := rfl
  have hreached := Reached.of_moves hj
  obtain ⟨hdelivered, -, hreported⟩ :=
    whole_or_reported hb rfl (fun _ => .inl rfl) hreached hs rfl
  have hunreadable : ¬ Feed.Readable
      { coming := [[97, 10, 104, 97]], ending := .failure "disk gone" } :=
    fun hreadable => absurd hreadable.1 nofun
  exact ⟨j, hreached, hs, hreported.mpr hunreadable, hdelivered⟩

/-- Of three lines the second one is not UTF-8. The run returns in order, was not interrupted, has
delivered one line and left the last one unread. -/
theorem line_left_behind_undecodable : ∃ j,
    Reached Journal.step (overInput [97, 10, 255, 10, 98, 10] .clean) j ∧
      j.run.result? = some (.ok ⟨1, false⟩) ∧ j.run.feed.rest ≠ [] ∧
        ¬ (1 = (Feed.contents { coming := [[97, 10, 255, 10, 98, 10]] }).length) := by
  obtain ⟨j, hj, hs, hr⟩ : ∃ j, upToReturn.foldlM (fun j m => Journal.step m j)
      (overInput [97, 10, 255, 10, 98, 10] .clean) = some j ∧
        j.run.result? = some (.ok ⟨1, false⟩) ∧ j.run.feed.rest = [255, 10, 98, 10] :=
    ⟨_, rfl, rfl, rfl⟩
  refine ⟨j, Reached.of_moves hj, hs, ?_, by decide⟩
  rw [hr]
  exact List.cons_ne_nil _ _

end Pipeline.Journal
end Handoff

import Handoff.Proofs.Accountability
import Handoff.Proofs.Returning

/-!
# Lines in, lines out

A run over the pass-through stage that returns in order has written the first lines of its input,
each followed by a line feed and nothing between them, and has answered exactly these as delivered.
If it was not interrupted, these are all lines. This holds for any cut of the input into pieces, any
schedule and any moment of the shutdown signal. Nothing is said about a run that does not return.

The producer may have a slot of inbound when the loop closes it, and put its line there only after
the run has returned. That line is accepted as well, and the loop answers it before it finishes. A
journal adds to a run what inbound accepted so far, also after the return.
-/
namespace Handoff.Pipeline

namespace Run

/-- A run over the pass-through stage as it begins. -/
def launched (settings : PipelineSettings) (buffer : Buffer) (feed : Feed) (writer : Writer)
    (log : List Event) (calls : Calls) : Run where
  typeName := settings.buffer.typeName
  buffer := buffer
  shutdownTimeout := settings.shutdownTimeout
  hub := {
    outlet := { channel := { capacity := 1 }, handles := 2 }
    lifecycle := { state := .running }
    log }
  loop := { label := Stage.typeName, inbound := { capacity := settings.inboundCapacity } }
  feed := feed
  writer := writer
  calls := calls

variable {settings : PipelineSettings} {registry : Registry Buffer} {buffer : Buffer} {feed : Feed}
  {writer : Writer} {log : List Event} {calls : Calls}

theorem foldl_note (h : Hub) (events : List Event) :
    events.foldl Hub.note h = { h with log := events.reverse ++ h.log } := by
  induction events generalizing h with
  | nil => rfl
  | cons e events ih =>
    rw [List.foldl_cons, ih, List.reverse_cons, List.append_assoc]
    rfl

theorem attach_passThrough {r : Run} (hb : r.buffer.conduct = .passThrough)
    (hh : r.hub = { outlet := { channel := { capacity := 1 } }, log }) (slots : Nat) :
    ∃ calls, r.attach slots = { r with
      hub := {
        outlet := { channel := { capacity := 1 } }
        lifecycle := { state := .running }
        log }
      loop := { label := Stage.typeName, inbound := { capacity := slots } }
      calls } := by
  obtain ⟨calls, hc⟩ := r.count_eq fun c => { c with starts := c.starts + 1 }
  unfold attach
  rw [hc]
  simp only [hb, hh]
  exact ⟨calls, rfl⟩

/-- A run that has failed before anybody could move in it. -/
structure Stillborn (writer : Writer) (r : Run) : Prop where
  producer : r.producer = .done
  consumer : ∃ e, r.consumer = .returned (.error e)
  position : r.loop.position = .finished
  queue : r.inbound.queue = []
  writer : r.writer = writer
  delivered : r.summary.delivered = 0
  forwarded : r.hub.forwarded = 0

/-- A run over the pass-through stage begins, unless no channel can have so many slots. -/
theorem stillborn_or_launched (hb : (registry.construct settings.buffer).1 = .ok buffer)
    (hc : buffer.conduct = .passThrough) :
    Stillborn writer (start settings registry feed writer) ∨
      ∃ calls, start settings registry feed writer = launched settings buffer feed writer
        (.pipelineRunning settings.buffer.typeName settings.inboundCapacity ::
          (registry.construct settings.buffer).2.reverse) calls := by
  rcases hk : registry.construct settings.buffer with ⟨built, events⟩
  rw [hk] at hb
  unfold start
  rw [hk, show built = .ok buffer from hb]
  dsimp only
  rw [foldl_note, List.append_nil]
  cases capacityFault? settings.inboundCapacity with
  | some fault =>
    refine .inl ⟨rfl, ⟨.capacity fault, rfl⟩, rfl, rfl, rfl, rfl, ?_⟩
    simp only [failed, leaveStage, hc]
    rfl
  | none =>
    dsimp only
    obtain ⟨calls, ha⟩ := attach_passThrough (r := {
      typeName := settings.buffer.typeName
      buffer
      shutdownTimeout := settings.shutdownTimeout
      hub := { outlet := { channel := { capacity := 1 } }, log := events.reverse }
      loop := { label := Stage.typeName, inbound := { capacity := 0 }, position := .finished }
      feed
      writer }) hc rfl settings.inboundCapacity
    rw [ha]
    exact .inr ⟨calls, rfl⟩

theorem start_cases (hb : (registry.construct settings.buffer).1 = .ok buffer)
    (hc : buffer.conduct = .passThrough) :
    (∃ e, (start settings registry feed writer).consumer = .returned (.error e)) ∨
      ∃ log calls,
        start settings registry feed writer = launched settings buffer feed writer log calls :=
  (stillborn_or_launched hb hc).imp Stillborn.consumer fun ⟨calls, he⟩ => ⟨_, calls, he⟩

/-- The exchange of a run that begins is one that was started, and has a reader. -/
theorem reachable_launched : Exchange.Reachable Stage.typeName settings.inboundCapacity 0
    ((launched settings buffer feed writer log calls).exchange {}) := by
  have hlog : ∀ log, Exchange.Reachable Stage.typeName settings.inboundCapacity 0
      { Exchange.start Stage.typeName settings.inboundCapacity 0 with
        hub := { outlet := { channel := { capacity := 1, senders := 1 } }, log } } := by
    intro log
    induction log with
    | nil => exact .start
    | cons e log ih => exact .move (.note e) ih rfl
  exact .move .addHandle (.move .markRunning (hlog log) rfl) rfl

theorem tracks_launched (hc : buffer.conduct = .passThrough) :
    Tracks (launched settings buffer feed writer log calls) {} where
  conduct := hc
  senders := rfl
  permits := rfl
  line := .inl rfl
  handles := rfl

theorem follows_launched (hc : buffer.conduct = .passThrough) (hw : writer.NeverFails) :
    Follows writer.output (launched settings buffer feed writer log calls) {} where
  toTracks := tracks_launched hc
  neverFails := hw
  output := (List.append_nil _).symm
  delivered := rfl
  answers := nofun

theorem reads_launched (f : Feed) (hf : f.Orderly) :
    Reads f.lines (launched settings buffer f writer log calls) [] where
  orderly := hf
  sent := List.nil_prefix
  ahead _ := rfl
  done := nofun

theorem returning_launched (full : Run → Past → Prop) :
    Returning full (launched settings buffer feed writer log calls) {} where
  accepts _ := rfl
  cancels := nofun
  stops := nofun
  leaves := nofun
  drained := nofun
  complete := nofun
  result := nofun

theorem consumer_of_result {r : Run} {result : Except Failure Summary}
    (hs : r.result? = some result) : r.consumer = .returned result := by
  unfold result? at hs
  split at hs
  · rename_i found hc
    rw [hc, Option.some.inj hs]
  · cases hs

/-- A run that returned keeps its result. -/
theorem returned_stays {m : Move} {r r' : Run} {result : Except Failure Summary}
    (hc : r.consumer = .returned result) (hs : r.step m = some r') :
    r'.consumer = .returned result := by
  cases step_cases hs with
  | arrive | signal | learn | report | loop => exact hc
  | produce hs => exact hs.leaves.consumer.trans hc
  | consume hs => exact absurd hs (not_consumes hc)

end Run

/-- A run with the transactions that inbound accepted so far, in their order. -/
structure Journal where
  run : Run
  accepted : List Transaction := []

namespace Journal

/-- One move of the run. What it adds to the inbound queue is accepted. -/
def step (m : Move) (j : Journal) : Option Journal :=
  (j.run.step m).map fun run =>
    { run, accepted := j.accepted ++ run.inbound.queue.drop j.run.inbound.queue.length }

/-- What became of an accepted transaction, as far as that is known. -/
def outcome (j : Journal) (t : Transaction) : Option Outcome :=
  j.run.hub.replies.outcome t.serial

/-- A run on its way from its input to its output. -/
structure Underway (lines : List Bytes) (before : Bytes) (slots : Nat) (j : Journal)
    (past : Past) : Prop where
  reachable : Exchange.Reachable Stage.typeName slots 0 (j.run.exchange past)
  accepted : past.accepted = j.accepted
  follows : Run.Follows before j.run past
  reads : Run.Reads lines j.run past.accepted
  returning : Run.Returning (Run.Complete lines) j.run past

variable {lines : List Bytes} {before : Bytes} {slots : Nat} {j j' : Journal} {past : Past}

/-- A move of the run is some moves of its exchange, and leaves it on its way. -/
theorem Underway.advance {m : Move} (h : Underway lines before slots j past)
    (hs : Journal.step m j = some j') : ∃ past', Underway lines before slots j' past' ∧
      Reached Exchange.step (j.run.exchange past) (j'.run.exchange past') := by
  simp only [Journal.step, Option.map_eq_some_iff] at hs
  obtain ⟨run, hs, rfl⟩ := hs
  have hstep := Run.step_cases hs
  have hw := h.reachable.steady
  have ht := h.follows.toTracks
  obtain ⟨past', ha, hr, hf⟩ := h.follows.step hw hs
  have hreads : Run.Reads lines run past'.accepted := by
    rw [ha]
    exact h.reads.step ht hw hstep
  have hreachable := h.reachable.trans hr
  refine ⟨past', ⟨hreachable, ?_, hf, hreads, ?_⟩, hr⟩
  · rw [ha, h.accepted]
  · have hgrow : past.accepted <+: past'.accepted := ha ▸ List.prefix_append ..
    exact h.returning.step ht hw hstep hr (fun hc => hc.later hw hr) fun hp he hp' =>
      h.returning.complete_of_ended ht h.reads hw hreachable hgrow hreads.sent hp he hp'

theorem Underway.step {m : Move} (h : Underway lines before slots j past)
    (hs : Journal.step m j = some j') : ∃ past', Underway lines before slots j' past' :=
  (h.advance hs).imp fun _ => And.left

theorem returned_later {result : Except Failure Summary}
    (hc : j.run.consumer = .returned result) (h : Reached Journal.step j j') :
    j'.run.consumer = .returned result := by
  refine h.invariant (P := fun j => j.run.consumer = .returned result) hc fun m j j' hc hs => ?_
  simp only [Journal.step, Option.map_eq_some_iff] at hs
  obtain ⟨run, hs, rfl⟩ := hs
  exact Run.returned_stays hc hs

/-- What a run has done that returned in order. -/
structure Delivers (lines : List Bytes) (before : Bytes) (j : Journal) (s : Summary) : Prop where
  within : s.delivered ≤ lines.length
  output : j.run.writer.output =
    before ++ (lines.take s.delivered).flatMap (· ++ [Text.Lines.lineFeed])
  /-- Without the shutdown signal nothing is left out. -/
  whole : s.interrupted = false → s.delivered = lines.length
  counted : j.run.hub.forwarded = s.delivered
  /-- Inbound accepted a prefix of the lines, and no less than was delivered. -/
  accepted : j.accepted = numbered 0 (lines.take j.accepted.length)
  enough : s.delivered ≤ j.accepted.length
  delivered : ∀ t ∈ j.accepted.take s.delivered, j.outcome t = some .delivered
  /-- Once the loop is finished, its answer has come for all that was accepted besides. -/
  others : j.run.loop.position = .finished →
    ∀ t ∈ j.accepted.drop s.delivered, j.outcome t = some .stageClosed

namespace Underway

variable {s : Summary}

/-- A consumer that has found the end has answered what the loop placed, and nothing else. -/
theorem placed_eq (h : Underway lines before slots j past)
    (hc : j.run.consumer = .returned (.ok s)) : past.placed = past.returned.map (·.1) := by
  have hd := h.returning.drained (by rw [hc]; rfl)
  have hp : past.placed = past.returned.map (·.1) ++ j.run.consumer.held :=
    hd.placed_eq h.reachable.steady
  rw [hp, hc]
  exact List.append_nil _

theorem accepted_eq (h : Underway lines before slots j past)
    (hc : j.run.consumer = .returned (.ok s)) : j.accepted =
      past.returned.map (·.1) ++
        (past.refused ++ j.run.loop.position.hand ++ j.run.loop.inbound.queue) := by
  have ho : past.accepted =
      past.placed ++ past.refused ++ j.run.loop.position.hand ++ j.run.loop.inbound.queue :=
    h.reachable.steady.order
  rw [← h.accepted, ho, h.placed_eq hc]
  simp only [List.append_assoc]

/-- What the consumer answered are the transactions of the first lines. -/
theorem returned_eq (h : Underway lines before slots j past)
    (hc : j.run.consumer = .returned (.ok s)) :
    past.returned.map (·.1) = numbered 0 (lines.take past.returned.length) := by
  have hsent := h.reads.sent
  rw [h.accepted, h.accepted_eq hc] at hsent
  have hfirst := (List.prefix_append _ _).trans hsent
  rw [List.prefix_iff_eq_take, List.length_map, take_numbered] at hfirst
  exact hfirst

theorem delivers (h : Underway lines before slots j past)
    (hs : j.run.result? = some (.ok s)) : Delivers lines before j s := by
  have hw := h.reachable.steady
  have hc := Run.consumer_of_result hs
  obtain rfl := h.returning.result s hc
  have hd := h.returning.drained (by rw [hc]; rfl)
  have hcount := h.follows.delivered
  have haccepted := h.accepted_eq hc
  have hreturned := h.returned_eq hc
  have htaken : (j.run.exchange past).taken = past.returned.map (·.1) := by
    rw [Run.exchange, Past.exchange, hc]
    exact List.append_nil _
  have htake : j.accepted.take j.run.summary.delivered = past.returned.map (·.1) := by
    rw [haccepted, hcount]
    exact List.take_left' (List.length_map _)
  constructor
  · have hl := congrArg List.length hreturned
    rw [List.length_map, length_numbered, List.length_take] at hl
    omega
  · have hw : past.returned.flatMap (·.1.payload.written) =
        (past.returned.map (·.1)).flatMap (·.payload.written) := by rw [List.flatMap_map]
    rw [h.follows.output, hw, hreturned, written_numbered, hcount]
  · intro hi
    rcases h.returning.complete (by rw [hc]; rfl) with hn | hall
    · rw [hi] at hn
      cases hn
    · have ha : past.accepted = past.returned.map (·.1) :=
        (hall.exhausted.accepted_eq hw).1.trans htaken
      have hl := congrArg List.length (hall.accepted.symm.trans ha)
      rw [length_numbered, List.length_map] at hl
      exact hcount.trans hl.symm
  · rw [hcount, ← List.length_map (·.1), ← htaken]
    exact h.reachable.forwarded_eq hd
  · have hsent := h.reads.sent
    rw [h.accepted, List.prefix_iff_eq_take, take_numbered] at hsent
    exact hsent
  · rw [haccepted, List.length_append, List.length_map, hcount]
    exact Nat.le_add_right _ _
  · rw [htake]
    intro t ht
    obtain ⟨p, hp, rfl⟩ := List.mem_map.mp ht
    have ho := hw.sound.returnedAnswer p hp
    rw [h.follows.answers p hp] at ho
    exact ho
  · intro hp t ht
    have hfinished : past.accepted = past.placed ++ past.refused := hw.accepted_of_finished hp
    rw [← h.accepted, hfinished, h.placed_eq hc, hcount, List.drop_left' (List.length_map _)] at ht
    exact hw.sound.refusedClosed t ht

end Underway

section Runs

variable {settings : PipelineSettings} {registry : Registry Buffer} {buffer : Buffer}
  {pieces : List Bytes} {writer : Writer} {s : Summary}

/-- Every run over the pass-through stage with a writer that never fails, if it returns in order,
has written the first lines of its input, and all of them if it was not interrupted. Their senders
learn that they were delivered, and those of all other accepted lines that the stage was closed. -/
theorem delivers_prefix (hb : (registry.construct settings.buffer).1 = .ok buffer)
    (hc : buffer.conduct = .passThrough) (hw : writer.NeverFails)
    (h : Reached Journal.step { run := .start settings registry { coming := pieces } writer } j)
    (hs : j.run.result? = some (.ok s)) :
    Delivers (Text.Lines.ofBytes pieces.flatten) writer.output j s := by
  rcases Run.start_cases hb hc with ⟨e, he⟩ | ⟨log, calls, he⟩
  · have hstays : j.run.consumer = .returned (.error e) :=
      Reached.invariant (P := fun j => j.run.consumer = .returned (.error e)) h he
        fun m j j' hj hs => by
          simp only [Journal.step, Option.map_eq_some_iff] at hs
          obtain ⟨run, hs, rfl⟩ := hs
          exact Run.returned_stays hj hs
    rw [Run.result?, hstays] at hs
    cases hs
  · rw [he] at h
    obtain ⟨past, hu⟩ : ∃ past, Underway (Text.Lines.ofBytes pieces.flatten) writer.output
        settings.inboundCapacity j past := by
      refine Reached.invariant (P := fun j => ∃ past, Underway _ _ _ j past) h ⟨{}, ?_⟩
        fun m j j' hj hs => hj.elim fun past hu => hu.step hs
      exact
        { reachable := Run.reachable_launched
          accepted := rfl
          follows := Run.follows_launched hc hw
          reads := Run.reads_launched { coming := pieces } nofun
          returning := Run.returning_launched _ }
    exact hu.delivers hs

/-- A run over three lines. -/
def threeLines : Journal where
  run := .start {} Buffer.defaultRegistry { coming := [[65, 10], [66, 13, 10, 67]] } {}

/-- The shutdown signal comes when the first line is out, the second one is with the loop and the
producer has a slot for the third. The loop closes inbound and confirms, and the run returns. -/
def upToSlotInHand : List Move :=
  [.arrive, .produce, .produce, .produce, .arrive, .produce, .produce, .produce, .arrive, .produce,
    .produce] ++ List.replicate 6 (.loop .channel) ++
    [.consume .channel, .loop .channel, .loop .channel, .signal, .consume .channel,
      .consume .close, .loop .close] ++
    List.replicate 8 (.loop .channel) ++ List.replicate 5 (.consume .channel)

/-- The third line goes into its slot after the run has returned. The loop answers it late, as it
has answered the second one before. -/
theorem delivers_prefix_interrupted : ∃ j j', Reached Journal.step threeLines j ∧
    j.run.result? = some (.ok ⟨1, true⟩) ∧ j.accepted.length = 2 ∧ Reached Journal.step j j' ∧
      j'.run.loop.position = .finished ∧ j'.accepted.length = 3 ∧
        Delivers (Text.Lines.ofBytes [65, 10, 66, 13, 10, 67]) [] j' ⟨1, true⟩ := by
  obtain ⟨j, j', hj, hs, ha, hj', hp, hs', ha'⟩ : ∃ j j',
      upToSlotInHand.foldlM (fun j m => Journal.step m j) threeLines = some j ∧
        j.run.result? = some (.ok ⟨1, true⟩) ∧ j.accepted.length = 2 ∧
          (.produce :: List.replicate 4 (.loop .channel)).foldlM (fun j m => Journal.step m j) j =
            some j' ∧ j'.run.loop.position = .finished ∧
              j'.run.result? = some (.ok ⟨1, true⟩) ∧ j'.accepted.length = 3 :=
    ⟨_, _, rfl, rfl, rfl, rfl, rfl, rfl, rfl⟩
  have hb : (Buffer.defaultRegistry.construct {}).1 = .ok Buffer.passThrough := rfl
  have hfirst := Reached.of_moves hj
  have hlater := Reached.of_moves hj'
  exact ⟨j, j', hfirst, hs, ha, hlater, hp, ha',
    delivers_prefix hb rfl (fun _ => .inl rfl) (hfirst.trans hlater) hs'⟩

end Runs
end Journal
end Handoff.Pipeline

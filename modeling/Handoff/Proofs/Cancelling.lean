import Handoff.Proofs.Delivery

/-!
# What a run leaves of its producer

A run that has made its output final asks its producer to go away, and goes on from there to each of
its other results. A producer that is asked to go away can do so wherever it is. A run that cannot
make its output final returns before that, and from then on nobody asks the producer: as long as
nothing arrives, it goes on waiting for its input. This holds for every stage, every input, every
writer, every schedule and any moment of the shutdown signal. A run that fails before it has a
producer counts as one whose producer is done.
-/
namespace Handoff.Pipeline

/-- The run could not make its output final. -/
def flushFailed : Except Failure Summary → Bool
  | .error (.flush _) => true
  | _ => false

/-- The consumer has come past the place where it asks the producer to go away. -/
def Consumer.asked : Consumer → Bool
  | .stopping | .waiting => true
  | .returned result => !flushFailed result
  | _ => false

namespace Run

variable {settings : PipelineSettings} {registry : Registry Buffer} {feed : Feed} {writer : Writer}
  {r r' : Run} {m : Move} {result : Except Failure Summary}

/-- What a run has asked of its producer, if it has one. -/
def Asks (r : Run) : Prop :=
  r.cancelRequested = r.consumer.asked ∨
    r.cancelRequested = false ∧ r.producer = .done ∧ ∃ result, r.consumer = .returned result

/-- A run that begins has asked for nothing. -/
theorem asks_attach (hc : r.consumer = .selecting) (hn : r.cancelRequested = false) (slots : Nat) :
    Asks (r.attach slots) := by
  have hbegun : r.cancelRequested = r.consumer.asked := by rw [hn, hc]; rfl
  obtain ⟨calls, hcount⟩ := r.count_eq fun c => { c with starts := c.starts + 1 }
  unfold attach
  rw [hcount]
  dsimp only
  split
  · exact .inr ⟨hn, rfl, _, rfl⟩
  · exact .inl hbegun
  · split
    · split
      · exact .inl hbegun
      · exact .inl hbegun
    · exact .inr ⟨hn, rfl, _, rfl⟩

theorem asks_start : Asks (start settings registry feed writer) := by
  unfold start
  dsimp only
  split
  · exact .inr ⟨rfl, rfl, _, rfl⟩
  · split
    · exact .inr ⟨rfl, rfl, _, rfl⟩
    · split
      · exact asks_attach rfl rfl _
      · exact asks_attach rfl rfl settings.inboundCapacity

theorem asks_finish (ha : r.cancelRequested = !flushFailed result) : Asks (r.finish result) := by
  obtain ⟨h, -, he⟩ := finish_cases r result
  rw [he]
  exact .inl ha

theorem Consumes.asks (hs : Consumes r r') (ha : r.cancelRequested = r.consumer.asked) :
    Asks r' := by
  cases hs with
  | take hp | findEnd hp | write hp | failWrite hp | flush hp =>
    rw [hp] at ha
    exact .inl ha
  | askCancel => exact .inl rfl
  | failFlush hp | confirm hp | expire hp =>
    rw [hp] at ha
    exact asks_finish ha
  | stop hp =>
    rw [hp] at ha
    obtain ⟨hub, stops, hstop⟩ := stop_frame r
    obtain ⟨calls, hcount⟩ := r.stop.count_eq fun c => { c with waits := c.waits + 1 }
    rw [hcount, hstop]
    exact .inl ha
  | interrupt hp =>
    obtain ⟨hub, calls, hstop⟩ := stop_frame { r.note .shutdownReceived with
      summary := { r.summary with interrupted := true } }
    rw [hstop]
    exact .inl ha

theorem Asks.step (ha : Asks r) (hs : r.step m = some r') : Asks r' := by
  cases step_cases hs with
  | arrive | signal | learn | report | loop => exact ha
  | produce hs =>
    have hl := hs.leaves
    rcases ha with ha | ⟨-, hdone, -⟩
    · rw [← hl.cancelRequested, ← hl.consumer] at ha
      exact .inl ha
    · exact absurd hdone hs.not_done
  | consume hs =>
    rcases ha with ha | ⟨-, -, _, hc⟩
    · exact hs.asks ha
    · exact absurd hs (not_consumes hc)

/-- A producer that is asked to go away can, wherever it is. -/
theorem cancel_of_requested (hc : r.cancelRequested = true) (hp : r.producer ≠ .done) :
    ∃ e, r.step .cancel = some e ∧ e.producer = .done := by
  simp only [Run.step, cancel, hc]
  cases hq : r.producer with
  | done => exact absurd hq hp
  | reading => exact ⟨_, rfl, rfl⟩
  | offering t => exact ⟨_, rfl, rfl⟩
  | waiting t => exact ⟨_, rfl, rfl⟩
  | sending t => exact ⟨_, rfl, rfl⟩

theorem not_cancel (hc : r.cancelRequested = false) : r.step .cancel = none := by
  simp only [Run.step, cancel, hc]
  rfl

/-- With nothing to read and nobody to ask it, a producer goes on reading until something arrives. -/
theorem reading_stays (hc : r.consumer = .returned result) (hn : r.cancelRequested = false)
    (hp : r.producer = .reading) (hf : r.feed.next = .nothing) (hm : m ≠ .arrive)
    (hs : r.step m = some r') : r'.producer = .reading ∧ r'.feed = r.feed := by
  cases m with
  | arrive => exact absurd rfl hm
  | signal =>
    simp only [Run.step] at hs
    split at hs
    · cases hs
    · cases hs
      exact ⟨hp, rfl⟩
  | produce => simp [Run.step, produce, hp, hf] at hs
  | cancel =>
    rw [not_cancel hn] at hs
    cases hs
  | loop b =>
    simp only [Run.step, Option.map_eq_some_iff, Prod.exists] at hs
    obtain ⟨l, h, -, rfl⟩ := hs
    exact ⟨hp, rfl⟩
  | consume b =>
    cases b with
    | channel => exact absurd (consume_cases hs) (not_consumes hc)
    | close => exact absurd (interrupt_cases hs) (not_consumes hc)
  | expire => exact absurd (expire_cases hs) (not_consumes hc)
  | watch serial =>
    obtain ⟨watched, hub, rfl⟩ := watch_frame hs
    exact ⟨hp, rfl⟩

/-- What a run that returned leaves of its producer. -/
structure LeavesProducer (result : Except Failure Summary) (r : Run) : Prop where
  /-- The producer is done or was asked to go away. -/
  asked : flushFailed result = false → r.producer = .done ∨ r.cancelRequested = true
  /-- A producer that was asked can go away at every later moment. -/
  goes : r.cancelRequested = true → ∀ r', Reached step r r' → r'.producer ≠ .done →
    ∃ e, r'.step .cancel = some e ∧ e.producer = .done
  /-- Without a final output nobody asks it, now or later. -/
  forgotten : flushFailed result = true → ∀ r', Reached step r r' →
    r'.cancelRequested = false ∧ r'.step .cancel = none
  /-- A producer that was not asked waits as long as nothing arrives. -/
  waits : r.cancelRequested = false → r.producer = .reading → r.feed.next = .nothing →
    ∀ (moves : List Move) (r' : Run), .arrive ∉ moves →
      moves.foldlM (fun r m => step m r) r = some r' → r'.producer = .reading

theorem requested_later (hc : r.cancelRequested = true) (hl : Reached step r r') :
    r'.cancelRequested = true := by
  refine hl.invariant (P := fun r => r.cancelRequested = true) hc fun m r r' hc hs => ?_
  cases step_cases hs with
  | arrive | signal | learn | report | loop => exact hc
  | produce hs => exact hs.leaves.cancelRequested.trans hc
  | consume hs => exact hs.leaves.cancelRequested hc

theorem unrequested_later (hr : r.consumer = .returned result) (hn : r.cancelRequested = false)
    (hl : Reached step r r') : r'.cancelRequested = false := by
  refine (hl.invariant (P := fun r => r.consumer = .returned result ∧ r.cancelRequested = false)
    ⟨hr, hn⟩ fun m r r' ⟨hr, hn⟩ hs => ⟨returned_stays hr hs, ?_⟩).2
  cases step_cases hs with
  | arrive | signal | learn | report | loop => exact hn
  | produce hs => exact hs.leaves.cancelRequested.trans hn
  | consume hs => exact absurd hs (not_consumes hr)

theorem reading_of_silent {moves : List Move} (hc : r.consumer = .returned result)
    (hn : r.cancelRequested = false) (hp : r.producer = .reading) (hf : r.feed.next = .nothing)
    (hm : .arrive ∉ moves) (hs : moves.foldlM (fun r m => step m r) r = some r') :
    r'.producer = .reading := by
  induction moves generalizing r with
  | nil =>
    cases hs
    exact hp
  | cons m moves ih =>
    simp only [List.foldlM_cons, Option.bind_eq_bind, Option.bind_eq_some_iff] at hs
    obtain ⟨r₁, hs, hrest⟩ := hs
    have hfirst : m ≠ .arrive := fun h => hm (h ▸ List.mem_cons_self)
    obtain ⟨hp₁, hf₁⟩ := reading_stays hc hn hp hf hfirst hs
    refine ih (returned_stays hc hs) (unrequested_later hc hn (.single m hs)) hp₁ ?_ ?_ hrest
    · rw [hf₁]
      exact hf
    · exact fun h => hm (List.mem_cons_of_mem _ h)

/-- When a run returns, its producer is done or was asked to go away, which it then can do at every
moment, unless the run returns because its output could not be made final. In that case nobody asks
the producer. -/
theorem asked_unless_flush_failed (h : Reached step (start settings registry feed writer) r)
    (hs : r.result? = some result) : LeavesProducer result r := by
  have hasks : Asks r := h.invariant asks_start fun _ _ _ ha hs => ha.step hs
  have hc := consumer_of_result hs
  refine ⟨?_, ?_, ?_, ?_⟩
  · intro hf
    rcases hasks with ha | ⟨-, hdone, -⟩
    · rw [hc] at ha
      exact .inr (ha.trans (by rw [Consumer.asked, hf]; rfl))
    · exact .inl hdone
  · intro ha r' hl hp
    exact cancel_of_requested (requested_later ha hl) hp
  · intro hf r' hl
    have hn : r.cancelRequested = false := by
      rcases hasks with ha | ⟨hn, -⟩
      · rw [hc] at ha
        exact ha.trans (by rw [Consumer.asked, hf]; rfl)
      · exact hn
    have hn' := unrequested_later hc hn hl
    exact ⟨hn', not_cancel hn'⟩
  · intro hn hp hf moves r' hm hr
    exact reading_of_silent hc hn hp hf hm hr

/-- A run over an input that stays silent. -/
def silent (flushFailure : Option String) : Run :=
  start {} Buffer.defaultRegistry {} { flushFailure }

/-- The signal ends a run over a silent input, up to what its output comes to. -/
def interruption : List Move := [.signal, .consume .close, .loop .channel, .loop .channel,
  .loop .channel, .loop .channel, .loop .channel, .loop .channel, .loop .channel, .loop .channel,
  .consume .channel, .consume .channel]

/-- Interrupted while it waits for its input, the producer is asked to go away and can. -/
theorem asked_unless_flush_failed_when_silent : ∃ r, Reached step (silent none) r ∧
    r.result? = some (.ok ⟨0, true⟩) ∧ r.producer = .reading ∧
      LeavesProducer (.ok ⟨0, true⟩) r := by
  obtain ⟨r, hr, hs, hp⟩ : ∃ r, (interruption ++ List.replicate 3 (Move.consume .channel)).foldlM
      (fun r m => step m r) (silent none) = some r ∧
        r.result? = some (.ok ⟨0, true⟩) ∧ r.producer = .reading := ⟨_, rfl, rfl, rfl⟩
  have hreached := Reached.of_moves hr
  exact ⟨r, hreached, hs, hp, asked_unless_flush_failed hreached hs⟩

/-- The same run, but its output cannot be made final: it returns and its producer reads on. -/
theorem producer_left_reading : ∃ r, Reached step (silent (some "write refused")) r ∧
    r.result? = some (.error (.flush "write refused")) ∧
      ¬ (r.producer = .done ∨ r.cancelRequested = true) ∧
        ∀ (moves : List Move) (r' : Run), .arrive ∉ moves →
          moves.foldlM (fun r m => step m r) r = some r' →
            r'.producer = .reading ∧ r'.cancelRequested = false := by
  obtain ⟨r, hr, hs, hp, hn, hf⟩ : ∃ r, interruption.foldlM (fun r m => step m r)
      (silent (some "write refused")) = some r ∧
        r.result? = some (.error (.flush "write refused")) ∧ r.producer = .reading ∧
          r.cancelRequested = false ∧ r.feed.next = .nothing := ⟨_, rfl, rfl, rfl, rfl, rfl⟩
  have hc := consumer_of_result hs
  refine ⟨r, Reached.of_moves hr, hs, ?_, fun moves r' hm hr' => ⟨?_, ?_⟩⟩
  · rw [hp, hn]
    rintro (h | h) <;> cases h
  · exact reading_of_silent hc hn hp hf hm hr'
  · exact unrequested_later hc hn (Reached.of_moves hr')

end Run
end Handoff.Pipeline
